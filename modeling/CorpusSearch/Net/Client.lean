-- The two clients: one for the texts of documents and one for catalogs.
import CorpusSearch.Charset.Name
import CorpusSearch.Json.Reader
import CorpusSearch.Net.Retry
import CorpusSearch.Text.Blank
import CorpusSearch.Text.Case

namespace CorpusSearch.Net

/-! ## Headers -/

/-- The name under which requests are made. -/
def userAgent : Text := "lawsearch/0.1"

def textAccept : Text := "text/plain,*/*;q=0.8"

def catalogAccept : Text := "application/json"

def requestHeaders (accept : Text) : List (Text × Text) :=
  [("User-Agent", userAgent), ("Accept", accept), ("Cache-Control", "no-store")]

/-- The seconds that a request may take when nothing else is configured. -/
def defaultTimeout : Double := .ofDecimal false 30 0

/-! ## Content types -/

/-- The characters that are dropped at both ends of the name and the value of a parameter. -/
def isParamEdge (c : Char) : Bool := c == '"' || c == '\'' || c == ' '

/-- A text without the characters of `edge` at its ends. -/
def trim (edge : Char → Bool) (text : Text) : Text :=
  ((text.dropWhile edge).reverse.dropWhile edge).reverse

/-- A parameter behind a semicolon, as its name in small letters and its value; what gives no value
is no parameter. -/
def param? (text : Text) : Option (Text × Text) :=
  (Text.cutAt? (· == '=') text.strip).map fun (name, value) =>
    ((trim isParamEdge name).lower, trim isParamEdge value)

/-- The name of the character set that a content type gives: its parameter `charset`, else the one
that is usual for texts or for JSON. -/
def charsetName? (contentType : Text) : Option Text :=
  match Text.splitAt (· == ';') contentType with
  | [] => none
  | media :: params =>
    match (params.reverse.filterMap param?).lookup "charset".toList with
    | some name => some (trim (fun c => c == '"' || c == '\'') name)
    | none =>
      if Text.occursIn "text" media then some "ISO-8859-1"
      else if Text.occursIn "application/json" media then some "utf-8"
      else none

/-! ## Bodies -/

/-- Why a body cannot be read. -/
inductive BodyFault where
  /-- The character set of this name gives no text. -/
  | charset (name : Text) (fault : Charset.Fault)
  | json (fault : Json.Fault)
  deriving DecidableEq, Repr

/-- What is said of a body that cannot be read. -/
def BodyFault.message : BodyFault → Text
  | .charset name fault => fault.message name
  | .json fault => fault.message

namespace Response

/-- The value of a header, whatever the case of its name; the last one counts. -/
def header? (name : Text) (response : Response) : Option Text :=
  (response.headers.reverse.find? fun header => header.1.lower = name.lower).map (·.2)

/-- The name of the character set that the headers give. -/
def charset? (response : Response) : Option Text :=
  match response.header? "content-type" with
  | none | some [] => none
  | some contentType => charsetName? contentType

/-- The body in the character set of a name. -/
def textIn (name : Text) (response : Response) : Except BodyFault Text :=
  (Charset.decodeNamed name response.body).mapError (.charset name)

/-- The body as the text of a document: in the character set that the content type names, and in
UTF-8 when it names none. -/
def text (response : Response) : Except BodyFault Text :=
  let named := Text.occursIn "charset" ((response.header? "content-type").getD []).lower
  match response.charset? with
  | some (c :: name) =>
    if named then response.textIn (c :: name) else .ok (Text.ofUtf8 response.body)
  | _ => .ok (Text.ofUtf8 response.body)

/-- The character set of a JSON text without a named one, as its first bytes tell it. -/
def jsonCharset (body : List UInt8) : Charset :=
  let isZero := (body.take 4).map (· == 0)
  if [0xFF, 0xFE, 0, 0].isPrefixOf body || [0, 0, 0xFE, 0xFF].isPrefixOf body then .utf32 .marked
  else if [0xEF, 0xBB, 0xBF].isPrefixOf body then .utf8Marked
  else if [0xFF, 0xFE].isPrefixOf body || [0xFE, 0xFF].isPrefixOf body then .utf16 .marked
  else if isZero = [true, false, true, false] then .utf16 .big
  else if isZero = [false, true, false, true] then .utf16 .little
  else if isZero = [true, true, true, false] then .utf32 .big
  else if isZero = [false, true, true, true] then .utf32 .little
  else .utf8

def jsonText (response : Response) : Except BodyFault Text :=
  match response.charset? with
  | some (c :: name) => response.textIn (c :: name)
  | _ =>
    if response.body.length ≤ 3 then .ok (Text.ofUtf8 response.body)
    else ((jsonCharset response.body).decode response.body).mapError (.charset "utf-8")

def json (response : Response) : Except BodyFault Value := do
  (Json.read (← response.jsonText)).mapError .json

end Response

/-! ## The clients -/

/-- What a client gets: a value, a failed request, or a body that cannot be read. -/
inductive Fetched (α : Type) where
  | done (value : α)
  | failed (failure : Failure)
  | unreadable (fault : BodyFault)
  deriving Repr

/-- Reads the body of the response that a request comes to, and tells it in the log. -/
def readBody {α : Type} (read : Response → Except BodyFault α) (report : Response → α → Text)
    (course : Course) : Fetched α × Course :=
  match course.result with
  | .error failure => (.failed failure, course)
  | .ok response => match read response with
    | .error fault => (.unreadable fault, course)
    | .ok value =>
      (.done value, { course with log := course.log ++ [⟨.debug, report response value⟩] })

/-- The text of a document, with the course of the request. -/
def fetchText (session : Nat → Reply) (jitter : Nat → Double) (limit : Nat) (url : Text) :
    Fetched Text × Course :=
  readBody Response.text
    (fun _ text => "Text fetched: url=" ++ url ++ " chars=" ++ Number.digits text.length)
    (get session jitter limit url)

/-- A catalog, with the course of the request. -/
def fetchCatalog (session : Nat → Reply) (jitter : Nat → Double) (limit : Nat) (url : Text) :
    Fetched Value × Course :=
  readBody Response.json
    (fun response _ =>
      "Catalog fetched: url=" ++ url ++ " bytes=" ++ Number.digits response.body.length)
    (get session jitter limit url)

end CorpusSearch.Net
