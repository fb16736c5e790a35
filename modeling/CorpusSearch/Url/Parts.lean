-- Addresses and their parts: taken apart, and put together again.
import CorpusSearch.Text.Case
import CorpusSearch.Text.Decomposition
import CorpusSearch.Text.Quoted
import CorpusSearch.Url.Host

namespace CorpusSearch.Url

/-- Why an address cannot be taken apart. -/
inductive Fault where
  /-- A bracket in the host has no partner, or text beside it. -/
  | unbalanced
  /-- The host in brackets starts like a later version and is none. -/
  | badLaterVersion
  /-- The host in brackets is an address of version 4. -/
  | version4
  /-- The host in brackets is no numeric address. -/
  | noAddress (host : Text)
  /-- A character of the host decomposes into one that separates the parts of an address. -/
  | unsafeHost (authority : Text)
  deriving DecidableEq, Repr

def Fault.message : Fault → Text
  | .unbalanced => "Invalid IPv6 URL"
  | .badLaterVersion => "IPvFuture address is invalid"
  | .version4 => "An IPv4 address cannot be in brackets"
  | .noAddress host => Text.quoted host ++ " does not appear to be an IPv4 or IPv6 address"
  | .unsafeHost authority =>
    "netloc '" ++ authority ++ "' contains invalid characters under NFKC normalization"

/-- The parts of an address. The parameters stand behind a semicolon in the last segment of the
path. -/
structure Parts where
  scheme : Text
  authority : Text
  path : Text
  params : Text
  query : Text
  fragment : Text
  deriving DecidableEq, Repr

/-! ## Schemes -/

/-- Schemes under which a relative address is resolved; the empty one stands for no scheme. -/
def relativeSchemes : List Text :=
  ["", "ftp", "http", "gopher", "nntp", "imap", "wais", "file", "https", "shttp", "mms",
    "prospero", "rtsp", "rtsps", "rtspu", "sftp", "svn", "svn+ssh", "ws", "wss"]

/-- Schemes whose addresses name a host. -/
def hostSchemes : List Text :=
  ["", "ftp", "http", "gopher", "nntp", "telnet", "imap", "wais", "file", "mms", "https", "shttp",
    "snews", "prospero", "rtsp", "rtsps", "rtspu", "rsync", "svn", "svn+ssh", "sftp", "nfs", "git",
    "git+ssh", "ws", "wss"]

/-- Schemes whose addresses may have parameters. -/
def paramSchemes : List Text :=
  ["", "ftp", "hdl", "prospero", "http", "imap", "https", "shttp", "rtsp", "rtsps", "rtspu", "sip",
    "sips", "mms", "sftp", "tel"]

/-- Whether a character may stand in a scheme. -/
def isSchemeChar (c : Char) : Bool := c.isAlphanum || c == '+' || c == '-' || c == '.'

/-- The scheme before the first colon in small letters, and what stands behind it; the address has
no scheme unless it starts with a letter and all before the colon fits a scheme. -/
def splitScheme (other url : Text) : Text × Text :=
  match Text.cutAt? (· == ':') url with
  | none => (other, url)
  | some (scheme, rest) =>
    if (scheme.head?.any Char.isAlpha) && scheme.all isSchemeChar then
      (scheme.map Char.toLower, rest)
    else (other, url)

/-! ## Host and path -/

/-- The host of an authority with brackets: behind the last `@`, it stands in brackets with nothing
but a port behind them, or has no brackets and ends at a colon. -/
def bracketedHost (authority : Text) : Except Fault Text :=
  let place := ((Text.cutAtLast? (· == '@') authority).map (·.2)).getD authority
  match Text.cutAt? (· == '[') place with
  | none => .ok (place.takeWhile (· != ':'))
  | some (_ :: _, _) => .error .unbalanced
  | some ([], inside) =>
    match Text.cutAt? (· == ']') inside with
    | none => .ok inside
    | some (host, port) =>
      if port.isEmpty || port.head? = some ':' then .ok host else .error .unbalanced

/-- Refuses a host that belongs in brackets and is no numeric address. -/
def checkNumeric (host : Text) : Except Fault Unit :=
  if host.head? = some 'v' then
    if isLaterVersion host then .ok () else .error .badLaterVersion
  else if isVersion4 host then .error .version4
  else if isVersion6 host then .ok ()
  else .error (.noAddress host)

/-- Refuses brackets without a partner, and beside brackets what is no numeric address. -/
def checkBrackets (authority : Text) : Except Fault Unit :=
  if authority.contains '[' != authority.contains ']' then .error .unbalanced
  else if authority.contains '[' then do checkNumeric (← bracketedHost authority)
  else .ok ()

/-- A character that separates parts of an address. -/
def isDelimiter (c : Char) : Bool :=
  c == '/' || c == '?' || c == '#' || c == '@' || c == ':'

/-- Refuses a host with a character that decomposes into a delimiter. -/
def checkHost (authority : Text) : Except Fault Unit :=
  let rest := authority.filter fun c => !isDelimiter c
  if (Text.decompose rest).any isDelimiter then .error (.unsafeHost authority) else .ok ()

/-- The authority behind two slashes up to the next delimiter of a path, query or fragment, and what
stands behind it. -/
def splitAuthority (url : Text) : Text × Text :=
  match url with
  | '/' :: '/' :: rest => rest.span fun c => c != '/' && c != '?' && c != '#'
  | url => ([], url)

/-- What stands before the first `mark`, and what stands behind it. -/
def splitMark (mark : Char) (url : Text) : Text × Text :=
  (Text.cutAt? (· == mark) url).getD (url, [])

/-- A path without the parameters of its last segment, and these. -/
def splitParams (path : Text) : Text × Text :=
  match Text.cutAtLast? (· == '/') path with
  | none => splitMark ';' path
  | some (before, last) =>
    let (segment, params) := splitMark ';' last
    (before ++ '/' :: segment, params)

/-! ## Whole addresses -/

namespace Parts

/-- Takes an address apart; `other` is its scheme when it names none. Controls and spaces at the
start are dropped, and tabs and line ends everywhere. -/
def read (other url : Text) : Except Fault Parts := do
  let url := (url.dropWhile fun c => c.toNat ≤ 32).filter fun c =>
    c != '\t' && c != '\r' && c != '\n'
  let (scheme, url) := splitScheme other url
  let (authority, url) := splitAuthority url
  checkBrackets authority
  let (url, fragment) := splitMark '#' url
  let (path, query) := splitMark '?' url
  checkHost authority
  let (path, params) := if paramSchemes.contains scheme then splitParams path else (path, [])
  return { scheme, authority, path, params, query, fragment }

/-- Puts an address together. An address with a host has a path that starts at the root; a scheme
that names hosts shows an empty one, unless the path starts with two slashes itself. -/
def write (parts : Parts) : Text :=
  let path := if parts.params.isEmpty then parts.path else parts.path ++ ';' :: parts.params
  let named := !parts.authority.isEmpty ||
    (!parts.scheme.isEmpty && hostSchemes.contains parts.scheme &&
      !(List.isPrefixOf ['/', '/'] path))
  let rooted := if path.isEmpty || path.head? = some '/' then path else '/' :: path
  (if parts.scheme.isEmpty then [] else parts.scheme ++ [':']) ++
    (if named then ['/', '/'] ++ parts.authority ++ rooted else path) ++
    (if parts.query.isEmpty then [] else '?' :: parts.query) ++
    (if parts.fragment.isEmpty then [] else '#' :: parts.fragment)

end Parts

end CorpusSearch.Url
