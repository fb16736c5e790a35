-- Requests that are repeated when they fail for a while: the pause doubles each time, up to a
-- limit.
import CorpusSearch.Log.Entry
import CorpusSearch.Number.Shortest

namespace CorpusSearch.Net

/-! ## What comes back -/

structure Response where
  status : Int
  reason : Option Text := none
  headers : List (Text × Text) := []
  body : List UInt8 := []
  deriving DecidableEq, Repr

/-- What went wrong with a request. -/
inductive Trouble where
  | timeout
  | connectTimeout
  | readTimeout
  | connection
  | tls
  | proxy
  /-- The response has a status of failure. -/
  | status (code : Int)
  /-- Any other trouble, with its name. -/
  | other (name : Text)
  /-- The pause before the next request is larger than every floating-point number. -/
  | pauseOverflow
  deriving DecidableEq, Repr

structure Failure where
  trouble : Trouble
  message : Text
  deriving DecidableEq, Repr

abbrev Reply := Except Failure Response

/-- The states of failure that may pass. -/
def passingStatus : List Int := [429, 500, 502, 503, 504]

def Trouble.mayPass : Trouble → Bool
  | .timeout | .connectTimeout | .readTimeout | .connection | .tls | .proxy => true
  | .status code => code ∈ passingStatus
  | .other _ | .pauseOverflow => false

/-- A reply with a status of failure counts as a failed request. -/
def checked (url : Text) : Reply → Reply
  | .error failure => .error failure
  | .ok response =>
    let shown := Number.decimal response.status
    let blame (side : Text) : Reply :=
      .error ⟨.status response.status,
        shown ++ " " ++ side ++ " Error: " ++ response.reason.getD "None" ++ " for url: " ++ url⟩
    if response.status ∈ passingStatus then
      .error ⟨.status response.status, "HTTP " ++ shown⟩
    else if 400 ≤ response.status && response.status < 500 then blame "Client"
    else if 500 ≤ response.status && response.status < 600 then blame "Server"
    else .ok response

/-! ## Pauses -/

/-- The pause before the second request, in seconds. -/
def basePause : Double := .ofDecimal false 8 (-1)

/-- The longest pause, in seconds. -/
def maxPause : Double := .ofDecimal false 8 0

/-- The pause behind the request with the number `attempt`, counted from zero: the base pause
doubled that often, with the jitter added, and cut off at the longest pause. -/
def pause? (attempt : Nat) (jitter : Double) : Option Double :=
  (Double.ofInt? (Number.twoTo attempt)).map fun factor =>
    let wanted := (basePause.mul factor).add jitter
    if maxPause.lt wanted then maxPause else wanted

/-! ## The requests -/

/-- The course of a request with its repetitions. -/
structure Course where
  result : Reply
  requests : Nat
  pauses : List Double
  log : List Log.Entry
  deriving Repr

/-- How often a request is made when nothing else is configured. -/
def defaultAttempts : Int := 3

/-- The most requests that a configured count allows; there is always one. -/
def attemptLimit (configured : Int) : Nat := max 1 configured.toNat

/-- What is logged before a request is repeated. -/
def retryMessage (url : Text) (limit attempt : Nat) (pause : Double) (failure : Failure) : Text :=
  "GET retry attempt=" ++ Number.digits (attempt + 1) ++ "/" ++ Number.digits limit ++ " delay=" ++
    pause.fixed 2 ++ "s url=" ++ url ++ " error=" ++ failure.message

/-- What is said of a pause past every floating-point number. -/
def pauseTooLarge : Text := "int too large to convert to float"

/-- Makes the request with the number `attempt` and up to `left` more. `session` gives the reply
and `jitter` the jitter of each number. -/
def courseFrom (session : Nat → Reply) (jitter : Nat → Double) (url : Text) (limit : Nat) :
    (left attempt : Nat) → Course
  | left, attempt =>
    match checked url (session attempt) with
    | .ok response => ⟨.ok response, 1, [], []⟩
    | .error failure =>
      if !failure.trouble.mayPass then ⟨.error failure, 1, [], []⟩
      else match left with
        | 0 => ⟨.error failure, 1, [], []⟩
        | left + 1 => match pause? attempt (jitter attempt) with
          | none => ⟨.error ⟨.pauseOverflow, pauseTooLarge⟩, 1, [], []⟩
          | some pause =>
            let rest := courseFrom session jitter url limit left (attempt + 1)
            { rest with
              requests := rest.requests + 1
              pauses := pause :: rest.pauses
              log := ⟨.debug, retryMessage url limit attempt pause failure⟩ :: rest.log }

/-- Requests an address, again and again while that may help and the limit allows it. -/
def get (session : Nat → Reply) (jitter : Nat → Double) (limit : Nat) (url : Text) : Course :=
  courseFrom session jitter url limit (limit - 1) 0

end CorpusSearch.Net
