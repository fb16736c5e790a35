-- Log entries, and computations that leave a trace of log entries and requests.
import CorpusSearch.Text.Basic

namespace CorpusSearch.Log

/-! ## Levels -/

/-- How serious an entry is; larger numbers are more serious. -/
abbrev Level := Int

namespace Level

/-- Details for tracing. -/
def debug : Level := 10

/-- The course of work. -/
def info : Level := 20

/-- Something was left out. -/
def warning : Level := 30

/-- A command failed. -/
def error : Level := 40

/-- Nothing can go on. -/
def critical : Level := 50

end Level

structure Entry where
  level : Level
  message : Text
  deriving DecidableEq, Repr

end CorpusSearch.Log

namespace CorpusSearch

/-- Something that a computation does on its way: it asks for the content of an address, or it
logs. -/
inductive Event where
  | request (url : Text)
  | log (entry : Log.Entry)
  deriving DecidableEq, Repr

/-- A value with the events on the way to it, in order. -/
structure Traced (α : Type) where
  value : α
  events : List Event := []

namespace Traced

instance instMonad : Monad Traced where
  pure a := { value := a }
  bind t f :=
    let next := f t.value
    { value := next.value, events := t.events ++ next.events }

def log (level : Log.Level) (message : Text) : Traced Unit :=
  { value := (), events := [.log { level, message }] }

def request (url : Text) : Traced Unit := { value := (), events := [.request url] }

def entries {α : Type} (traced : Traced α) : List Log.Entry :=
  traced.events.filterMap fun
    | .log entry => some entry
    | .request _ => none

/-- The addresses that were asked for on the way. -/
def requests {α : Type} (traced : Traced α) : List Text :=
  traced.events.filterMap fun
    | .log _ => none
    | .request url => some url

end Traced

end CorpusSearch
