-- The time of day, as it stands in lines of the log and in names of files.
import CorpusSearch.Number.Decimal

namespace CorpusSearch.Log

/-- A moment, to the second. -/
structure Clock where
  year : Nat
  month : Nat
  day : Nat
  hour : Nat
  minute : Nat
  second : Nat
  deriving DecidableEq, Repr

namespace Clock

/-- A number in two digits at least. -/
def two (n : Nat) : Text :=
  let figures := Number.digits n
  if figures.length < 2 then '0' :: figures else figures

def lineStamp (clock : Clock) : Text :=
  two clock.month ++ ['-'] ++ two clock.day ++ [' '] ++ two clock.hour ++ [':'] ++
    two clock.minute ++ [':'] ++ two clock.second

/-- The hour, minute and second in digits. -/
def timeDigits (clock : Clock) : Text := two clock.hour ++ two clock.minute ++ two clock.second

/-- The stamp in the name of a log file. -/
def logStamp (clock : Clock) : Text := two clock.month ++ two clock.day ++ clock.timeDigits

/-- The stamp in the name of a file of results. -/
def resultStamp (clock : Clock) : Text :=
  Number.digits clock.year ++ two clock.month ++ two clock.day ++ ['_'] ++ clock.timeDigits

end Clock

end CorpusSearch.Log
