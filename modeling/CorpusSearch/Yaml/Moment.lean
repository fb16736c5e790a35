-- Dates and times as YAML writes them, and why one that is well written may not exist.
import CorpusSearch.Number.Decimal
import CorpusSearch.Yaml.Cursor

namespace CorpusSearch.Yaml

/-- The time of a moment, with how many minutes it lies ahead of the time of Greenwich. -/
structure DayTime where
  hour : Nat
  minute : Nat
  second : Nat
  offset : Int := 0
  deriving DecidableEq, Repr

/-- A date, with a time or without one. -/
structure Moment where
  year : Nat
  month : Nat
  day : Nat
  time : Option DayTime := none
  deriving DecidableEq, Repr

namespace Moment

/-! ## Reading -/

/-- The number of the digits at the start of a text, of which there must be `least` and `most` are
read, and what stands behind them. -/
def takeFigures (least most : Nat) (text : Text) : Option (Nat × Text) :=
  let figures := (text.take most).takeWhile Char.isDigit
  if figures.length < least then none
  else some (Number.ofDigits figures, text.drop figures.length)

/-- What stands behind a mark at the start of a text. -/
def behind (mark : Char) : Text → Option Text
  | c :: rest => if c = mark then some rest else none
  | [] => none

/-- The minutes of an offset, which ends the text: the letter Z, or a sign, hours and perhaps
minutes. -/
def offset? : Text → Option Int
  | ['Z'] => some 0
  | sign :: rest => do
    if sign ≠ '+' && sign ≠ '-' then none
    let (hours, rest) ← takeFigures 1 2 rest
    let minutes ← match rest with
      | [] => some 0
      | rest => do
        let (minutes, rest) ← takeFigures 2 2 (← behind ':' rest)
        if rest.isEmpty then some minutes else none
    let ahead : Int := 60 * hours + minutes
    return if sign = '-' then -ahead else ahead
  | [] => none

/-- The time that ends a text. A fraction of a second is passed over. -/
def time? (text : Text) : Option DayTime := do
  let (hour, rest) ← takeFigures 1 2 text
  let (minute, rest) ← takeFigures 2 2 (← behind ':' rest)
  let (second, rest) ← takeFigures 2 2 (← behind ':' rest)
  let rest := match rest with
    | '.' :: rest => rest.dropWhile Char.isDigit
    | rest => rest
  if rest.isEmpty then return { hour, minute, second }
  else return { hour, minute, second, offset := (← offset? (rest.dropWhile isSpace)) }

/-- What stands behind the letter T or the blanks between a date and its time. -/
def behindDate : Text → Option Text
  | c :: rest =>
    if c = 'T' || c = 't' then some rest
    else if isSpace c then some (rest.dropWhile isSpace)
    else none
  | [] => none

/-- The moment that a text writes, whether it exists or not. -/
def ofText? (text : Text) : Option Moment := do
  let (year, rest) ← takeFigures 4 4 text
  let (month, rest) ← takeFigures 1 2 (← behind '-' rest)
  let (day, rest) ← takeFigures 1 2 (← behind '-' rest)
  if rest.isEmpty then return { year, month, day }
  else return { year, month, day, time := some (← time? (← behindDate rest)) }

/-- Whether a text without quotes is a moment: a date alone needs two digits for month and day. -/
def isWritten (text : Text) : Bool :=
  (ofText? text).any fun moment => moment.time.isSome || text.length = 10

/-! ## Existence -/

/-- Why a moment does not exist. -/
inductive Fault where
  | noYear (year : Nat)
  | noMonth
  | noDay
  | noHour
  | noMinute
  | noSecond
  /-- The time is a day or more ahead or behind. -/
  | noOffset (minutes : Int)
  deriving DecidableEq, Repr

def dayMinutes : Int := 1440

/-- What is said of a moment that does not exist. -/
def Fault.message : Fault → Text
  | .noYear year => "year " ++ Number.digits year ++ " is out of range"
  | .noMonth => "month must be in 1..12"
  | .noDay => "day is out of range for month"
  | .noHour => "hour must be in 0..23"
  | .noMinute => "minute must be in 0..59"
  | .noSecond => "second must be in 0..59"
  | .noOffset minutes =>
    let seconds := 60 * minutes.emod dayMinutes
    "offset must be a timedelta strictly between -timedelta(hours=24) and timedelta(hours=24), " ++
      "not datetime.timedelta(days=".toList ++ Number.decimal (minutes.ediv dayMinutes) ++
      (if seconds = 0 then [] else ", seconds=".toList ++ Number.decimal seconds) ++ ").".toList

/-- Whether a year has a day more. -/
def isLeap (year : Nat) : Bool := year % 4 = 0 && (year % 100 ≠ 0 || year % 400 = 0)

def daysIn (year month : Nat) : Nat :=
  if month = 2 then if isLeap year then 29 else 28
  else if month = 4 || month = 6 || month = 9 || month = 11 then 30
  else 31

/-- Checks the offset, then the date and then the time. -/
def check (moment : Moment) : Except Fault Unit := do
  let time := moment.time.getD ⟨0, 0, 0, 0⟩
  if dayMinutes ≤ time.offset || time.offset ≤ -dayMinutes then throw (.noOffset time.offset)
  if moment.year = 0 then throw (.noYear moment.year)
  if moment.month = 0 || 12 < moment.month then throw .noMonth
  if moment.day = 0 || daysIn moment.year moment.month < moment.day then throw .noDay
  if 23 < time.hour then throw .noHour
  if 59 < time.minute then throw .noMinute
  if 59 < time.second then throw .noSecond

end Moment

end CorpusSearch.Yaml
