import TypingAudit.Command.Environment

/-!
The forms of a moment in time. Years are counted from March, so that a leap day is the last of its year; four
hundred of them always have the same number of days.
-/

namespace TypingAudit.Command

structure Moment where
  year : Nat
  month : Nat
  day : Nat
  hour : Nat
  minute : Nat
  second : Nat
  millisecond : Nat
deriving DecidableEq, Repr

namespace Moment

def daysInCycle : Nat := 146097

/-- The days from the first of March of the year zero to the first of January 1970. -/
def daysBefore1970 : Nat := 719468

def ofMilliseconds (elapsed : Nat) : Moment :=
  let seconds := elapsed / 1000
  let days := seconds / 86400 + daysBefore1970
  let dayOfCycle := days % daysInCycle
  let yearOfCycle :=
    (dayOfCycle - dayOfCycle / 1460 + dayOfCycle / 36524 - dayOfCycle / 146096) / 365
  let dayOfYear := dayOfCycle - (365 * yearOfCycle + yearOfCycle / 4 - yearOfCycle / 100)
  let monthFromMarch := (5 * dayOfYear + 2) / 153
  let month := if monthFromMarch < 10 then monthFromMarch + 3 else monthFromMarch - 9
  { year := yearOfCycle + days / daysInCycle * 400 + (if month ≤ 2 then 1 else 0)
    month
    day := dayOfYear - (153 * monthFromMarch + 2) / 5 + 1
    hour := seconds / 3600 % 24
    minute := seconds / 60 % 60
    second := seconds % 60
    millisecond := elapsed % 1000 }

def padded (width n : Nat) : String :=
  let figures := toString n
  String.ofList (List.replicate (width - figures.length) '0') ++ figures

def date (m : Moment) (separator : String) : String :=
  separator.intercalate [padded 4 m.year, padded 2 m.month, padded 2 m.day]

def time (m : Moment) (separator : String) : String :=
  separator.intercalate [padded 2 m.hour, padded 2 m.minute, padded 2 m.second]

def clock (m : Moment) : Clock where
  inName := m.date "" ++ "_" ++ m.time ""
  inLog := m.date "-" ++ " " ++ m.time ":" ++ "," ++ padded 3 m.millisecond
  inReport := m.date "-" ++ "T" ++ m.time ":" ++ "." ++ padded 3 m.millisecond ++ "Z"

end Moment

end TypingAudit.Command
