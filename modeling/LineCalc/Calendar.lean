/-!
Dates and times of day. A date with a time may be local or have its distance from universal time.
-/
namespace LineCalc

structure Date where
  year : Nat
  month : Nat
  day : Nat
  deriving DecidableEq, Repr

structure ClockTime where
  hour : Nat
  minute : Nat
  second : Nat
  microsecond : Nat := 0
  deriving DecidableEq, Repr

inductive Moment where
  | date (date : Date)
  | time (time : ClockTime)
  /-- The offset is in minutes to the east. -/
  | dateTime (date : Date) (time : ClockTime) (offset? : Option Int)
  deriving DecidableEq, Repr

namespace Date

def isLeapYear (year : Nat) : Bool :=
  year % 4 = 0 && (year % 100 ≠ 0 || year % 400 = 0)

def daysIn (year month : Nat) : Nat :=
  if month = 2 then (if isLeapYear year then 29 else 28)
  else if month ∈ [4, 6, 9, 11] then 30
  else 31

def daysBefore (year : Nat) : (month : Nat) → Nat
  | 0 => 0
  | month + 1 => daysBefore year month + (if month = 0 then 0 else daysIn year month)

def dayNumber (date : Date) : Nat :=
  let years := date.year - 1
  years * 365 + years / 4 - years / 100 + years / 400 + daysBefore date.year date.month + date.day

end Date

def ClockTime.seconds (time : ClockTime) : Nat :=
  (time.hour * 60 + time.minute) * 60 + time.second

def Moment.instant (date : Date) (time : ClockTime) (offset : Int) : Int :=
  (date.dayNumber * 86400 + time.seconds : Nat) - offset * 60

/-- Moments with offsets are the same if they are at the same instant, others if they are written
alike. -/
def Moment.same : Moment → Moment → Bool
  | dateTime d t (some offset), dateTime d' t' (some offset') =>
    instant d t offset == instant d' t' offset' && t.microsecond == t'.microsecond
  | a, b => a == b

end LineCalc
