namespace OpticTune

/-! Days of the calendar, and moments on them.

Two moments are one if they are written alike, or if both are tied to universal
time and fall together in it.
-/

structure Day where
  year : Nat
  month : Nat
  day : Nat
deriving Repr, DecidableEq

namespace Day

def isLeap (year : Nat) : Bool :=
  year % 4 == 0 && (year % 100 != 0 || year % 400 == 0)

def monthLength (year month : Nat) : Nat :=
  if month = 2 then if isLeap year then 29 else 28
  else if month = 4 ∨ month = 6 ∨ month = 9 ∨ month = 11 then 30
  else 31

/-- Whether the calendar, which begins with the year 1, has the day. -/
def isValid (day : Day) : Bool :=
  decide (1 ≤ day.year) && decide (1 ≤ day.month) && decide (day.month ≤ 12)
    && decide (1 ≤ day.day) && decide (day.day ≤ monthLength day.year day.month)

/-- The days up to and with this one, the first of the calendar being 1. -/
def number (day : Day) : Nat :=
  let past := day.year - 1
  let months := (List.range (day.month - 1)).map fun month => monthLength day.year (month + 1)
  365 * past + past / 4 - past / 100 + past / 400 + months.foldl (· + ·) 0 + day.day

end Day

structure Moment where
  day : Day
  hour : Nat
  minute : Nat
  second : Nat
  microsecond : Nat
  /-- The minutes ahead of universal time, if the moment is tied to it. -/
  ahead : Option Int
deriving Repr, DecidableEq

namespace Moment

def minutesADay : Nat := 24 * 60

/-- No clock is ahead of universal time, or behind it, by a day. -/
def isValid (moment : Moment) : Bool :=
  moment.day.isValid && decide (moment.hour < 24) && decide (moment.minute < 60)
    && decide (moment.second < 60)
    && moment.ahead.all fun minutes => decide (minutes.natAbs < minutesADay)

/-- The microseconds of universal time, if the moment is tied to it. -/
def universal? (moment : Moment) : Option Int :=
  moment.ahead.map fun ahead =>
    let minutes : Int := minutesADay * moment.day.number + 60 * moment.hour + moment.minute - ahead
    (60 * minutes + moment.second) * 1000000 + moment.microsecond

def same (moment other : Moment) : Bool :=
  match moment.universal?, other.universal? with
  | some instant, some other => instant == other
  | none, none => moment == other
  | _, _ => false

end Moment

end OpticTune
