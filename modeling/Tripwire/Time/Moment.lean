import Tripwire.Time.Date

/-!
# Moments

A moment is a date, a time of day and, unless it is naive, an offset from universal time. Its instant
is a number of microseconds, with naive moments read as universal time; instants are what moments are
compared by.
-/

namespace Tripwire.Time

/-- A time of day in microseconds' resolution. -/
structure Clock where
  hour : Nat
  minute : Nat
  second : Nat
  microsecond : Nat
  hour_lt : hour < 24
  minute_lt : minute < 60
  second_lt : second < 60
  microsecond_lt : microsecond < 1000000
deriving DecidableEq

/-- Why four numbers are no time of day. -/
inductive ClockError where
  | hour
  | minute
  | second
  | microsecond
deriving DecidableEq, Repr

/-- The time of day with the given fields; of several bad fields the largest unit is blamed. -/
def Clock.ofFields (hour minute second microsecond : Nat) : Except ClockError Clock :=
  if hh : hour < 24 then
    if hm : minute < 60 then
      if hs : second < 60 then
        if hu : microsecond < 1000000 then
          .ok ⟨hour, minute, second, microsecond, hh, hm, hs, hu⟩
        else .error .microsecond
      else .error .second
    else .error .minute
  else .error .hour

def Clock.midnight : Clock := ⟨0, 0, 0, 0, by decide, by decide, by decide, by decide⟩

def dayMicros : Nat := 86400000000

def Clock.micros (c : Clock) : Nat :=
  ((c.hour * 60 + c.minute) * 60 + c.second) * 1000000 + c.microsecond

/-- The time of day that is `n` microseconds after midnight, days left out. -/
def Clock.ofMicros (n : Nat) : Clock :=
  { hour := n / 3600000000 % 24
    minute := n / 60000000 % 60
    second := n / 1000000 % 60
    microsecond := n % 1000000
    hour_lt := Nat.mod_lt _ (by decide)
    minute_lt := Nat.mod_lt _ (by decide)
    second_lt := Nat.mod_lt _ (by decide)
    microsecond_lt := Nat.mod_lt _ (by decide) }

/-- An offset from universal time in microseconds, less than a day either way. -/
structure Offset where
  micros : Int
  abs_lt : micros.natAbs < dayMicros
deriving DecidableEq

/-- The offset of so many microseconds, unless it is a day or more. -/
def Offset.ofMicros? (micros : Int) : Option Offset :=
  if h : micros.natAbs < dayMicros then some ⟨micros, h⟩ else none

def Offset.utc : Offset := ⟨0, by decide⟩

/-- A date and a time of day, with or without an offset. -/
structure Moment where
  date : Date
  clock : Clock
  offset : Option Offset
deriving DecidableEq

/-- The moment read as universal time if it is naive. -/
def Moment.aware (m : Moment) : Moment :=
  match m.offset with
  | some _ => m
  | none => { m with offset := some Offset.utc }

/-- Microseconds since the midnight before the first day of the calendar, by the moment's own
clock. -/
def Moment.wallMicros (m : Moment) : Int := (m.date.ordinal * dayMicros + m.clock.micros : Nat)

/-- The instant in microseconds; a naive moment is read as universal time. -/
def Moment.instant (m : Moment) : Int :=
  m.wallMicros - (match m.offset with | some o => o.micros | none => 0)

/-- The moment in universal time with the given instant, if the calendar holds it. -/
def Moment.ofInstant? (micros : Int) : Option Moment :=
  (Date.ofOrdinal? (micros / dayMicros)).map fun d =>
    ⟨d, Clock.ofMicros (micros % dayMicros).toNat, some Offset.utc⟩

/-- The same instant in universal time, if the calendar holds it. -/
def Moment.toUtc? (m : Moment) : Option Moment := Moment.ofInstant? m.instant

/-- Whether one moment is strictly before another, as instants. -/
def Moment.before (a b : Moment) : Bool := a.instant < b.instant

end Tripwire.Time
