/-!
# Calendar dates

Dates of the Gregorian calendar from year 1 to year 9999, and their ordinals: the first of January of
year 1 is day 1. `Date.ofOrdinal?` and `Date.ordinal` are inverse to each other.
-/

namespace Tripwire.Time

/-- Whether a year has 366 days. -/
def isLeap (year : Nat) : Bool := year % 4 == 0 && (year % 100 != 0 || year % 400 == 0)

/-- The number of days of a month; zero for a month that does not exist. -/
def daysInMonth (year month : Nat) : Nat :=
  match month with
  | 1 | 3 | 5 | 7 | 8 | 10 | 12 => 31
  | 4 | 6 | 9 | 11 => 30
  | 2 => if isLeap year then 29 else 28
  | _ => 0

/-- The number of days before the first of January of a year. -/
def daysBeforeYear (year : Nat) : Nat :=
  let y := year - 1
  365 * y + y / 4 - y / 100 + y / 400

/-- The number of days of a year before the first of a month. -/
def daysBeforeMonth (year month : Nat) : Nat :=
  (List.range (month - 1)).foldl (fun days m => days + daysInMonth year (m + 1)) 0

/-- A day of the calendar. -/
structure Date where
  year : Nat
  month : Nat
  day : Nat
  year_pos : 1 ≤ year
  year_le : year ≤ 9999
  day_pos : 1 ≤ day
  day_le : day ≤ daysInMonth year month
deriving DecidableEq

/-- Why three numbers are no date. -/
inductive DateError where
  | year (given : Nat)
  | month
  | day
deriving DecidableEq, Repr

/-- The date with the given fields; of several bad fields the largest unit is blamed. -/
def Date.ofFields (year month day : Nat) : Except DateError Date :=
  if hy : 1 ≤ year ∧ year ≤ 9999 then
    if 1 ≤ month ∧ month ≤ 12 then
      if hd : 1 ≤ day ∧ day ≤ daysInMonth year month then
        .ok ⟨year, month, day, hy.1, hy.2, hd.1, hd.2⟩
      else .error .day
    else .error .month
  else .error (.year year)

/-- The number of the day, counted from the first of January of year 1. -/
def Date.ordinal (d : Date) : Nat := daysBeforeYear d.year + daysBeforeMonth d.year d.month + d.day

/-- The year in which a day lies, given its ordinal. The quotient misses by one year at most. -/
def yearOfOrdinal (n : Nat) : Nat :=
  let y := (n - 1) * 400 / 146097 + 1
  if n ≤ daysBeforeYear y then y - 1
  else if daysBeforeYear (y + 1) < n then y + 1
  else y

/-- The month and the day of the month of the `n`-th day of a year, looked for from `month` on with
`left` months to go. -/
def monthDayFrom (year : Nat) : Nat → Nat → Nat → Nat × Nat
  | 0, month, n => (month, n)
  | left + 1, month, n =>
    if n ≤ daysInMonth year month then (month, n)
    else monthDayFrom year left (month + 1) (n - daysInMonth year month)

/-- The date with the given ordinal, unless it lies outside the calendar. -/
def Date.ofOrdinal? (n : Int) : Option Date :=
  if n < 1 then none
  else
    let year := yearOfOrdinal n.toNat
    let (month, day) := monthDayFrom year 11 1 (n.toNat - daysBeforeYear year)
    (Date.ofFields year month day).toOption

/-- Zero for Monday to six for Sunday. -/
def weekday (ordinal : Nat) : Nat := (ordinal + 6) % 7

/-- The ordinal of the Monday of the first week of a year: the week that holds the fourth of
January. -/
def firstMonday (year : Nat) : Int :=
  let first : Int := daysBeforeYear year + 1
  let wd : Int := weekday (daysBeforeYear year + 1)
  let monday := first - wd
  if 3 < wd then monday + 7 else monday

def hasWeek (year week : Nat) : Bool :=
  if 1 ≤ week && week ≤ 52 then true
  else
    let wd := weekday (daysBeforeYear year + 1)
    week == 53 && (wd == 3 || (wd == 2 && isLeap year))

/-- The date of a day of a week: `day` is one for Monday to seven for Sunday. -/
def Date.ofWeek? (year week day : Nat) : Option Date :=
  if 1 ≤ year && hasWeek year week && 1 ≤ day && day ≤ 7 then
    Date.ofOrdinal? (firstMonday year + ((week - 1) * 7 + (day - 1) : Nat))
  else none

end Tripwire.Time
