import Tripwire.Decimal.Notation
import Tripwire.Time.Moment

/-!
# Moments as text

The printed form of a moment, `2020-01-01T00:00:00.000001+05:30`, and a reader that takes the
calendar and week forms of dates, with or without separators, any character between date and time,
fractions of any length and offsets down to microseconds.

The reader is lenient in three places. A character of ASCII directly before the sign of an offset is
passed over, and so is everything between a fraction of six digits and that sign. Minutes and seconds
of an offset have two digits each and are not checked further; only the whole offset is.
-/

namespace Tripwire.Time

open Tripwire.Decimal (padded)

/-! ### Printing -/

/-- A date as `YYYY-MM-DD`. -/
def Date.iso (d : Date) : String :=
  padded 4 d.year ++ "-" ++ padded 2 d.month ++ "-" ++ padded 2 d.day

/-- A time of day as `HH:MM:SS`, with six places of a second unless they are zero. -/
def Clock.iso (c : Clock) : String :=
  padded 2 c.hour ++ ":" ++ padded 2 c.minute ++ ":" ++ padded 2 c.second ++
    (if c.microsecond = 0 then "" else "." ++ padded 6 c.microsecond)

/-- An offset as `+HH:MM`, with seconds and their six places unless they are zero. -/
def Offset.iso (o : Offset) : String :=
  let micros := o.micros.natAbs
  let seconds := micros / 1000000
  (if o.micros < 0 then "-" else "+") ++ padded 2 (seconds / 3600) ++ ":" ++
    padded 2 (seconds / 60 % 60) ++
    (if micros % 60000000 = 0 then ""
     else ":" ++ padded 2 (seconds % 60) ++
       (if micros % 1000000 = 0 then "" else "." ++ padded 6 (micros % 1000000)))

/-- A moment with `separator` between its date and its time. -/
def Moment.isoWith (separator : String) (m : Moment) : String :=
  m.date.iso ++ separator ++ m.clock.iso ++ (match m.offset with | some o => o.iso | none => "")

def Moment.iso (m : Moment) : String := m.isoWith "T"

/-! ### Reading numbers of fixed width -/

/-- The character that stands past the end of a text. -/
def pastEnd : Char := Char.ofNat 0

/-- Reads exactly `width` digits of ASCII. -/
def takeNumber : Nat → List Char → Option (Nat × List Char)
  | 0, cs => some (0, cs)
  | _ + 1, [] => none
  | width + 1, c :: rest =>
    if '0' ≤ c && c ≤ '9' then
      (takeNumber width rest).map fun (n, r) => ((c.toNat - 48) * Nat.pow 10 width + n, r)
    else none

/-! ### Reading dates -/

/-- Where the date ends and its separator begins. Digits 4 and 5 tell the forms apart; after
`YYYYWww` the parity of the digits that follow does. -/
def dateWidth (cs : List Char) : Nat :=
  let char (i : Nat) : Char := cs.getD i pastEnd
  let isDigit (c : Char) : Bool := '0' ≤ c && c ≤ '9'
  if cs.length = 7 then 7
  else if char 4 = '-' then
    if char 5 = 'W' then
      if 8 < cs.length && char 8 = '-' then
        if 10 < cs.length && isDigit (char 10) then 8 else 10
      else 8
    else 10
  else if char 4 = 'W' then
    let stop := 7 + ((cs.drop 7).takeWhile isDigit).length
    if stop < 9 then stop else if stop % 2 = 0 then 7 else 8
  else 8

def skipHyphen (needed : Bool) (cs : List Char) : Option (List Char) :=
  if needed then
    match cs with
    | '-' :: rest => some rest
    | _ => none
  else some cs

/-- Reads a whole text as a date: `YYYY-MM-DD`, `YYYYMMDD`, or a week date with or without a day. -/
def readDate? (cs : List Char) : Option Date := do
  let (year, rest) ← takeNumber 4 cs
  let hyphens := rest.head? == some '-'
  let rest := if hyphens then rest.tail else rest
  match rest with
  | 'W' :: rest =>
    let (week, rest) ← takeNumber 2 rest
    if rest.isEmpty then Date.ofWeek? year week 1
    else
      let rest ← skipHyphen hyphens rest
      let (day, rest) ← takeNumber 1 rest
      if rest.isEmpty then Date.ofWeek? year week day else none
  | rest =>
    let (month, rest) ← takeNumber 2 rest
    let rest ← skipHyphen hyphens rest
    let (day, rest) ← takeNumber 2 rest
    if rest.isEmpty then (Date.ofFields year month day).toOption else none

/-! ### Reading times and offsets -/

/-- Fields of a time as read, not yet checked, and whether something was left unread. -/
structure ClockReading where
  hour : Nat := 0
  minute : Nat := 0
  second : Nat := 0
  microsecond : Nat := 0
  leftover : Bool := false

/-- Reads the digits of a fraction of a second. Those after the sixth are passed over. -/
def readFraction? (cs : List Char) : Option (Nat × Bool) := do
  let width := min 6 cs.length
  let (n, rest) ← takeNumber width cs
  let rest := rest.dropWhile fun c => '0' ≤ c && c ≤ '9'
  some (n * Nat.pow 10 (6 - width), rest.headD pastEnd != pastEnd)

/-- Stores the number of a field: hours first, then minutes, then seconds. -/
def ClockReading.store (r : ClockReading) (field n : Nat) : ClockReading :=
  match field with
  | 0 => { r with hour := n }
  | 1 => { r with minute := n }
  | _ => { r with second := n }

/-- Reads `HH[:MM[:SS]]` or `HH[MM[SS]]`, then a fraction, from field `3 - left` on. Once nothing, or
a single character of ASCII, remains after a field, the rest of the fields is zero. -/
def readFields? (colons : Bool) : Nat → List Char → ClockReading → Option ClockReading
  | 0, cs, r => do
    let (micros, leftover) ← readFraction? cs
    some { r with microsecond := micros, leftover }
  | left + 1, cs, r => do
    let (n, rest) ← takeNumber 2 cs
    let r := r.store (2 - left) n
    match rest with
    | [] => some r
    | c :: rest' =>
      let colons := if left = 2 then c == ':' else colons
      if rest'.isEmpty && c.toNat < 128 then some { r with leftover := c != pastEnd }
      else if colons && c == ':' then readFields? colons left rest' r
      else if c == '.' || c == ',' then do
        let (micros, leftover) ← readFraction? rest'
        some { r with microsecond := micros, leftover }
      else if colons then none
      else readFields? colons left rest r

def readClock? (cs : List Char) : Option ClockReading := readFields? true 3 cs {}

/-- The offset that a reading stands for. One below a second is universal time. -/
def ClockReading.offset? (negative : Bool) (r : ClockReading) : Option Offset :=
  let seconds := r.hour * 3600 + r.minute * 60 + r.second
  if seconds = 0 then some Offset.utc
  else
    let micros : Int := (seconds * 1000000 + r.microsecond : Nat)
    Offset.ofMicros? (if negative then -micros else micros)

def beginsOffset (c : Char) : Bool := c == '+' || c == '-' || c == 'Z'

/-- Reads a time of day and an offset, if there is one. -/
def readTime? (cs : List Char) : Option (ClockReading × Option Offset) := do
  let time ← readClock? (cs.takeWhile fun c => !beginsOffset c)
  match cs.dropWhile (fun c => !beginsOffset c) with
  | [] => if time.leftover then none else some (time, none)
  | 'Z' :: rest => if rest.headD pastEnd = pastEnd then some (time, some Offset.utc) else none
  | sign :: rest =>
    let zone ← readClock? rest
    if zone.leftover then none
    else
      let offset ← zone.offset? (sign == '-')
      some (time, some offset)

/-- Reads a moment. The date ends where its form says; the next character, whatever it is, separates
it from the time. -/
def readMoment? (s : String) : Option Moment := do
  let cs := s.toList
  let width := dateWidth cs
  let date ← readDate? (cs.take width)
  match cs.drop width with
  | [] => some ⟨date, Clock.midnight, none⟩
  | _ :: time =>
    let (reading, offset) ← readTime? time
    let clock ← (Clock.ofFields reading.hour reading.minute reading.second reading.microsecond).toOption
    some ⟨date, clock, offset⟩

end Tripwire.Time
