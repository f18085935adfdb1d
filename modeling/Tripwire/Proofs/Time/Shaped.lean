import Mathlib.Data.List.TakeWhile
import Tripwire.Proofs.Decimal.Digits
import Tripwire.Time.Iso

/-!
# Moments field by field

A moment whose fields have their digits in place is read field by field: what the digits say, right or
wrong, is what the date, the time of day and the offset are made of.
-/

namespace Tripwire.Time

open Decimal (isAsciiDigit digitsValue)

/-- The digits of a field of fixed width. -/
structure Digits (width : Nat) where
  chars : List Char
  length_eq : chars.length = width
  each : ∀ c ∈ chars, isAsciiDigit c = true

namespace Digits

variable {width : Nat} (ds : Digits width)

def value : Nat := digitsValue ds.chars

theorem exists_cons {k : Nat} (ds : Digits (k + 1)) :
    ∃ c cs, ds.chars = c :: cs ∧ isAsciiDigit c = true := by
  cases h : ds.chars with
  | nil =>
    have hlen := ds.length_eq
    rw [h] at hlen
    cases hlen
  | cons c cs =>
    refine ⟨c, cs, rfl, ds.each c ?_⟩
    rw [h]
    exact List.mem_cons_self

end Digits

/-- Digits are read as the number that they say. -/
theorem takeNumber_digits {cs : List Char} (h : ∀ c ∈ cs, isAsciiDigit c = true)
    (rest : List Char) : takeNumber cs.length (cs ++ rest) = some (digitsValue cs, rest) := by
  induction cs with
  | nil => rfl
  | cons c cs ih =>
    obtain ⟨hc, hcs⟩ := List.forall_mem_cons.1 h
    have hdigit : ('0' ≤ c && c ≤ '9') = true := hc
    rw [List.length_cons, List.cons_append, takeNumber, if_pos hdigit, ih hcs,
      Decimal.digitsValue_cons, Decimal.digit_of_isAsciiDigit hc]
    rfl

theorem takeNumber_chars {width : Nat} (ds : Digits width) (rest : List Char) :
    takeNumber width (ds.chars ++ rest) = some (ds.value, rest) := by
  have h := takeNumber_digits ds.each rest
  rw [ds.length_eq] at h
  exact h

/-! ### Dates -/

/-- Only the months of a year have days. -/
theorem month_bounds_of_days {year month : Nat} (h : 1 ≤ daysInMonth year month) :
    1 ≤ month ∧ month ≤ 12 := by
  unfold daysInMonth at h
  split at h
  all_goals omega

namespace Date

theorem month_bounds (d : Date) : 1 ≤ d.month ∧ d.month ≤ 12 :=
  month_bounds_of_days (Nat.le_trans d.day_pos d.day_le)

theorem ofFields_self (d : Date) : ofFields d.year d.month d.day = .ok d := by
  rw [ofFields, dif_pos ⟨d.year_pos, d.year_le⟩, if_pos d.month_bounds,
    dif_pos ⟨d.day_pos, d.day_le⟩]

theorem ofFields_eq_some_iff {year month day : Nat} {d : Date} :
    (ofFields year month day).toOption = some d ↔ d.year = year ∧ d.month = month ∧ d.day = day := by
  constructor
  · intro h
    unfold ofFields at h
    split at h
    · split at h
      · split at h
        · cases h
          exact ⟨rfl, rfl, rfl⟩
        · cases h
      · cases h
    · cases h
  · rintro ⟨rfl, rfl, rfl⟩
    rw [d.ofFields_self]
    rfl

end Date

/-- The text of a date, `YYYY-MM-DD`. -/
structure DateText where
  year : Digits 4
  month : Digits 2
  day : Digits 2

namespace DateText

variable (d : DateText)

def chars : List Char := d.year.chars ++ '-' :: (d.month.chars ++ '-' :: d.day.chars)

def date? : Option Date := (Date.ofFields d.year.value d.month.value d.day.value).toOption

theorem length_chars : d.chars.length = 10 := by
  simp [chars, d.year.length_eq, d.month.length_eq, d.day.length_eq]

theorem readDate?_chars : readDate? d.chars = d.date? := by
  obtain ⟨c, cs, hmonth, hdigit⟩ := d.month.exists_cons
  have hweek : c ≠ 'W' := by
    rintro rfl
    cases hdigit
  have hreadMonth := takeNumber_chars d.month ('-' :: d.day.chars)
  have hreadDay := takeNumber_chars d.day []
  rw [List.append_nil] at hreadDay
  rw [hmonth, List.cons_append] at hreadMonth
  rw [chars, readDate?, takeNumber_chars d.year, hmonth]
  simp [hreadMonth, hreadDay, skipHyphen, hweek, date?]

/-- The date stands in the first ten characters of a text that goes on after it. -/
theorem dateWidth_chars (c : Char) (rest : List Char) : dateWidth (d.chars ++ c :: rest) = 10 := by
  obtain ⟨m, ms, hmonth, hdigit⟩ := d.month.exists_cons
  have hweek : m ≠ 'W' := by
    rintro rfl
    cases hdigit
  have hlong : (d.chars ++ c :: rest).length ≠ 7 := by
    rw [List.length_append, d.length_chars]
    omega
  have hhyphen : (d.chars ++ c :: rest).getD 4 pastEnd = '-' := by
    simp [chars, d.year.length_eq]
  have hmonthAt : (d.chars ++ c :: rest).getD 5 pastEnd = m := by
    simp [chars, List.getElem?_append, d.year.length_eq, hmonth]
  unfold dateWidth
  simp only [if_neg hlong, hhyphen, hmonthAt, if_neg hweek, if_true]

end DateText

/-! ### Times of day -/

namespace Clock

theorem ofFields_self (c : Clock) :
    ofFields c.hour c.minute c.second c.microsecond = .ok c := by
  rw [ofFields, dif_pos c.hour_lt, dif_pos c.minute_lt, dif_pos c.second_lt, dif_pos c.microsecond_lt]

theorem ofFields_eq_some_iff {hour minute second microsecond : Nat} {c : Clock} :
    (ofFields hour minute second microsecond).toOption = some c ↔
      c.hour = hour ∧ c.minute = minute ∧ c.second = second ∧ c.microsecond = microsecond := by
  constructor
  · intro h
    unfold ofFields at h
    split at h
    · split at h
      · split at h
        · split at h
          · cases h
            exact ⟨rfl, rfl, rfl, rfl⟩
          · cases h
        · cases h
      · cases h
    · cases h
  · rintro ⟨rfl, rfl, rfl, rfl⟩
    rw [c.ofFields_self]
    rfl

end Clock

/-- The text of a time of day, `HH:MM:SS`, and perhaps a point and digits of the second. -/
structure ClockText where
  hour : Digits 2
  minute : Digits 2
  second : Digits 2
  fraction : List Char
  fraction_each : ∀ c ∈ fraction, isAsciiDigit c = true

/-- The microseconds in the digits after a point: the first six, and zeros for those that lack. -/
def microsOf (fraction : List Char) : Nat :=
  digitsValue ((fraction ++ List.replicate 6 '0').take 6)

theorem microsOf_lt (fraction : List Char) : microsOf fraction < 1000000 := by
  have h := Decimal.digitsValue_lt ((fraction ++ List.replicate 6 '0').take 6)
  have hlen : ((fraction ++ List.replicate 6 '0').take 6).length = 6 := by simp
  rw [hlen] at h
  exact h

theorem readFraction?_digits {cs : List Char} (h : ∀ c ∈ cs, isAsciiDigit c = true) :
    readFraction? cs = some (microsOf cs, false) := by
  have hfirst : ∀ c ∈ cs.take 6, isAsciiDigit c = true := fun c hc => h c (List.mem_of_mem_take hc)
  have hrest : (cs.drop 6).dropWhile (fun c => '0' ≤ c && c ≤ '9') = [] :=
    List.dropWhile_eq_nil_iff.2 fun c hc => h c (List.mem_of_mem_drop hc)
  have hread := takeNumber_digits hfirst (cs.drop 6)
  have hmicros : digitsValue (cs.take 6) * 10 ^ (6 - min 6 cs.length) = microsOf cs := by
    have hlen : 6 - min 6 cs.length = 6 - cs.length := by omega
    rw [microsOf, List.take_append, List.take_replicate, Decimal.digitsValue_append,
      List.length_replicate, Decimal.digitsValue_zeros, Nat.add_zero, hlen,
      Nat.min_eq_left (Nat.sub_le 6 _)]
  rw [List.take_append_drop, List.length_take] at hread
  simp [readFraction?, hread, hrest, hmicros]

namespace ClockText

variable (c : ClockText)

/-- The seconds and their places. -/
def secondChars : List Char :=
  c.second.chars ++ if c.fraction = [] then [] else '.' :: c.fraction

def chars : List Char := c.hour.chars ++ ':' :: (c.minute.chars ++ ':' :: c.secondChars)

def reading : ClockReading :=
  ⟨c.hour.value, c.minute.value, c.second.value, microsOf c.fraction, false⟩

end ClockText

/-- A field of two digits before a colon is read, and the rest after it. -/
theorem readFields?_digits {left : Nat} (ds : Digits 2) {c : Char} {rest : List Char}
    (r : ClockReading) :
    readFields? true (left + 1) (ds.chars ++ ':' :: c :: rest) r =
      readFields? true left (c :: rest) (r.store (2 - left) ds.value) := by
  rw [readFields?, takeNumber_chars]
  simp

theorem readFields?_last {left : Nat} (ds : Digits 2) (r : ClockReading) :
    readFields? true (left + 1) ds.chars r = some (r.store (2 - left) ds.value) := by
  have h := takeNumber_chars ds []
  rw [List.append_nil] at h
  rw [readFields?, h]
  rfl

theorem readFields?_second (c : ClockText) (hour minute : Nat) :
    readFields? true 1 c.secondChars ⟨hour, minute, 0, 0, false⟩ =
      some ⟨hour, minute, c.second.value, microsOf c.fraction, false⟩ := by
  unfold ClockText.secondChars
  by_cases h : c.fraction = []
  · rw [if_pos h, List.append_nil, readFields?_last, h]
    rfl
  · obtain ⟨d, ds, hds⟩ := List.exists_cons_of_ne_nil h
    have hread := readFraction?_digits c.fraction_each
    rw [hds] at hread
    rw [if_neg h, readFields?, takeNumber_chars, hds]
    simp [hread, ClockReading.store]

theorem readClock?_chars (c : ClockText) : readClock? c.chars = some c.reading := by
  obtain ⟨m, ms, hms, -⟩ := c.minute.exists_cons
  obtain ⟨s, ss, hss, -⟩ := c.second.exists_cons
  have hsecond := readFields?_second c c.hour.value c.minute.value
  have hfirst : c.secondChars = s :: (ss ++ if c.fraction = [] then [] else '.' :: c.fraction) := by
    rw [ClockText.secondChars, hss, List.cons_append]
  calc readClock? c.chars
      = readFields? true 3 (c.hour.chars ++ ':' :: m :: (ms ++ ':' :: c.secondChars)) {} := by
        rw [readClock?, ClockText.chars, hms]
        rfl
    _ = readFields? true 2 (c.minute.chars ++ ':' :: c.secondChars) ⟨c.hour.value, 0, 0, 0, false⟩ := by
        rw [readFields?_digits, hms]
        rfl
    _ = readFields? true 1 c.secondChars ⟨c.hour.value, c.minute.value, 0, 0, false⟩ := by
        rw [hfirst, readFields?_digits]
        rfl
    _ = some c.reading := hsecond

/-! ### Offsets -/

theorem Offset.ofMicros?_eq_some_iff {micros : Int} {o : Offset} :
    Offset.ofMicros? micros = some o ↔ o.micros = micros := by
  unfold Offset.ofMicros?
  constructor
  · intro h
    split at h
    · cases h
      rfl
    · cases h
  · rintro rfl
    rw [dif_pos o.abs_lt]

/-- The text of an offset, a sign and `HH:MM`. -/
structure OffsetText where
  negative : Bool
  hours : Digits 2
  minutes : Digits 2

namespace OffsetText

variable (o : OffsetText)

def sign : Char := if o.negative then '-' else '+'

def chars : List Char := o.sign :: (o.hours.chars ++ ':' :: o.minutes.chars)

/-- The offset in minutes. -/
def signed : Int :=
  let minutes : Int := (o.hours.value * 60 + o.minutes.value : Nat)
  if o.negative then -minutes else minutes

def offset? : Option Offset := Offset.ofMicros? (o.signed * 60000000)

theorem beginsOffset_sign : beginsOffset o.sign = true := by
  unfold sign
  split
  · rfl
  · rfl

theorem readClock?_chars : readClock? (o.hours.chars ++ ':' :: o.minutes.chars) =
    some ⟨o.hours.value, o.minutes.value, 0, 0, false⟩ := by
  obtain ⟨m, ms, hms, -⟩ := o.minutes.exists_cons
  have hminutes : readFields? true 2 o.minutes.chars ⟨o.hours.value, 0, 0, 0, false⟩ =
      some ⟨o.hours.value, o.minutes.value, 0, 0, false⟩ := readFields?_last _ _
  rw [hms] at hminutes
  rw [readClock?, hms, readFields?_digits]
  exact hminutes

/-- An offset of zero is universal time whichever its sign. -/
theorem offset?_reading :
    (ClockReading.mk o.hours.value o.minutes.value 0 0 false).offset? o.negative = o.offset? := by
  have hsigned : (if o.negative then
      -(((o.hours.value * 3600 + o.minutes.value * 60 + 0) * 1000000 + 0 : Nat) : Int)
      else ((o.hours.value * 3600 + o.minutes.value * 60 + 0) * 1000000 + 0 : Nat)) =
      o.signed * 60000000 := by
    unfold signed
    cases o.negative with
    | true =>
      simp only [if_true]
      omega
    | false =>
      simp only [Bool.false_eq_true, if_false]
      omega
  unfold ClockReading.offset? offset?
  dsimp only
  split
  · rename_i hzero
    have hnone : o.signed * 60000000 = 0 := by
      rw [← hsigned, hzero]
      cases o.negative <;> rfl
    rw [hnone]
    rfl
  · rw [hsigned]

end OffsetText

/-! ### Moments -/

theorem not_beginsOffset_of_isAsciiDigit {x : Char} (h : isAsciiDigit x = true) :
    beginsOffset x = false := by
  cases hx : beginsOffset x with
  | false => rfl
  | true =>
    simp only [beginsOffset, Bool.or_eq_true, beq_iff_eq] at hx
    rcases hx with (rfl | rfl) | rfl <;> cases h

theorem ClockText.not_beginsOffset (c : ClockText) {x : Char} (h : x ∈ c.chars) :
    beginsOffset x = false := by
  have hdigits {ds : Digits 2} (hx : x ∈ ds.chars) : beginsOffset x = false :=
    not_beginsOffset_of_isAsciiDigit (ds.each x hx)
  have hsecond (hx : x ∈ c.secondChars) : beginsOffset x = false := by
    unfold secondChars at hx
    rcases List.mem_append.1 hx with hx | hx
    · exact hdigits hx
    · split at hx
      · cases hx
      · rcases List.mem_cons.1 hx with rfl | hx
        · rfl
        · exact not_beginsOffset_of_isAsciiDigit (c.fraction_each x hx)
  rw [chars, List.mem_append, List.mem_cons, List.mem_append, List.mem_cons] at h
  rcases h with hhour | rfl | hminute | rfl | hrest
  · exact hdigits hhour
  · rfl
  · exact hdigits hminute
  · rfl
  · exact hsecond hrest

theorem readTime?_chars (c : ClockText) (o : OffsetText) :
    readTime? (c.chars ++ o.chars) = o.offset?.map fun offset => (c.reading, some offset) := by
  have hclock : ∀ x ∈ c.chars, (!beginsOffset x) = true := by
    intro x hx
    rw [c.not_beginsOffset hx]
    rfl
  have htake (rest : List Char) : (o.sign :: rest).takeWhile (fun x => !beginsOffset x) = [] := by
    simp [o.beginsOffset_sign]
  have hdrop (rest : List Char) :
      (o.sign :: rest).dropWhile (fun x => !beginsOffset x) = o.sign :: rest := by
    simp [o.beginsOffset_sign]
  have hnegative : (o.sign == '-') = o.negative := by
    unfold OffsetText.sign
    cases o.negative <;> rfl
  have hz : o.sign ≠ 'Z' := by
    unfold OffsetText.sign
    cases o.negative <;> decide
  rw [readTime?, List.takeWhile_append_of_pos hclock, List.dropWhile_append_of_pos hclock,
    OffsetText.chars, htake, hdrop, List.append_nil, readClock?_chars]
  simp only [Option.bind_eq_bind, Option.bind_some]
  rw [o.readClock?_chars, hnegative]
  simp only [Option.bind_some, Bool.false_eq_true, if_false, o.offset?_reading]
  cases o.offset? <;> rfl

/-- The text of a date, a time of day and an offset. -/
structure MomentText where
  date : DateText
  clock : ClockText
  offset : OffsetText

namespace MomentText

variable (m : MomentText)

def body : List Char := m.date.chars ++ 'T' :: m.clock.chars

/-- What the fields make, if each of them is in range. -/
def moment? : Option Moment := do
  let date ← m.date.date?
  let offset ← m.offset.offset?
  let r := m.clock.reading
  let clock ← (Clock.ofFields r.hour r.minute r.second r.microsecond).toOption
  some ⟨date, clock, some offset⟩

theorem readMoment?_chars :
    readMoment? (String.ofList (m.body ++ m.offset.chars)) = m.moment? := by
  have hchars : m.body ++ m.offset.chars =
      m.date.chars ++ 'T' :: (m.clock.chars ++ m.offset.chars) := by
    rw [body, List.append_assoc, List.cons_append]
  have htake : (m.date.chars ++ 'T' :: (m.clock.chars ++ m.offset.chars)).take 10 = m.date.chars :=
    List.take_left' m.date.length_chars
  have hdrop : (m.date.chars ++ 'T' :: (m.clock.chars ++ m.offset.chars)).drop 10 =
      'T' :: (m.clock.chars ++ m.offset.chars) := List.drop_left' m.date.length_chars
  rw [readMoment?, String.toList_ofList, hchars, m.date.dateWidth_chars]
  simp only [htake, hdrop, m.date.readDate?_chars, readTime?_chars, moment?]
  cases m.offset.offset? <;> rfl

/-- That a moment has the fields that the digits say. -/
structure Tells (u : Moment) : Prop where
  year : u.date.year = m.date.year.value
  month : u.date.month = m.date.month.value
  day : u.date.day = m.date.day.value
  hour : u.clock.hour = m.clock.hour.value
  minute : u.clock.minute = m.clock.minute.value
  second : u.clock.second = m.clock.second.value
  microsecond : u.clock.microsecond = microsOf m.clock.fraction
  offset : u.offset.map (·.micros) = some (m.offset.signed * 60000000)

/-- That there are such a date, time of day and offset. -/
structure InRange : Prop where
  year : 1 ≤ m.date.year.value ∧ m.date.year.value ≤ 9999
  month : 1 ≤ m.date.month.value ∧ m.date.month.value ≤ 12
  day : 1 ≤ m.date.day.value ∧ m.date.day.value ≤ daysInMonth m.date.year.value m.date.month.value
  hour : m.clock.hour.value ≤ 23
  minute : m.clock.minute.value ≤ 59
  second : m.clock.second.value ≤ 59
  offset : m.offset.signed.natAbs < 24 * 60

variable {m}

theorem moment?_eq_some_iff {u : Moment} : m.moment? = some u ↔ m.Tells u := by
  simp only [moment?, Option.bind_eq_bind, Option.bind_eq_some_iff, Option.some.injEq, DateText.date?,
    OffsetText.offset?, Date.ofFields_eq_some_iff, Offset.ofMicros?_eq_some_iff,
    Clock.ofFields_eq_some_iff]
  constructor
  · rintro ⟨date, ⟨hyear, hmonth, hday⟩, offset, hoffset, clock, ⟨hhour, hminute, hsecond, hmicro⟩,
      rfl⟩
    exact ⟨hyear, hmonth, hday, hhour, hminute, hsecond, hmicro, congrArg some hoffset⟩
  · intro h
    obtain ⟨offset, hoffset, hmicros⟩ := Option.map_eq_some_iff.1 h.offset
    refine ⟨u.date, ⟨h.year, h.month, h.day⟩, offset, hmicros, u.clock,
      ⟨h.hour, h.minute, h.second, h.microsecond⟩, ?_⟩
    rw [← hoffset]

theorem exists_tells_iff : (∃ u, m.Tells u) ↔ m.InRange := by
  constructor
  · rintro ⟨u, h⟩
    obtain ⟨offset, -, hmicros⟩ := Option.map_eq_some_iff.1 h.offset
    have hday := u.date.day_le
    have habs := offset.abs_lt
    rw [h.year, h.month] at hday
    rw [hmicros] at habs
    refine ⟨h.year ▸ ⟨u.date.year_pos, u.date.year_le⟩, h.month ▸ u.date.month_bounds,
      h.day ▸ ⟨u.date.day_pos, h.day ▸ hday⟩, ?_, ?_, ?_, ?_⟩
    · exact h.hour ▸ Nat.le_of_lt_succ u.clock.hour_lt
    · exact h.minute ▸ Nat.le_of_lt_succ u.clock.minute_lt
    · exact h.second ▸ Nat.le_of_lt_succ u.clock.second_lt
    · unfold dayMicros at habs
      omega
  · intro h
    have habs : (m.offset.signed * 60000000).natAbs < dayMicros := by
      have hoffset := h.offset
      unfold dayMicros
      omega
    let date : Date := ⟨_, _, _, h.year.1, h.year.2, h.day.1, h.day.2⟩
    let clock : Clock := ⟨_, _, _, _, Nat.lt_succ_of_le h.hour, Nat.lt_succ_of_le h.minute,
      Nat.lt_succ_of_le h.second, microsOf_lt m.clock.fraction⟩
    exact ⟨⟨date, clock, some ⟨_, habs⟩⟩, rfl, rfl, rfl, rfl, rfl, rfl, rfl, rfl⟩

end MomentText

end Tripwire.Time
