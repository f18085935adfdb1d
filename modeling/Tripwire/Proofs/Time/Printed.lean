import Tripwire.Proofs.Time.Shaped

/-!
# Printed moments read back

A number printed with a fixed width has its digits in place, and so has every field of a printed moment.
In universal time it is read back field by field.
-/

namespace Tripwire.Time

open Tripwire.Decimal (padded isAsciiDigit digitsValue)

/-! ### Numbers of fixed width -/

theorem toList_padded (width n : Nat) :
    (padded width n).toList =
      List.replicate (width - (Nat.toDigits 10 n).length) '0' ++ Nat.toDigits 10 n := by
  have hlen : (toString n).length = (Nat.toDigits 10 n).length := by
    rw [Nat.toString_eq_ofList_toDigits, String.length_ofList]
  rw [padded, hlen, String.toList_append, String.toList_ofList, Nat.toString_eq_ofList_toDigits,
    String.toList_ofList]

theorem toList_padded_succ {width : Nat} (h : 0 < width) (n : Nat) :
    (padded (width + 1) n).toList = (padded width (n / 10)).toList ++ [Nat.digitChar (n % 10)] := by
  rw [toList_padded, toList_padded]
  by_cases hn : n < 10
  · have hzero : n / 10 = 0 := Nat.div_eq_of_lt hn
    have hlen : width + 1 - 1 = width - 1 + 1 := by omega
    rw [hzero, Nat.mod_eq_of_lt hn, Nat.toDigits_of_lt_base hn, Nat.toDigits_zero]
    simp only [List.length_singleton, hlen, List.replicate_succ', List.append_assoc]
  · rw [Nat.toDigits_of_base_le (by decide) (Nat.le_of_not_lt hn), List.length_append,
      List.length_singleton, Nat.add_sub_add_right, List.append_assoc]

theorem digitsValue_digitChar {d : Nat} (h : d < 10) : digitsValue [Nat.digitChar d] = d := by
  revert d
  decide

/-- A printed number is the one that its digits say. -/
theorem digitsValue_padded {width n : Nat} (h : 0 < width) (hn : n < 10 ^ width) :
    digitsValue (padded width n).toList = n := by
  obtain ⟨k, rfl⟩ := Nat.exists_eq_add_of_le' h
  clear h
  induction k generalizing n with
  | zero =>
    have hdigit : n < 10 := hn
    rw [toList_padded, Nat.toDigits_of_lt_base hdigit]
    exact digitsValue_digitChar hdigit
  | succ k ih =>
    have hhead : n / 10 < 10 ^ (k + 1) := by
      rw [Nat.pow_succ] at hn
      omega
    rw [toList_padded_succ (Nat.succ_pos k), Decimal.digitsValue_append, ih hhead,
      digitsValue_digitChar (Nat.mod_lt n (by decide))]
    exact Nat.div_add_mod' n 10

theorem length_padded {width n : Nat} (h : 0 < width) (hn : n < 10 ^ width) :
    (padded width n).toList.length = width := by
  have hle := (Nat.length_toDigits_le_iff (n := n) (b := 10) (by decide) h).2 hn
  rw [toList_padded, List.length_append, List.length_replicate]
  omega

theorem isAsciiDigit_of_mem_padded {width n : Nat} {c : Char} (h : c ∈ (padded width n).toList) :
    isAsciiDigit c = true := by
  rw [toList_padded, List.mem_append] at h
  rcases h with hzero | hdigit
  · rw [List.eq_of_mem_replicate hzero]
    rfl
  · exact (Nat.isDigit_of_mem_toDigits (by decide) (by decide) hdigit : c.isDigit = true)

/-- The digits of a printed number. -/
def Digits.ofNat {width n : Nat} (h : 0 < width) (hn : n < 10 ^ width) : Digits width where
  chars := (padded width n).toList
  length_eq := length_padded h hn
  each _ := isAsciiDigit_of_mem_padded

theorem Digits.value_ofNat {width n : Nat} (h : 0 < width) (hn : n < 10 ^ width) :
    (Digits.ofNat h hn).value = n := by
  rw [value, ofNat, digitsValue_padded h hn]

/-! ### Dates -/

theorem daysInMonth_lt (year month : Nat) : daysInMonth year month < 10 ^ 2 := by
  unfold daysInMonth
  split
  case h_12 => split <;> decide
  all_goals decide

namespace Date

variable (d : Date)

theorem year_lt : d.year < 10 ^ 4 := Nat.lt_of_le_of_lt d.year_le (by decide)

theorem month_lt : d.month < 10 ^ 2 := Nat.lt_of_le_of_lt d.month_bounds.2 (by decide)

theorem day_lt : d.day < 10 ^ 2 := Nat.lt_of_le_of_lt d.day_le (daysInMonth_lt _ _)

def printed : DateText where
  year := .ofNat (by decide) d.year_lt
  month := .ofNat (by decide) d.month_lt
  day := .ofNat (by decide) d.day_lt

theorem toList_iso : d.iso.toList = d.printed.chars := by
  simp [iso, printed, DateText.chars, Digits.ofNat]

theorem date?_printed : d.printed.date? = some d := by
  rw [DateText.date?, printed, Digits.value_ofNat, Digits.value_ofNat, Digits.value_ofNat,
    d.ofFields_self]
  rfl

end Date

/-! ### Times of day -/

namespace Clock

variable (c : Clock)

theorem hour_lt_hundred : c.hour < 10 ^ 2 := Nat.lt_trans c.hour_lt (by decide)

theorem minute_lt_hundred : c.minute < 10 ^ 2 := Nat.lt_trans c.minute_lt (by decide)

theorem second_lt_hundred : c.second < 10 ^ 2 := Nat.lt_trans c.second_lt (by decide)

/-- The places of the second, none of them if they are zeros. -/
def places : List Char := if c.microsecond = 0 then [] else (padded 6 c.microsecond).toList

theorem isAsciiDigit_of_mem_places {x : Char} (h : x ∈ c.places) : isAsciiDigit x = true := by
  unfold places at h
  split at h
  · cases h
  · exact isAsciiDigit_of_mem_padded h

theorem microsOf_places : microsOf c.places = c.microsecond := by
  unfold places
  split
  · rename_i hzero
    rw [hzero]
    rfl
  · have hlt : c.microsecond < 10 ^ 6 := c.microsecond_lt
    rw [microsOf, List.take_append_of_le_length, List.take_of_length_le,
      digitsValue_padded (by decide) hlt]
    · rw [length_padded (by decide) hlt]
    · rw [length_padded (by decide) hlt]

def printed : ClockText where
  hour := .ofNat (by decide) c.hour_lt_hundred
  minute := .ofNat (by decide) c.minute_lt_hundred
  second := .ofNat (by decide) c.second_lt_hundred
  fraction := c.places
  fraction_each _ := c.isAsciiDigit_of_mem_places

theorem toList_iso : c.iso.toList = c.printed.chars := by
  by_cases h : c.microsecond = 0
  · simp [iso, printed, ClockText.chars, ClockText.secondChars, Digits.ofNat, places, h]
  · have hlen : (padded 6 c.microsecond).toList.length = 6 := length_padded (by decide) c.microsecond_lt
    have hne : (padded 6 c.microsecond).toList ≠ [] := by
      intro hnil
      rw [hnil] at hlen
      cases hlen
    simp [iso, printed, ClockText.chars, ClockText.secondChars, Digits.ofNat, places, h, hne]

theorem reading_printed : c.printed.reading = ⟨c.hour, c.minute, c.second, c.microsecond, false⟩ := by
  simp only [ClockText.reading, printed, Digits.value_ofNat, microsOf_places]

end Clock

/-! ### Moments in universal time -/

def Digits.zeros (width : Nat) : Digits width where
  chars := List.replicate width '0'
  length_eq := List.length_replicate
  each c hc := by
    rw [List.eq_of_mem_replicate hc]
    rfl

def OffsetText.utc : OffsetText := ⟨false, .zeros 2, .zeros 2⟩

theorem Digits.value_zeros (width : Nat) : (Digits.zeros width).value = 0 :=
  Decimal.digitsValue_zeros width

namespace OffsetText

theorem chars_utc : utc.chars = ['+', '0', '0', ':', '0', '0'] := by
  simp [utc, chars, sign, Digits.zeros, List.replicate]

theorem signed_utc : utc.signed = 0 := by
  simp only [signed, utc, Digits.value_zeros]
  rfl

theorem offset?_utc : utc.offset? = some Offset.utc := by
  rw [offset?, signed_utc]
  rfl

end OffsetText

/-- The form of a printed moment in universal time. -/
def printedUtc (d : Date) (c : Clock) : MomentText := ⟨d.printed, c.printed, .utc⟩

theorem toList_printedUtc (d : Date) (c : Clock) : (d.iso ++ "T" ++ c.iso ++ "+00:00").toList =
    (printedUtc d c).body ++ (printedUtc d c).offset.chars := by
  simp [d.toList_iso, c.toList_iso, MomentText.body, printedUtc, OffsetText.chars_utc]

theorem moment?_printedUtc (d : Date) (c : Clock) :
    (printedUtc d c).moment? = some ⟨d, c, some Offset.utc⟩ := by
  rw [MomentText.moment?, printedUtc, d.date?_printed, OffsetText.offset?_utc, c.reading_printed]
  simp only [Option.bind_eq_bind, Option.bind_some, c.ofFields_self, Except.toOption]

/-- A date and a time of day with an offset of zero are read back. -/
theorem readMoment?_utc (d : Date) (c : Clock) :
    readMoment? (d.iso ++ "T" ++ c.iso ++ "+00:00") = some ⟨d, c, some Offset.utc⟩ := by
  rw [← String.ofList_toList (s := d.iso ++ "T" ++ c.iso ++ "+00:00"), toList_printedUtc,
    MomentText.readMoment?_chars, moment?_printedUtc]

end Tripwire.Time
