import Tripwire.Proofs.Event.Leaf
import Tripwire.Proofs.Event.Stamp

/-!
# Timestamps field by field

A timestamp with its digits in place is read as the moment of its fields, or it is reported because
there is no such moment. Nothing that stands for a timestamp makes its reader fail.
-/

namespace Tripwire

open Time (DateText ClockText OffsetText MomentText Moment)

variable {W : Type}

/-- The end of a timestamp, a `Z` or an offset with less than sixty minutes in their place. -/
inductive Zone where
  | universal
  | offset (o : OffsetText) (minutes_le : o.minutes.value ≤ 59)

namespace Zone

def chars : Zone → List Char
  | universal => ['Z']
  | offset o _ => o.chars

def spelledOut : Zone → OffsetText
  | universal => .utc
  | offset o _ => o

theorem minutes_le (z : Zone) : z.spelledOut.minutes.value ≤ 59 := by
  cases z with
  | universal =>
    show (Time.Digits.zeros 2).value ≤ 59
    rw [Time.Digits.value_zeros]
    omega
  | offset o h => exact h

/-- With its minutes in place an offset is less than a day if its hours are. -/
theorem natAbs_signed_lt_iff (z : Zone) :
    z.spelledOut.signed.natAbs < 24 * 60 ↔ z.spelledOut.hours.value ≤ 23 := by
  have hminutes := z.minutes_le
  unfold OffsetText.signed
  dsimp only
  split
  · omega
  · omega

end Zone

/-- A timestamp of the form that clusters send, with any digits in its places. -/
structure WireTime where
  date : DateText
  clock : ClockText
  zone : Zone

namespace WireTime

variable (t : WireTime)

/-- The fields, with an offset in the place of `Z`. -/
def fields : MomentText := ⟨t.date, t.clock, t.zone.spelledOut⟩

def text : String := String.ofList (t.fields.body ++ t.zone.chars)

theorem not_endsWith_z {o : OffsetText} (cs : List Char) :
    (String.ofList (cs ++ o.chars)).endsWith "Z" = false := by
  rw [Bool.eq_false_iff]
  intro hend
  obtain ⟨front, hfront⟩ := String.Slice.endsWith_string_iff.1 hend
  obtain ⟨init, last, hlast⟩ : ∃ init last, o.minutes.chars = init ++ [last] := by
    rcases List.eq_nil_or_concat o.minutes.chars with hnil | ⟨init, last, h⟩
    · obtain ⟨c, cs, hcons, -⟩ := o.minutes.exists_cons
      rw [hnil] at hcons
      cases hcons
    · exact ⟨init, last, by rw [h, List.concat_eq_append]⟩
  have hz : front ++ ['Z'] = (cs ++ o.sign :: (o.hours.chars ++ ':' :: init)) ++ [last] := by
    have htext : front ++ "Z".toList = cs ++ o.chars := by simpa using hfront
    rw [OffsetText.chars, hlast] at htext
    simpa using htext
  obtain ⟨-, hchar⟩ := List.append_inj' hz rfl
  have hdigit := o.minutes.each last (by simp [hlast])
  rw [← (List.cons.inj hchar).1] at hdigit
  cases hdigit

theorem readTimestamp?_text : readTimestamp? t.text = t.fields.moment? := by
  have haware : t.fields.moment?.map Moment.aware = t.fields.moment? := by
    cases hm : t.fields.moment? with
    | none => rfl
    | some u =>
      obtain ⟨o, ho, -⟩ := Option.map_eq_some_iff.1 (MomentText.moment?_eq_some_iff.1 hm).offset
      rw [Option.map_some, Moment.aware, ho]
  have hread := t.fields.readMoment?_chars
  rw [← haware, ← hread, text]
  cases hz : t.zone with
  | universal =>
    have hoffset : t.fields.offset = .utc := by
      rw [fields, hz]
      rfl
    have hleft : String.ofList (t.fields.body ++ ['Z']) = String.ofList t.fields.body ++ "Z" := by
      simp
    have hright : String.ofList (t.fields.body ++ OffsetText.utc.chars) =
        String.ofList t.fields.body ++ "+00:00" := by
      simp [OffsetText.chars_utc]
    rw [hoffset, hright, Zone.chars, hleft, readTimestamp?_append_z]
  | offset o h =>
    have hoffset : t.fields.offset = o := by
      rw [fields, hz]
      rfl
    rw [hoffset, Zone.chars, readTimestamp?, not_endsWith_z]
    rfl

theorem text_ne_empty : t.text ≠ "" := by
  intro h
  have hchars := congrArg String.toList h
  rw [text, String.toList_ofList, MomentText.body] at hchars
  simp at hchars

/-- That date, time of day and offset of a timestamp exist. -/
structure InRange : Prop where
  year : 1 ≤ t.date.year.value ∧ t.date.year.value ≤ 9999
  month : 1 ≤ t.date.month.value ∧ t.date.month.value ≤ 12
  day : 1 ≤ t.date.day.value ∧
    t.date.day.value ≤ Time.daysInMonth t.date.year.value t.date.month.value
  hour : t.clock.hour.value ≤ 23
  minute : t.clock.minute.value ≤ 59
  second : t.clock.second.value ≤ 59
  hours : t.zone.spelledOut.hours.value ≤ 23

theorem inRange_iff : t.InRange ↔ t.fields.InRange := by
  constructor
  · intro h
    exact ⟨h.year, h.month, h.day, h.hour, h.minute, h.second, t.zone.natAbs_signed_lt_iff.2 h.hours⟩
  · intro h
    exact ⟨h.year, h.month, h.day, h.hour, h.minute, h.second, t.zone.natAbs_signed_lt_iff.1 h.offset⟩

end WireTime

/-- What is written on a timestamp that is no moment. -/
def unreadable (text : String) : Record :=
  ⟨.warning, "Ignoring unparseable event timestamp " ++ Text.quoted text⟩

theorem on_timestamp_text (t : WireTime) (s : Stage W) :
    (Value.text t.text).timestamp.on s = match t.fields.moment? with
      | some m => (.ok (some m), s)
      | none => (.ok none, { s with journal := s.journal ++ [unreadable t.text] }) := by
  rw [Value.timestamp, if_neg t.text_ne_empty, t.readTimestamp?_text]
  cases t.fields.moment? <;> rfl

/-- A timestamp whose fields are in range is read as their moment, without a record; any other of the
same form is absent, with one record. Whatever stands for a timestamp is read as a moment with an offset
or as none. -/
theorem timestamp_read_exactly (s : Stage W) :
    (∀ t : WireTime,
      (t.InRange → ∃ m, (Value.text t.text).timestamp.on s = (.ok (some m), s) ∧ t.fields.Tells m) ∧
      (¬t.InRange → (Value.text t.text).timestamp.on s =
        (.ok none, { s with journal := s.journal ++ [unreadable t.text] }))) ∧
    ∀ v : Value, ∃ seen, (v.timestamp.on s).1 = .ok seen ∧
      ∀ m, seen = some m → m.offset.isSome = true := by
  refine ⟨fun t => ⟨fun h => ?_, fun h => ?_⟩, fun v => ?_⟩
  · obtain ⟨m, hm⟩ := MomentText.exists_tells_iff.2 (t.inRange_iff.1 h)
    refine ⟨m, ?_, hm⟩
    rw [on_timestamp_text, MomentText.moment?_eq_some_iff.2 hm]
  · have hnone : t.fields.moment? = none := by
      cases hm : t.fields.moment? with
      | none => rfl
      | some m =>
        have htells := MomentText.moment?_eq_some_iff.1 hm
        exact absurd (t.inRange_iff.2 (MomentText.exists_tells_iff.1 ⟨m, htells⟩)) h
    rw [on_timestamp_text, hnone]
  · refine ⟨v.moment?, ?_, fun m hm => Value.offset_of_moment? hm⟩
    rw [(Value.reads_timestamp v).on_eq s]

/-- Seven places of the last second of a leap day, west of universal time; a year earlier there is no such
day. -/
theorem leap_day_is_read_or_reported :
    let leap := "2024-02-29T23:59:59.1234567-01:30"
    let plain := "2023-02-29T23:59:59.1234567-01:30"
    let s : Stage Unit := { world := () }
    (∃ m, (Value.text leap).timestamp.on s = (.ok (some m), s) ∧ m.clock.microsecond = 123456 ∧
      m.offset.map (·.micros) = some (-5400000000)) ∧
    (Value.text plain).timestamp.on s = (.ok none, { s with journal := [unreadable plain] }) := by
  intro leap plain s
  let two (n : Nat) (h : n < 10 ^ 2) : Time.Digits 2 := .ofNat (by decide) h
  let ofYear (n : Nat) (h : n < 10 ^ 4) : WireTime := {
    date := ⟨.ofNat (by decide) h, two 2 (by decide), two 29 (by decide)⟩
    clock := ⟨two 23 (by decide), two 59 (by decide), two 59 (by decide),
      (Decimal.padded 7 1234567).toList, fun _ => Time.isAsciiDigit_of_mem_padded⟩
    zone := .offset ⟨true, two 1 (by decide), two 30 (by decide)⟩ (by decide +kernel) }
  obtain ⟨hread, -⟩ := timestamp_read_exactly s
  have hleap : (ofYear 2024 (by decide)).text = leap := by decide +kernel
  have hplain : (ofYear 2023 (by decide)).text = plain := by decide +kernel
  have hsigned : (ofYear 2024 (by decide)).fields.offset.signed = -90 := by decide +kernel
  constructor
  · obtain ⟨m, hon, htells⟩ := (hread (ofYear 2024 (by decide))).1
      ⟨by decide +kernel, by decide +kernel, by decide +kernel, by decide +kernel, by decide +kernel,
        by decide +kernel, by decide +kernel⟩
    have hoffset := htells.offset
    rw [hleap] at hon
    rw [hsigned] at hoffset
    have hplaces : Time.microsOf (ofYear 2024 (by decide)).fields.clock.fraction = 123456 := by
      decide +kernel
    exact ⟨m, hon, htells.microsecond.trans hplaces, hoffset⟩
  · have hreport := (hread (ofYear 2023 (by decide))).2 fun h => absurd h.day (by decide +kernel)
    rw [hplain] at hreport
    exact hreport

end Tripwire
