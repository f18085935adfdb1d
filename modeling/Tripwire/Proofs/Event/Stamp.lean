import Tripwire.Event.Wire
import Tripwire.Proofs.Time.Calendar
import Tripwire.Proofs.Time.Printed
import Tripwire.Text.Split

/-!
# Stamps

The text of an instant is the printed form of its moment in universal time, with `Z` for the offset. It
is read back as that moment, so that texts are equal exactly if the instants are.
-/

namespace Tripwire

open Time (Moment Offset)

variable {W : Type}

/-! ### The text of an instant -/

theorem Text.pieces_append_mark {m : Char} {mark cs : List Char} (h : m ∉ cs) (rest : List Char) :
    Text.pieces m mark (cs ++ m :: (mark ++ rest)) = cs :: Text.pieces m mark rest := by
  induction cs with
  | nil =>
    have hdrop : dropMark? mark (mark ++ rest) = some rest := dropMark?_eq_some_iff.2 rfl
    rw [List.nil_append, pieces, if_pos rfl]
    split
    · rename_i after hafter
      rw [hdrop] at hafter
      rw [Option.some.inj hafter]
    · rename_i hafter
      rw [hdrop] at hafter
      cases hafter
  | cons c cs ih =>
    obtain ⟨hc, hcs⟩ := List.ne_and_not_mem_of_not_mem_cons h
    rw [List.cons_append, pieces, if_neg hc, ih hcs]
    rfl

/-- A date and a time of day are printed with digits and four marks. -/
theorem Time.mem_iso {d : Time.Date} {c : Time.Clock} {x : Char}
    (h : x ∈ d.iso.toList ++ 'T' :: c.iso.toList) :
    Decimal.isAsciiDigit x = true ∨ x ∈ ['-', 'T', ':', '.'] := by
  have hdigits {width : Nat} (ds : Time.Digits width) (hx : x ∈ ds.chars) :
      Decimal.isAsciiDigit x = true := ds.each x hx
  have hsecond (hx : x ∈ c.printed.secondChars) :
      Decimal.isAsciiDigit x = true ∨ x ∈ ['-', 'T', ':', '.'] := by
    rw [Time.ClockText.secondChars, List.mem_append] at hx
    rcases hx with hx | hx
    · exact .inl (hdigits _ hx)
    · split at hx
      · cases hx
      · rcases List.mem_cons.1 hx with rfl | hx
        · exact .inr (by decide)
        · exact .inl (c.printed.fraction_each x hx)
  rw [d.toList_iso, c.toList_iso] at h
  simp only [Time.DateText.chars, Time.ClockText.chars, List.mem_append, List.mem_cons] at h
  rcases h with (hyear | rfl | hmonth | rfl | hday) | rfl | hhour | rfl | hminute | rfl | hrest
  · exact .inl (hdigits _ hyear)
  · exact .inr (by decide)
  · exact .inl (hdigits _ hmonth)
  · exact .inr (by decide)
  · exact .inl (hdigits _ hday)
  · exact .inr (by decide)
  · exact .inl (hdigits _ hhour)
  · exact .inr (by decide)
  · exact .inl (hdigits _ hminute)
  · exact .inr (by decide)
  · exact hsecond hrest

theorem Time.plus_not_mem_iso (d : Time.Date) (c : Time.Clock) :
    '+' ∉ d.iso.toList ++ 'T' :: c.iso.toList := by
  intro h
  rcases Time.mem_iso h with hdigit | hmark
  · cases hdigit
  · revert hmark
    decide

/-- In the printed form of a moment in universal time `Z` takes the place of the offset. -/
theorem toList_stamp {u : Moment} (h : u.offset = some Offset.utc) :
    (u.date.iso ++ "T" ++ u.clock.iso ++ "Z").toList =
      ['Z'].intercalate (Text.pieces '+' "00:00".toList u.iso.toList) := by
  have hzone : Offset.utc.iso.toList = '+' :: ("00:00".toList ++ []) := by cbv
  have hiso : u.iso.toList =
      (u.date.iso.toList ++ 'T' :: u.clock.iso.toList) ++ '+' :: ("00:00".toList ++ []) := by
    rw [← hzone]
    simp [Moment.iso, Moment.isoWith, h]
  have hnil : Text.pieces '+' "00:00".toList [] = [[]] := by rw [Text.pieces]
  rw [hiso, Text.pieces_append_mark (Time.plus_not_mem_iso _ _), hnil]
  simp [List.intercalate]

/-! ### Reading it back -/

/-- A final `Z` is read as an offset of zero. -/
theorem readTimestamp?_append_z (t : String) :
    readTimestamp? (t ++ "Z") = (Time.readMoment? (t ++ "+00:00")).map Moment.aware := by
  have hend : (t ++ "Z").endsWith "Z" = true :=
    String.Slice.endsWith_string_iff.2 (by simp)
  have hdrop : ((t ++ "Z").dropEnd 1).toString = t := by
    rw [← String.toList_inj]
    simp
  rw [readTimestamp?, if_pos hend, hdrop]

theorem readTimestamp?_stamp {u : Moment} (h : u.offset = some Offset.utc) :
    readTimestamp? (u.date.iso ++ "T" ++ u.clock.iso ++ "Z") = some u := by
  have hself : (⟨u.date, u.clock, some Offset.utc⟩ : Moment) = u := by rw [← h]
  rw [readTimestamp?_append_z, Time.readMoment?_utc, hself, Option.map_some, Moment.aware, h]

theorem on_timestamp_stamp {u : Moment} (h : u.offset = some Offset.utc) (s : Stage W) :
    ((Value.text (u.date.iso ++ "T" ++ u.clock.iso ++ "Z")).timestamp).on s = (.ok (some u), s) := by
  have hne : u.date.iso ++ "T" ++ u.clock.iso ++ "Z" ≠ "" := by simp
  rw [Value.timestamp, if_neg hne, readTimestamp?_stamp h, Act.on_pure]

theorem Time.Moment.offset_of_toUtc? {m u : Moment} (h : m.toUtc? = some u) :
    u.offset = some Offset.utc := by
  obtain ⟨d, -, rfl⟩ := Option.map_eq_some_iff.1 h
  rfl

/-- What the text of an instant says: the moment in universal time, which is read from it without a
report. -/
structure Stamps (d : Moment) (text : String) (u : Moment) : Prop where
  offset_eq : u.offset = some Offset.utc
  instant_eq : u.instant = d.instant
  text_eq : text.toList = ['Z'].intercalate (Text.pieces '+' "00:00".toList u.iso.toList)
  isoUtc_eq : isoUtc d = .ok text
  read_back (W : Type) (s : Stage W) : ((Value.text text).timestamp).on s = (.ok (some u), s)
  written_again : isoUtc u = .ok text

theorem isoUtc_congr {d d' : Moment} (h : d.instant = d'.instant) : isoUtc d = isoUtc d' := by
  rw [isoUtc, isoUtc, Moment.toUtc?, Moment.toUtc?, h]

theorem exists_stamps {d : Moment} (h : d.InCalendar) : ∃ text u, Stamps d text u := by
  obtain ⟨u, hu, hinstant⟩ := Moment.toUtc?_eq_some h
  have hoffset := Moment.offset_of_toUtc? hu
  have htext : isoUtc d = .ok (u.date.iso ++ "T" ++ u.clock.iso ++ "Z") := by rw [isoUtc, hu]
  have hagain := isoUtc_congr hinstant
  rw [htext] at hagain
  exact ⟨_, u, hoffset, hinstant, toList_stamp hoffset, htext,
    fun _ s => on_timestamp_stamp hoffset s, hagain⟩

theorem isoUtc_eq_error_iff {d : Moment} : isoUtc d = .error .dateOutOfRange ↔ ¬d.InCalendar := by
  constructor
  · intro herror h
    obtain ⟨text, u, hstamps⟩ := exists_stamps h
    rw [hstamps.isoUtc_eq] at herror
    cases herror
  · intro h
    rw [isoUtc, Moment.toUtc?_eq_none h]

/-- A text is read as one moment only, so what two moments share in their text they share as instants. -/
theorem Stamps.instant_eq_of_text {d d' u u' : Moment} {text : String} (h : Stamps d text u)
    (h' : Stamps d' text u') : d.instant = d'.instant := by
  have hread := h.read_back Unit { world := () }
  rw [h'.read_back Unit { world := () }] at hread
  obtain ⟨hok, -⟩ := Prod.mk.inj hread
  obtain rfl : u' = u := Option.some.inj (Except.ok.inj hok)
  rw [← h.instant_eq, h'.instant_eq]

/-- The text of a moment fails exactly outside the calendar; within it the text is read back as the
moment in universal time of the same instant, and equal texts are those of equal instants. -/
theorem stamps_read_back (d : Moment) :
    (isoUtc d = .error .dateOutOfRange ↔ ¬d.InCalendar) ∧
    (d.InCalendar → ∃ text u, Stamps d text u) ∧
    ∀ d' : Moment, d.InCalendar → d'.InCalendar →
      (isoUtc d = isoUtc d' ↔ d.instant = d'.instant) := by
  refine ⟨isoUtc_eq_error_iff, exists_stamps, fun d' h h' => ⟨fun heq => ?_, isoUtc_congr⟩⟩
  obtain ⟨text, u, hstamps⟩ := exists_stamps h
  obtain ⟨text', u', hstamps'⟩ := exists_stamps h'
  obtain rfl : text = text' := by
    rw [hstamps.isoUtc_eq, hstamps'.isoUtc_eq] at heq
    exact Except.ok.inj heq
  exact hstamps.instant_eq_of_text hstamps'

/-- The last microsecond of a leap day, two and a half hours west of universal time, and the same instant
on the morning after. -/
theorem leap_day_reads_back :
    let leapDayEnd : Moment := ⟨⟨2024, 2, 29, by decide, by decide, by decide, by decide⟩,
      ⟨23, 59, 59, 999999, by decide, by decide, by decide, by decide⟩, some ⟨-9000000000, by decide⟩⟩
    let marchMorning : Moment := ⟨⟨2024, 3, 1, by decide, by decide, by decide, by decide⟩,
      ⟨2, 29, 59, 999999, by decide, by decide, by decide, by decide⟩, none⟩
    leapDayEnd.InCalendar ∧ marchMorning.InCalendar ∧ (∃ text u, Stamps leapDayEnd text u) ∧
      isoUtc leapDayEnd = isoUtc marchMorning := by
  intro leapDayEnd marchMorning
  have hend : leapDayEnd.InCalendar := by decide
  have hmorning : marchMorning.InCalendar := by decide
  have hinstant : leapDayEnd.instant = marchMorning.instant := by decide
  obtain ⟨-, hstamps, hequal⟩ := stamps_read_back leapDayEnd
  exact ⟨hend, hmorning, hstamps hend, (hequal marchMorning hend hmorning).2 hinstant⟩

end Tripwire
