import Mathlib.Algebra.GroupWithZero.Nat

/-!
# Lines

A text is made of lines if each of them has a line feed after it and none in it. A text has such lines
if it ends with a line feed; they are determined by the text, and there are as many as line feeds.
-/

namespace Tripwire.Text

/-- How many line feeds a text has. -/
def feeds (text : String) : Nat := text.toList.count '\n'

/-- Lines one after another, each with a line feed after it. -/
def ended (lines : List String) : List Char := lines.flatMap fun line => line.toList ++ ['\n']

/-- That a text is made of lines. -/
def IsLines (lines : List String) (text : String) : Prop :=
  text.toList = ended lines ∧ ∀ line ∈ lines, '\n' ∉ line.toList

theorem feeds_eq_zero_iff {text : String} : feeds text = 0 ↔ '\n' ∉ text.toList := by
  rw [feeds, List.count_eq_zero]

theorem sum_feeds_eq_zero_iff {texts : List String} :
    (texts.map feeds).sum = 0 ↔ ∀ text ∈ texts, '\n' ∉ text.toList := by
  rw [List.sum_eq_zero_iff_forall_eq_nat, List.forall_mem_map]
  simp only [feeds_eq_zero_iff]

theorem feeds_append (s t : String) : feeds (s ++ t) = feeds s + feeds t := by
  rw [feeds, String.toList_append, List.count_append, feeds, feeds]

theorem ended_cons (line : String) (lines : List String) :
    ended (line :: lines) = line.toList ++ '\n' :: ended lines := by
  simp [ended]

/-- Each line feed ends a line or stands in one. -/
theorem count_ended (lines : List String) :
    (ended lines).count '\n' = lines.length + (lines.map feeds).sum := by
  induction lines with
  | nil => rfl
  | cons line lines ih =>
    rw [ended_cons, List.count_append, List.count_cons_self, ih, List.map_cons, List.sum_cons,
      List.length_cons, ← feeds]
    omega

theorem toList_ended {lines : List String} (h : lines ≠ []) :
    ("\n".intercalate lines ++ "\n").toList = ended lines := by
  induction lines with
  | nil => exact absurd rfl h
  | cons line rest ih =>
    cases rest with
    | nil => simp [ended]
    | cons next rest =>
      have htail := ih (List.cons_ne_nil next rest)
      rw [String.toList_append] at htail ⊢
      rw [String.intercalate_cons_cons, String.toList_append, String.toList_append, List.append_assoc,
        List.append_assoc, htail, ended_cons line]
      rfl

theorem append_feed_inj {a b after after' : List Char} (ha : '\n' ∉ a) (hb : '\n' ∉ b)
    (h : a ++ '\n' :: after = b ++ '\n' :: after') : a = b ∧ after = after' := by
  induction a generalizing b with
  | nil =>
    cases b with
    | nil => exact ⟨rfl, (List.cons.inj h).2⟩
    | cons d b => exact absurd (List.mem_cons.2 (.inl (List.cons.inj h).1)) hb
  | cons c a ih =>
    cases b with
    | nil => exact absurd (List.mem_cons.2 (.inl (List.cons.inj h).1.symm)) ha
    | cons d b =>
      obtain ⟨rfl, htail⟩ := List.cons.inj h
      obtain ⟨rfl, hafter⟩ := ih (List.not_mem_of_not_mem_cons ha) (List.not_mem_of_not_mem_cons hb) htail
      exact ⟨rfl, hafter⟩

namespace IsLines

variable {lines : List String} {text : String}

theorem length_eq (h : IsLines lines text) : lines.length = feeds text := by
  rw [feeds, h.1, count_ended, sum_feeds_eq_zero_iff.2 h.2, Nat.add_zero]

theorem unique {lines' : List String} (h : IsLines lines text) (h' : IsLines lines' text) :
    lines = lines' := by
  obtain ⟨htext, hnone⟩ := h
  obtain ⟨htext', hnone'⟩ := h'
  rw [htext] at htext'
  clear htext
  induction lines generalizing lines' with
  | nil =>
    cases lines' with
    | nil => rfl
    | cons line' rest' => simp [ended] at htext'
  | cons line rest ih =>
    cases lines' with
    | nil => simp [ended] at htext'
    | cons line' rest' =>
      obtain ⟨hline, hrest⟩ := List.forall_mem_cons.1 hnone
      obtain ⟨hline', hrest'⟩ := List.forall_mem_cons.1 hnone'
      rw [ended_cons, ended_cons] at htext'
      obtain ⟨hfirst, hafter⟩ := append_feed_inj hline hline' htext'
      rw [String.toList_inj.1 hfirst, ih hrest hafter hrest']

end IsLines

/-- A text that ends with a line feed is made of lines. -/
theorem exists_isLines (cs : List Char) : ∃ lines, IsLines lines (String.ofList (cs ++ ['\n'])) := by
  induction cs with
  | nil => exact ⟨[""], rfl, by simp⟩
  | cons c cs ih =>
    obtain ⟨lines, htext, hnone⟩ := ih
    rw [String.toList_ofList] at htext
    by_cases hc : c = '\n'
    · refine ⟨"" :: lines, ?_, List.forall_mem_cons.2 ⟨by simp, hnone⟩⟩
      rw [String.toList_ofList, ended_cons, ← htext, hc]
      rfl
    · cases lines with
      | nil => simp [ended] at htext
      | cons line rest =>
        obtain ⟨hline, hrest⟩ := List.forall_mem_cons.1 hnone
        refine ⟨String.ofList (c :: line.toList) :: rest, ?_, List.forall_mem_cons.2 ⟨?_, hrest⟩⟩
        · rw [String.toList_ofList, ended_cons, String.toList_ofList, List.cons_append, htext,
            ended_cons, List.cons_append]
        · rw [String.toList_ofList, List.mem_cons, not_or]
          exact ⟨Ne.symm hc, hline⟩

end Tripwire.Text
