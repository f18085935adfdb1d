import Tripwire.Proofs.Config.Merge

/-!
# Following paths

What a tree says about a path. It sets the path if going through mappings along its keys ends at a
value, and it cuts the path if on the way, before the end, there stands something else than a mapping.
-/

namespace Tripwire

namespace Value

/-- The value at the end of a path that goes through mappings only. -/
def follow? : Value → List Value → Option Value
  | v, [] => some v
  | map entries _, key :: rest => (Entries.get? entries key).bind fun v => v.follow? rest
  | _, _ :: _ => none

/-- A value with the content of a mapping left out. -/
def outline : Value → Value
  | map _ _ => .map [] none
  | v => v

@[simp] theorem follow?_nil (v : Value) : v.follow? [] = some v := by
  cases v <;> rfl

theorem follow?_map_cons (entries : Entries) (anchor : Option Nat) (key : Value)
    (rest : List Value) :
    (map entries anchor).follow? (key :: rest) = (entries.get? key).bind fun v => v.follow? rest :=
  rfl

theorem follow?_cons_of_not_mapping {v : Value} (hv : v.isMapping = false) (key : Value)
    (rest : List Value) : v.follow? (key :: rest) = none := by
  cases v <;> first | rfl | simp [isMapping] at hv

theorem follow?_append (v : Value) (p q : List Value) :
    v.follow? (p ++ q) = (v.follow? p).bind fun w => w.follow? q := by
  induction p generalizing v with
  | nil => simp
  | cons key rest ih =>
    cases hv : v.isMapping with
    | false =>
      rw [List.cons_append, follow?_cons_of_not_mapping hv, follow?_cons_of_not_mapping hv]
      rfl
    | true =>
      obtain ⟨entries, anchor, rfl⟩ := exists_of_isMapping hv
      rw [List.cons_append, follow?_map_cons, follow?_map_cons, Option.bind_assoc]
      exact Option.bind_congr fun w _ => ih w

theorem outline_of_not_mapping {v : Value} (hv : v.isMapping = false) : v.outline = v := by
  cases v <;> first | rfl | simp [isMapping] at hv

theorem isMapping_outline (v : Value) : v.outline.isMapping = v.isMapping := by
  cases v <;> rfl

end Value

namespace Entries

def follow? (entries : Entries) (path : List Value) : Option Value :=
  (Value.map entries none).follow? path

/-- Whether a proper part of a path, not the empty one, ends at something else than a mapping. -/
def Cuts (entries : Entries) (path : List Value) : Prop :=
  ∃ part v, part ≠ [] ∧ part <+: path ∧ part ≠ path ∧ entries.follow? part = some v ∧
    v.isMapping = false

/-- Whether entries set a path or cut it. -/
def Decides (entries : Entries) (path : List Value) : Prop :=
  (∃ v, entries.follow? path = some v) ∨ entries.Cuts path

theorem follow?_cons (entries : Entries) (key : Value) (rest : List Value) :
    entries.follow? (key :: rest) = (entries.get? key).bind fun v => v.follow? rest := rfl

theorem follow?_eq_none_of_cuts {entries : Entries} {path : List Value} (h : entries.Cuts path) :
    entries.follow? path = none := by
  obtain ⟨part, v, -, ⟨rest, rfl⟩, hne, hv, hm⟩ := h
  cases rest with
  | nil => simp at hne
  | cons key rest =>
    rw [follow?] at hv ⊢
    rw [Value.follow?_append, hv]
    exact Value.follow?_cons_of_not_mapping hm key rest

theorem decides_nil (entries : Entries) : entries.Decides [] := Or.inl ⟨_, rfl⟩

theorem not_decides_of_get?_eq_none {entries : Entries} {key : Value} {rest : List Value}
    (h : entries.get? key = none) : ¬ entries.Decides (key :: rest) := by
  rintro (⟨v, hv⟩ | ⟨part, v, hne, hpre, -, hv, -⟩)
  · simp [follow?_cons, h] at hv
  · cases part with
    | nil => exact hne rfl
    | cons k part =>
      obtain rfl := (List.cons_prefix_cons.1 hpre).1
      simp [follow?_cons, h] at hv

theorem decides_of_get?_eq_some {entries : Entries} {key v : Value} {rest : List Value}
    (h : entries.get? key = some v) (hm : v.isMapping = false) :
    entries.Decides (key :: rest) := by
  cases rest with
  | nil => exact Or.inl ⟨v, by simp [follow?_cons, h]⟩
  | cons next rest =>
    refine Or.inr ⟨[key], v, by simp, by simp, by simp, ?_, hm⟩
    simp [follow?_cons, h]

theorem decides_cons_iff {entries child : Entries} {key : Value} {rest : List Value}
    (h : entries.get? key = some (.map child none)) :
    entries.Decides (key :: rest) ↔ child.Decides rest := by
  have hf (path : List Value) : entries.follow? (key :: path) = child.follow? path := by
    rw [follow?_cons, h, Option.bind_some]
    rfl
  constructor
  · rintro (⟨v, hv⟩ | ⟨part, v, hne, hpre, hproper, hv, hm⟩)
    · rw [hf] at hv
      exact Or.inl ⟨v, hv⟩
    · cases part with
      | nil => exact absurd rfl hne
      | cons k part =>
        obtain ⟨rfl, hpre'⟩ := List.cons_prefix_cons.1 hpre
        rw [hf] at hv
        cases part with
        | nil =>
          -- the first step alone ends at a mapping, so it cuts nothing
          simp only [follow?, Value.follow?_nil, Option.some.injEq] at hv
          simp [← hv, Value.isMapping] at hm
        | cons next part =>
          exact Or.inr ⟨next :: part, v, by simp, hpre', by simpa using hproper, hv, hm⟩
  · rintro (⟨v, hv⟩ | ⟨part, v, -, hpre, hproper, hv, hm⟩)
    · exact Or.inl ⟨v, (hf rest).trans hv⟩
    · refine Or.inr ⟨key :: part, v, by simp, ?_, by simpa using hproper, (hf part).trans hv, hm⟩
      exact List.cons_prefix_cons.2 ⟨rfl, hpre⟩

theorem follow?_entriesOf (current : Option Value) {path : List Value} (h : path ≠ []) :
    (entriesOf current).follow? path = current.bind fun v => v.follow? path := by
  obtain ⟨key, rest, rfl⟩ := List.exists_cons_of_ne_nil h
  cases current with
  | none => rfl
  | some c => cases c <;> rfl

end Entries

/-! ### Following a path through what was laid -/

theorem isClustersKey_congr {a b : Value} (h : a.sameKey b = true) :
    a.isClustersKey = b.isClustersKey :=
  Value.sameKey_congr h _

/-- On a path without the key of the clusters the upper tree counts where it decides, and the lower
one elsewhere. The content of mappings is left out, since there both have a say. -/
theorem follow?_lay {lower upper merged : Entries} {path : List Value} (hl : lower.IsTree)
    (hu : upper.IsTree) (h : lower.lay upper = .ok merged)
    (hp : ∀ key ∈ path, key.isClustersKey = false) :
    (upper.Decides path →
      (merged.follow? path).map Value.outline = (upper.follow? path).map Value.outline) ∧
    (¬ upper.Decides path →
      (merged.follow? path).map Value.outline = (lower.follow? path).map Value.outline) := by
  induction path generalizing lower upper merged with
  | nil => exact ⟨fun _ => rfl, fun hd => absurd (Entries.decides_nil upper) hd⟩
  | cons key rest ih =>
    obtain ⟨hkey, hrest⟩ := List.forall_mem_cons.1 hp
    simp only [Entries.follow?_cons]
    rcases hv : upper.get? key with - | v
    · have hd : ¬ upper.Decides (key :: rest) := Entries.not_decides_of_get?_eq_none hv
      rw [get?_lay_of_none hl hu h hv]
      exact ⟨fun hd' => absurd hd' hd, fun _ => rfl⟩
    · obtain ⟨k, laid, hs, hlaid, hget⟩ := get?_lay_of_some hl hu h hv
      have hvt := hu.get? hv
      rw [hget]
      cases hm : v.isMapping with
      | false =>
        rw [layOver_of_not_mapping hm, Except.ok.injEq] at hlaid
        have hd : upper.Decides (key :: rest) := Entries.decides_of_get?_eq_some hv hm
        rw [hlaid]
        exact ⟨fun _ => rfl, fun hd' => absurd hd hd'⟩
      | true =>
        obtain ⟨child, rfl, hct⟩ := hvt.exists_of_isMapping hm
        have hother : k.isClustersKey = false := (isClustersKey_congr hs).trans hkey
        rw [layOver_map_of_other hother (hl.under key) hct] at hlaid
        obtain ⟨m, hmerge, rfl⟩ := map_eq_ok.1 hlaid
        obtain ⟨hdec, hnot⟩ := ih (entriesOf_isTree (hl.under key)) hct hmerge hrest
        rw [Entries.decides_cons_iff hv]
        refine ⟨hdec, fun hd => (hnot hd).trans ?_⟩
        have hne : rest ≠ [] := fun he => hd (he ▸ Entries.decides_nil child)
        rw [Entries.follow?_entriesOf _ hne]

end Tripwire
