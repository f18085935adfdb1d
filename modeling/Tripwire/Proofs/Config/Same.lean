import Tripwire.Proofs.Config.InForce
import Tripwire.Proofs.Config.Shared

/-!
# The same writes to the same data

Two mappings that are equal but for the order of their keys stay so under the same writes, and a write
fails for one with the fault that it fails with for the other. A shared mapping in one is found in the
other as it is, so the news of it are the same for both.
-/

namespace Tripwire

/-- That two values are the same but for the order of the keys of mappings that are not shared. -/
def Value.Same (v w : Value) : Prop :=
  v = w ∨ ∃ a b, v = .map a none ∧ w = .map b none ∧ Entries.Same a b

/-- That two computations give the same data, or fail with the same fault. -/
inductive SameOutcome : Except Fault Entries → Except Fault Entries → Prop where
  | ok {a b : Entries} (same : a.Same b) : SameOutcome (.ok a) (.ok b)
  | error (f : Fault) : SameOutcome (.error f) (.error f)

namespace Entries

variable {a b : Entries}

theorem follow?_singleton (a : Entries) (key : Value) : a.follow? [key] = a.get? key := by
  rw [follow?_cons]
  cases a.get? key <;> rfl

theorem same_iff_get? : a.Same b ↔ ∀ key, Option.Rel Value.Same (a.get? key) (b.get? key) := by
  constructor
  · intro h key
    have hkey := h [key]
    have hbelow (rest : List Value) := h (key :: rest)
    rw [follow?_singleton, follow?_singleton] at hkey
    simp only [follow?_cons] at hbelow
    generalize a.get? key = x, b.get? key = y at hkey hbelow
    cases hkey with
    | none => exact .none
    | some hagrees =>
      rcases hagrees with rfl | ⟨c, d, rfl, rfl⟩
      · exact .some (.inl rfl)
      · exact .some (.inr ⟨c, d, rfl, rfl, hbelow⟩)
  · intro h path
    cases path with
    | nil => exact .some (.inr ⟨a, b, rfl, rfl⟩)
    | cons key rest =>
      have hkey := h key
      rw [follow?_cons, follow?_cons]
      generalize a.get? key = x, b.get? key = y at hkey
      cases hkey with
      | none => exact .none
      | some hsame =>
        rcases hsame with rfl | ⟨c, d, rfl, rfl, hcd⟩
        · exact optionRel_refl
        · exact hcd rest

theorem Same.put (h : a.Same b) {v w : Value} (hvw : v.Same w) (key : Value) :
    Entries.Same (a.put key v) (b.put key w) := by
  rw [same_iff_get?] at h ⊢
  intro other
  rw [get?_put, get?_put]
  split
  · exact .some hvw
  · exact h other

theorem Same.renew (h : a.Same b) (anchor : Nat) (content : Entries) :
    Entries.Same (renewEntries anchor content a) (renewEntries anchor content b) := by
  intro path
  induction path generalizing a b with
  | nil => exact .some (.inr ⟨_, _, rfl, rfl⟩)
  | cons key rest ih =>
    have hkey := same_iff_get?.1 h key
    rw [follow?_cons, follow?_cons, get?_renewEntries, get?_renewEntries]
    generalize a.get? key = x, b.get? key = y at hkey
    cases hkey with
    | none => exact .none
    | some hsame =>
      rcases hsame with rfl | ⟨c, d, rfl, rfl, hcd⟩
      · exact optionRel_refl
      · exact ih hcd

theorem Same.apply (h : a.Same b) (news : News) : Entries.Same (news.apply a) (news.apply b) := by
  unfold News.apply
  induction news generalizing a b with
  | nil => exact h
  | cons change news ih => exact ih (h.renew change.1 change.2)

theorem mappingOnPath_of_same (key : String) {x y : Option Value} (h : Option.Rel Value.Same x y) :
    mappingOnPath key x = mappingOnPath key y ∨
      ∃ c d, mappingOnPath key x = .ok (c, none) ∧ mappingOnPath key y = .ok (d, none) ∧
        Entries.Same c d := by
  cases h with
  | none => exact .inl rfl
  | some hsame =>
    rcases hsame with rfl | ⟨c, d, rfl, rfl, hcd⟩
    · exact .inl rfl
    · exact .inr ⟨c, d, rfl, rfl, hcd⟩

/-- The same write to the same data has the same news. -/
theorem Same.writeAt (h : a.Same b) (v : Value) (path : List String) :
    (∃ f, writeAt v a path = .error f ∧ writeAt v b path = .error f) ∨
      ∃ r r' news, writeAt v a path = .ok (r, news) ∧ writeAt v b path = .ok (r', news) ∧
        r.Same r' := by
  induction path generalizing a b with
  | nil => exact .inr ⟨a, b, [], rfl, rfl, h⟩
  | cons key rest ih =>
    cases rest with
    | nil => exact .inr ⟨_, _, [], rfl, rfl, h.put (.inl rfl) _⟩
    | cons next rest =>
      have hkey := same_iff_get?.1 h (.text key)
      rw [Tripwire.writeAt, Tripwire.writeAt]
      rcases mappingOnPath_of_same key hkey with heq | ⟨c, d, hc, hd, hcd⟩
      · -- From here on both are written to alike, so what a shared mapping becomes is the same.
        rw [heq]
        cases mappingOnPath key (b.get? (.text key)) with
        | error f => exact .inl ⟨f, rfl, rfl⟩
        | ok found =>
          obtain ⟨child, anchor⟩ := found
          rw [ok_bind, ok_bind]
          dsimp only
          cases Tripwire.writeAt v child (next :: rest) with
          | error f => exact .inl ⟨f, rfl, rfl⟩
          | ok written => exact .inr ⟨_, _, _, rfl, rfl, (h.put (.inl rfl) _).apply _⟩
      · rw [hc, hd, ok_bind, ok_bind]
        dsimp only
        rcases ih hcd with ⟨f, hf, hf'⟩ | ⟨r, r', news, hr, hr', hsame⟩
        · rw [hf, hf']
          exact .inl ⟨f, rfl, rfl⟩
        · rw [hr, hr']
          exact .inr ⟨_, _, _, rfl, rfl, (h.put (.inr ⟨r, r', rfl, rfl, hsame⟩) _).apply _⟩

theorem Same.write (h : a.Same b) (path : List String) (v : Value) :
    SameOutcome (a.write path v) (b.write path v) := by
  rw [Entries.write, Entries.write]
  rcases h.writeAt v path with ⟨f, hf, hf'⟩ | ⟨r, r', news, hr, hr', hsame⟩
  · rw [hf, hf']
    exact .error f
  · rw [hr, hr']
    exact .ok hsame

theorem Same.writeAll (h : a.Same b) (writes : List (List String × Value)) :
    SameOutcome (a.writeAll writes) (b.writeAll writes) := by
  induction writes generalizing a b with
  | nil => exact .ok h
  | cons w writes ih =>
    obtain ⟨path, v⟩ := w
    have hfirst := h.write path v
    rw [Entries.writeAll, Entries.writeAll]
    generalize a.write path v = x, b.write path v = y at hfirst
    cases hfirst with
    | ok hsame => exact ih hsame
    | error f => exact .error f

end Entries

end Tripwire
