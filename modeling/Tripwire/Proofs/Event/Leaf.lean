import Tripwire.Proofs.Decimal.Packed
import Tripwire.Proofs.Event.Reading
import Tripwire.Proofs.Value.Decoded

/-!
# Leaves of entries

What a text, a timestamp and a count come to, whatever value is in their place. Only a count can fail:
that of an infinite number.
-/

namespace Tripwire

open Time (Moment)

variable {W : Type}

/-! ### Infinite numbers -/

namespace Decimal

theorem infinite_iff_amount {d : Double} :
    (∃ negative, d = .infinite negative) ↔ d.amount? = some .bottom ∨ d.amount? = some .top := by
  cases d with
  | nan => simp [Double.amount?]
  | infinite negative => cases negative <;> simp [Double.amount?]
  | finite negative mantissa exponent => simp [Double.amount?]

theorem isInf_iff_amount {u : Float.Model.UnpackedFloat} :
    u.isInf = true ↔ amountOf u = some .bottom ∨ amountOf u = some .top := by
  cases u with
  | infinity s => cases s <;> simp [amountOf, Float.Model.UnpackedFloat.isInf]
  | _ => simp [amountOf, Float.Model.UnpackedFloat.isInf]

theorem isInf_iff (x : Float) :
    x.isInf = true ↔ ∃ negative, Double.ofFloat x = .infinite negative := by
  have hamount : (Double.ofFloat x).amount? = amountOf x.toModel.unpack := amount?_real x
  show x.toModel.unpack.isInf = true ↔ _
  rw [isInf_iff_amount, infinite_iff_amount, hamount]

end Decimal

theorem truncate_of_isInf {x : Float} (h : x.isInf = true) : truncate x = .error .infinityToWhole := by
  obtain ⟨negative, hx⟩ := (Decimal.isInf_iff x).1 h
  rw [truncate, hx]

theorem truncate_ne_of_not_isInf {x : Float} (h : ¬x.isInf = true) :
    truncate x ≠ .error .infinityToWhole := by
  intro htruncate
  unfold truncate at htruncate
  split at htruncate
  · cases htruncate
  · rename_i negative hx
    exact h ((Decimal.isInf_iff x).2 ⟨negative, hx⟩)
  · cases htruncate

namespace Value

def IsInfinite : Value → Prop
  | float x => x.isInf = true
  | _ => False

instance : DecidablePred IsInfinite
  | float x => inferInstanceAs (Decidable (x.isInf = true))
  | null | bool _ | int _ | text _ | bytes _ | date _ | moment _ | list _ | map _ _ =>
    inferInstanceAs (Decidable False)

theorem wholeOf_ne_infinityToWhole (shown : String) (reading : Decimal.WholeReading) :
    wholeOf shown reading ≠ .error .infinityToWhole := by
  intro h
  cases reading <;> cases h

theorem toWhole_eq_infinityToWhole_iff {v : Value} :
    v.toWhole = .error .infinityToWhole ↔ v.IsInfinite := by
  cases v with
  | float x =>
    constructor
    · intro h
      by_contra hx
      exact truncate_ne_of_not_isInf hx h
    · exact truncate_of_isInf
  | text s => exact iff_of_false (wholeOf_ne_infinityToWhole _ _) id
  | bytes bs => exact iff_of_false (wholeOf_ne_infinityToWhole _ _) id
  | _ =>
    refine iff_of_false (fun h => ?_) id
    cases h

/-! ### Counts -/

/-- That a number is what a leaf counts: its whole number if it has one, and otherwise one. -/
def Counts (v : Value) (n : Int) : Prop :=
  v.toWhole = .ok n ∨ (∃ f, v.toWhole = .error f) ∧ n = 1

theorem count_of_isInfinite {v : Value} (h : v.IsInfinite) : v.count = .error .infinityToWhole := by
  rw [count, toWhole_eq_infinityToWhole_iff.2 h]

theorem exists_count {v : Value} (h : ¬v.IsInfinite) : ∃ n, v.count = .ok n ∧ v.Counts n := by
  unfold count
  cases hv : v.toWhole with
  | ok n => exact ⟨n, rfl, .inl hv⟩
  | error f =>
    refine ⟨1, ?_, .inr ⟨⟨f, hv⟩, rfl⟩⟩
    split
    · rename_i hf
      cases hf
    · rename_i hf
      cases hf
      exact absurd (toWhole_eq_infinityToWhole_iff.1 hv) h
    · rfl

/-! ### Texts -/

/-- The value under a key; one that is not there is null. -/
def leaf (v : Value) (key : String) : Value := (v.get? key).getD .null

/-- That a text field says a leaf. -/
def Says (v : Value) (text : String) : Prop :=
  v = .null ∧ text = "" ∨ v ≠ .null ∧ v.toText = .ok text

theorem Decoded.leaf {v : Value} (h : v.Decoded) (key : String) : (v.leaf key).Decoded := by
  unfold Value.leaf
  cases hw : v.get? key with
  | none => exact .null
  | some w => exact h.get? hw

theorem Decoded.exists_leafText {v : Value} (h : v.Decoded) :
    ∃ t, v.leafText = .ok t ∧ v.Says t := by
  by_cases hnull : v = .null
  · subst hnull
    exact ⟨"", rfl, .inl ⟨rfl, rfl⟩⟩
  · obtain ⟨t, ht⟩ := h.exists_toText
    refine ⟨t, ?_, .inr ⟨hnull, ht⟩⟩
    unfold leafText
    split
    · exact absurd rfl hnull
    · exact ht

/-! ### Timestamps -/

/-- The moment in a leaf, if there is one. -/
def moment? : Value → Option Moment
  | .text s => if s = "" then none else readTimestamp? s
  | _ => none

theorem reads_timestamp (v : Value) : (v.timestamp : Act W (Option Moment)).Reads (.ok v.moment?) := by
  cases v with
  | text s =>
    rw [timestamp, moment?]
    split
    · exact Act.reads_pure none
    · cases readTimestamp? s with
      | some m => exact Act.reads_pure (some m)
      | none => exact (Act.reads_note _ _).bind fun _ => Act.reads_pure none
  | _ => exact Act.reads_pure none

theorem offset_of_moment? {v : Value} {m : Moment} (h : v.moment? = some m) :
    m.offset.isSome = true := by
  have haware (u : Moment) : u.aware.offset.isSome = true := by
    unfold Moment.aware
    split
    · rename_i o ho
      rw [ho]
      rfl
    · rfl
  unfold moment? at h
  split at h
  · split at h
    · cases h
    · obtain ⟨u, -, rfl⟩ := Option.map_eq_some_iff.1 h
      exact haware u
  · cases h

end Value

end Tripwire
