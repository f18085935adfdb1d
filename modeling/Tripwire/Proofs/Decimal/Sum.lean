import Tripwire.Proofs.Decimal.Packed

/-!
# Sums of doubles

A double that is added to another and is not above zero does not make it larger. The exact sum does not,
and rounding does not pass a double.
-/

namespace Tripwire.Decimal

open Float.Model Float.Model.UnpackedFloat

/-- That two doubles have amounts, the first at most the second. -/
def Below (u v : UnpackedFloat) : Prop :=
  ∃ x y, amountOf u = some x ∧ amountOf v = some y ∧ x.atMost y = true

theorem inPlace_of_rounds {v : ℚ} {r : Nat} {place : Int} (h : Rounds v r place) (hr : r < 2 ^ 53) :
    InPlace r place := by
  refine ⟨h.lowest, hr, ?_⟩
  by_cases hplace : place = -1074
  · exact .inr hplace
  · exact .inl (h.full (lt_of_le_of_ne h.lowest (Ne.symm hplace)))

theorem two_pow_le_steps {r n : Nat} {place : Int} (hr : 2 ^ n ≤ r) (h : 1024 ≤ n + place) :
    (2 : ℚ) ^ (1024 : Int) ≤ r * 2 ^ place := by
  have hr' : (2 : ℚ) ^ (n : Int) ≤ r := by
    rw [zpow_natCast]
    exact_mod_cast hr
  have hle := mul_le_mul_of_nonneg_right hr' (step_pos place).le
  rw [← zpow_add₀ (by norm_num)] at hle
  exact (zpow_le_zpow_right₀ (by norm_num) h).trans hle

/-- Steps that are packed keep their size, unless it is too large for a double. -/
theorem amountOf_pack_ofSteps {v : ℚ} {r : Nat} {place : Int} (s : Sign) (h : Rounds v r place) :
    (∃ d : Dyadic, amountOf (Float.Model.pack (ofSteps s r place)).unpack = some (.finite d) ∧
      d.toRat = s.apply r * 2 ^ place) ∨
    ((Float.Model.pack (ofSteps s r place)).unpack = .infinity s ∧
      (2 : ℚ) ^ (1024 : Int) ≤ r * 2 ^ place) := by
  have hlowest := h.lowest
  have hsteps := h.steps_le
  rw [ofSteps]
  by_cases hzero : r = 0
  · subst hzero
    rw [dif_pos rfl, unpack_pack_zero]
    refine .inl ⟨0, rfl, ?_⟩
    cases s <;> simp [Sign.apply]
  · rw [dif_neg hzero]
    by_cases hshort : r < 2 ^ 53
    · rw [if_pos hshort, unpack_pack_finite _ (inPlace_of_rounds h hshort)]
      by_cases hhigh : place ≤ 971
      · rw [if_pos hhigh]
        exact .inl (amountOf_finite s place _)
      · rw [if_neg hhigh]
        exact .inr ⟨rfl, two_pow_le_steps (h.full (by omega)) (by omega)⟩
    · obtain rfl : r = 2 ^ 53 := by omega
      have hplace : InPlace (2 ^ 52) (place + 1) := ⟨by omega, by norm_num, .inl le_rfl⟩
      rw [if_neg hshort, unpack_pack_finite _ hplace]
      by_cases hhigh : place + 1 ≤ 971
      · rw [if_pos hhigh]
        obtain ⟨d, hd, hvalue⟩ := amountOf_finite s (place + 1) (m := 2 ^ 52) (by norm_num)
        refine .inl ⟨d, hd, ?_⟩
        rw [hvalue, zpow_add₀ (by norm_num)]
        cases s <;> norm_num [Sign.apply] <;> ring
      · rw [if_neg hhigh]
        exact .inr ⟨rfl, two_pow_le_steps le_rfl (by omega)⟩

section

variable {s : Sign} {k n : Nat} {e place : Int} {hk : 0 < k}

theorem round_negative_below (hn : 0 < n) (h : InPlace k place)
    (hle : -(n : ℚ) * 2 ^ e ≤ s.apply k * 2 ^ place) :
    Below (Float.Model.pack (round Format.binary64 .negative n e)).unpack (.finite s k place hk) := by
  obtain ⟨bound, hbound, hboundValue⟩ := amountOf_finite s place hk
  obtain ⟨r, place', hrounds, hsteps⟩ := round_eq .negative hn e
  rw [hsteps]
  obtain ⟨d, hd, hvalue⟩ | ⟨hinfinite, -⟩ := amountOf_pack_ofSteps .negative hrounds
  · refine ⟨_, _, hd, hbound, atMost_finite.2 ?_⟩
    rw [hvalue, hboundValue]
    cases s with
    | positive =>
      have hleft : (0 : ℚ) ≤ r * 2 ^ place' := mul_nonneg r.cast_nonneg (step_pos place').le
      have hright : (0 : ℚ) ≤ k * 2 ^ place := mul_nonneg k.cast_nonneg (step_pos place).le
      simp only [Sign.apply, Int.cast_neg, Int.cast_natCast]
      linarith
    | negative =>
      simp only [Sign.apply, Int.cast_neg, Int.cast_natCast] at hle ⊢
      have hge := hrounds.ge_of_ge h.short h.lowest (by linarith)
      linarith
  · rw [hinfinite]
    exact ⟨_, _, rfl, hbound, rfl⟩

theorem round_positive_below (hn : 0 < n) (h : InPlace k place) (hplace : place ≤ 971)
    (hle : (n : ℚ) * 2 ^ e ≤ s.apply k * 2 ^ place) :
    Below (Float.Model.pack (round Format.binary64 .positive n e)).unpack (.finite s k place hk) := by
  obtain ⟨bound, hbound, hboundValue⟩ := amountOf_finite s place hk
  obtain ⟨r, place', hrounds, hsteps⟩ := round_eq .positive hn e
  have hsum : (0 : ℚ) < n * 2 ^ e := mul_pos (by exact_mod_cast hn) (step_pos e)
  have hright : (0 : ℚ) ≤ k * 2 ^ place := mul_nonneg k.cast_nonneg (step_pos place).le
  cases s with
  | negative =>
    simp only [Sign.apply, Int.cast_neg, Int.cast_natCast] at hle
    linarith
  | positive =>
    simp only [Sign.apply, Int.cast_natCast] at hle
    have hsmall := hrounds.le_of_le h.short h.lowest hle
    rw [hsteps]
    obtain ⟨d, hd, hvalue⟩ | ⟨-, hlarge⟩ := amountOf_pack_ofSteps .positive hrounds
    · refine ⟨_, _, hd, hbound, atMost_finite.2 ?_⟩
      rw [hvalue, hboundValue]
      simpa only [Sign.apply, Int.cast_natCast] using hsmall
    · -- Steps that are at most a double are not too large for one.
      have hlower : (k : ℚ) * 2 ^ place < 2 ^ (1024 : Int) :=
        lt_of_lower h.short (show place < 972 by omega)
      linarith

/-- A sum that is at most a double is at most that double once it is rounded. -/
theorem normalize_below {sum : Int} (h : InPlace k place) (hplace : place ≤ 971)
    (hle : (sum : ℚ) * 2 ^ e ≤ s.apply k * 2 ^ place) :
    Below (Float.Model.pack (UnpackedFloat.normalize Format.binary64 sum e .positive)).unpack
      (.finite s k place hk) := by
  rcases lt_trichotomy sum 0 with hneg | rfl | hpos
  · have hcast : -(((-sum).toNat : Nat) : ℚ) = sum := by
      have hint : -(((-sum).toNat : Nat) : Int) = sum := by omega
      exact_mod_cast hint
    rw [UnpackedFloat.normalize, Int.compare_eq_lt.2 hneg]
    exact round_negative_below (by omega) h (by rw [hcast]; exact hle)
  · obtain ⟨bound, hbound, hboundValue⟩ := amountOf_finite s place hk
    rw [UnpackedFloat.normalize, Int.compare_eq_eq.2 rfl]
    simp only [unpack_pack_zero]
    refine ⟨.finite 0, _, rfl, hbound, atMost_finite.2 ?_⟩
    rw [hboundValue]
    simpa using hle
  · have hcast : ((sum.toNat : Nat) : ℚ) = sum := by
      have hint : ((sum.toNat : Nat) : Int) = sum := by omega
      exact_mod_cast hint
    rw [UnpackedFloat.normalize, Int.compare_eq_gt.2 hpos]
    exact round_positive_below (by omega) h hplace (by rw [hcast]; exact hle)

end

/-- Two magnitudes at their lower place. -/
theorem decreaseExponent_eq (m : Nat) {e place : Int} (h : place ≤ e) :
    ((decreaseExponent m e place).1 : ℚ) * 2 ^ place = m * 2 ^ e := by
  have hshift : (decreaseExponent m e place).1 = m * 2 ^ (e - place).toNat := Nat.shiftLeft_eq m _
  rw [hshift, two_zpow_add_toNat h]
  push_cast
  ring

theorem cast_apply (s : Sign) (m : Nat) : (s.apply m : ℚ) = s.apply 1 * m := by
  cases s <;> simp [Sign.apply]

theorem add_finite_below {s : Sign} {m n : Nat} {e e' : Int} {hm : 0 < m} {hn : 0 < n}
    (h : InPlace m e) (he : e ≤ 971) :
    Below (Float.Model.pack (UnpackedFloat.add Format.binary64 (.finite s m e hm)
      (.finite .negative n e' hn))).unpack (.finite s m e hm) := by
  rw [UnpackedFloat.add]
  simp only
  refine normalize_below h he ?_
  have hfirst := decreaseExponent_eq m (min_le_left e e')
  have hsecond := decreaseExponent_eq n (min_le_right e e')
  have hpos : (0 : ℚ) ≤ n * 2 ^ e' := mul_nonneg n.cast_nonneg (step_pos e').le
  rw [Int.cast_add, add_mul, cast_apply, mul_assoc, hfirst, cast_apply .negative, mul_assoc, hsecond,
    cast_apply s m, mul_assoc]
  simp only [Sign.apply, Int.cast_neg, Int.cast_one]
  linarith

theorem below_self {u : UnpackedFloat} {x : Amount} (h : amountOf u = some x) : Below u u :=
  ⟨x, x, h, h, x.atMost_self⟩

/-- The doubles that are not above zero. -/
theorem atMost_zero_cases {u : UnpackedFloat} {y : Amount} (h : amountOf u = some y)
    (hy : y.atMost (.finite 0) = true) :
    (∃ s, u = .zero s) ∨ u = .infinity .negative ∨ ∃ n e hn, u = .finite .negative n e hn := by
  cases u with
  | notANumber => cases h
  | zero s => exact .inl ⟨s, rfl⟩
  | infinity s =>
    cases s with
    | negative => exact .inr (.inl rfl)
    | positive =>
      cases h
      cases hy
  | finite s n e hn =>
    cases s with
    | negative => exact .inr (.inr ⟨n, e, hn, rfl⟩)
    | positive =>
      cases h
      have hle := atMost_finite.1 hy
      have hpos : (0 : ℚ) < n * 2 ^ e := mul_pos (by exact_mod_cast hn) (step_pos e)
      rw [toRat_magnitude] at hle
      have hzero : (0 : Dyadic).toRat = 0 := rfl
      rw [hzero, Sign.apply, Int.cast_natCast] at hle
      linarith

/-- A double that is not above zero does not make another larger, unless both are infinite. -/
theorem sum_below {x t : Float} {a b : Amount} (hx : (Number.real x).amount? = some a)
    (ht : (Number.real t).amount? = some b) (hb : b.atMost (.finite 0) = true)
    (hab : ¬(a = .top ∧ b = .bottom)) : Below (x + t).toModel.unpack x.toModel.unpack := by
  have hsum : (x + t).toModel.unpack = (Float.Model.pack
      (UnpackedFloat.add Format.binary64 x.toModel.unpack t.toModel.unpack)).unpack := rfl
  have hxx := unpack_pack_toModel x
  have htt := unpack_pack_toModel t
  have hplace {s : Sign} {m : Nat} {e : Int} {hm : 0 < m} (h : x.toModel.unpack = .finite s m e hm) :
      InPlace m e ∧ e ≤ 971 := inPlace_of_unpack h
  rw [amount?_real] at hx ht
  rw [hsum]
  generalize x.toModel.unpack = u at *
  generalize t.toModel.unpack = v at *
  obtain ⟨s', rfl⟩ | rfl | ⟨n, e', hn, rfl⟩ := atMost_zero_cases ht hb
  · -- A zero leaves all but a zero as it is.
    have hsame : Below (Float.Model.pack u).unpack u := by
      rw [hxx]
      exact below_self hx
    cases u with
    | notANumber => cases hx
    | zero s => cases s <;> cases s' <;> exact hsame
    | infinity s => exact hsame
    | finite s m e hm => exact hsame
  · have hbottom : Below (.infinity .negative) u := ⟨.bottom, a, rfl, hx, rfl⟩
    cases ht
    cases u with
    | notANumber => cases hx
    | zero s => exact htt ▸ hbottom
    | finite s m e hm => exact htt ▸ hbottom
    | infinity s =>
      cases s with
      | negative => exact htt ▸ hbottom
      | positive =>
        cases hx
        exact absurd ⟨rfl, rfl⟩ hab
  · cases u with
    | notANumber => cases hx
    | infinity s =>
      show Below (Float.Model.pack (.infinity s)).unpack _
      rw [hxx]
      exact below_self hx
    | zero s =>
      show Below (Float.Model.pack (.finite .negative n e' hn)).unpack _
      rw [htt]
      exact ⟨_, _, ht, rfl, hb⟩
    | finite s m e hm =>
      obtain ⟨hin, hhigh⟩ := hplace rfl
      exact add_finite_below hin hhigh

theorem atLeast_iff {a b : Number} :
    a.atLeast b = true ↔ ∃ x y, a.amount? = some x ∧ b.amount? = some y ∧ y.atMost x = true := by
  rw [Number.atLeast]
  cases a.amount? with
  | none => simp
  | some x =>
    cases b.amount? with
    | none => simp
    | some y => simp

/-- A reading that is not before another is not before the other's sum with what is not above zero. -/
theorem atLeast_sum {x y t : Float} (hyx : (Number.real y).atLeast (.real x) = true)
    (ht : (Number.whole 0).atLeast (.real t) = true)
    (hxt : ¬((Number.real x).amount? = some .top ∧ (Number.real t).amount? = some .bottom)) :
    (Number.real y).atLeast (.real (x + t)) = true := by
  obtain ⟨c, a, hy, hx, hac⟩ := atLeast_iff.1 hyx
  obtain ⟨zero, b, hzero, ht', hb⟩ := atLeast_iff.1 ht
  obtain rfl : .finite 0 = zero := Option.some.inj hzero
  have hab : ¬(a = .top ∧ b = .bottom) := by
    rintro ⟨rfl, rfl⟩
    exact hxt ⟨hx, ht'⟩
  obtain ⟨d, a', hd, ha', hle⟩ := sum_below hx ht' hb hab
  rw [← amount?_real] at hd ha'
  obtain rfl : a = a' := Option.some.inj (hx.symm.trans ha')
  exact atLeast_iff.2 ⟨c, d, hy, hd, Amount.atMost_trans hle hac⟩

end Tripwire.Decimal
