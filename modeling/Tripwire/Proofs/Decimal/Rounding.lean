import Mathlib

/-!
# Rounding to doubles

A magnitude `m * 2 ^ e` is rounded in two steps: its bits are shifted to the place where fifty-three of
them are left, or to the lowest place there is, and the rest goes up or down to a neighbour. So rounding
does not pass a magnitude of fifty-three bits, whichever way it goes.
-/

namespace Tripwire.Decimal

open Float.Model Float.Model.UnpackedFloat

/-- That a whole number of steps of a size is next to a magnitude, and that the step is the largest that
leaves the magnitude fifty-three bits, or the smallest there is. -/
structure Rounds (v : ℚ) (r : Nat) (place : Int) : Prop where
  lowest : -1074 ≤ place
  below : v < (r + 1) * 2 ^ place
  above : r * 2 ^ place < v + 2 ^ place
  fills : place = -1074 ∨ 2 ^ (place + 52) ≤ v
  fits : v < 2 ^ (place + 53)

/-! ### Neighbours -/

theorem step_pos (place : Int) : (0 : ℚ) < 2 ^ place := zpow_pos (by norm_num) place

theorem steps_of_le {k : Nat} {e place : Int} (h : place ≤ e) :
    ∃ n : Nat, (k : ℚ) * 2 ^ e = n * 2 ^ place := by
  obtain ⟨d, hd⟩ := Int.le.dest h
  refine ⟨k * 2 ^ d, ?_⟩
  have hsplit : (2 : ℚ) ^ e = 2 ^ place * 2 ^ d := by
    rw [← hd, zpow_add₀ (by norm_num), zpow_natCast]
  rw [hsplit]
  push_cast
  ring

/-- A magnitude of fifty-three bits at a lower place is smaller than one that fills its place. -/
theorem lt_of_lower {k : Nat} {e place : Int} (hk : k < 2 ^ 53) (h : e < place) :
    (k : ℚ) * 2 ^ e < 2 ^ (place + 52) := by
  have hk' : (k : ℚ) < 2 ^ (53 : Int) := by exact_mod_cast hk
  have hlt : (k : ℚ) * 2 ^ e < 2 ^ (53 : Int) * 2 ^ e := mul_lt_mul_of_pos_right hk' (step_pos e)
  have hle : (2 : ℚ) ^ (53 + e) ≤ 2 ^ (place + 52) := zpow_le_zpow_right₀ (by norm_num) (by omega)
  rw [← zpow_add₀ (by norm_num)] at hlt
  exact lt_of_lt_of_le hlt hle

namespace Rounds

variable {v : ℚ} {r k : Nat} {place e : Int}

theorem steps_le_of_lt {a b : Nat} (place : Int) (h : (a : ℚ) * 2 ^ place < (b + 1) * 2 ^ place) : a ≤ b := by
  have hlt : (a : ℚ) < b + 1 := lt_of_mul_lt_mul_right h (step_pos place).le
  have hlt' : a < b + 1 := by exact_mod_cast hlt
  omega

/-- What is rounded up does not pass a magnitude of fifty-three bits. -/
theorem le_of_le (h : Rounds v r place) (hk : k < 2 ^ 53) (he : -1074 ≤ e) (hv : v ≤ k * 2 ^ e) :
    r * 2 ^ place ≤ (k : ℚ) * 2 ^ e := by
  have hplace : place ≤ e := by
    by_contra hlt
    obtain hlow | hfills := h.fills
    · omega
    · have := lt_of_lower hk (lt_of_not_ge hlt)
      linarith
  obtain ⟨n, hn⟩ := steps_of_le (k := k) hplace
  have habove := h.above
  rw [hn] at hv ⊢
  have hrn : r ≤ n := steps_le_of_lt place (by linarith)
  have hcast : (r : ℚ) ≤ n := by exact_mod_cast hrn
  exact mul_le_mul_of_nonneg_right hcast (step_pos place).le

theorem full (h : Rounds v r place) (hplace : -1074 < place) : 2 ^ 52 ≤ r := by
  obtain hlow | hfills := h.fills
  · omega
  · have hbelow := h.below
    have hsplit : (2 : ℚ) ^ (place + 52) = ((2 ^ 52 : Nat) : ℚ) * 2 ^ place := by
      rw [zpow_add₀ (by norm_num)]
      norm_num
      ring
    rw [hsplit] at hfills
    exact steps_le_of_lt place (by linarith)

theorem steps_le (h : Rounds v r place) : r ≤ 2 ^ 53 := by
  have habove := h.above
  have hfits := h.fits
  have hsplit : (2 : ℚ) ^ (place + 53) = ((2 ^ 53 : Nat) : ℚ) * 2 ^ place := by
    rw [zpow_add₀ (by norm_num)]
    norm_num
    ring
  rw [hsplit] at hfits
  exact steps_le_of_lt place (by linarith)

/-- What is rounded down does not pass a magnitude of fifty-three bits. -/
theorem ge_of_ge (h : Rounds v r place) (hk : k < 2 ^ 53) (he : -1074 ≤ e) (hv : k * 2 ^ e ≤ v) :
    (k : ℚ) * 2 ^ e ≤ r * 2 ^ place := by
  by_cases hplace : place ≤ e
  · have hbelow := h.below
    obtain ⟨n, hn⟩ := steps_of_le (k := k) hplace
    rw [hn] at hv ⊢
    have hnr : n ≤ r := steps_le_of_lt place (by linarith)
    have hcast : (n : ℚ) ≤ r := by exact_mod_cast hnr
    exact mul_le_mul_of_nonneg_right hcast (step_pos place).le
  · have hlower := lt_of_lower hk (lt_of_not_ge hplace)
    have hfull : (2 : ℚ) ^ (52 : Int) ≤ r := by exact_mod_cast h.full (by omega)
    have hle := mul_le_mul_of_nonneg_right hfull (step_pos place).le
    rw [← zpow_add₀ (by norm_num), add_comm] at hle
    exact (lt_of_lt_of_le hlower hle).le

end Rounds

/-! ### Shifts -/

/-- A shift drops bits, and what it keeps of them tells whether all of them were zero. -/
theorem shift_bits (m n : Nat) :
    ((⟨m, false, false⟩ : ExtendedMantissa) >>> n).mantissa = m / 2 ^ n ∧
      (m % 2 ^ n = 0 → (⟨m, false, false⟩ : ExtendedMantissa) >>> n = ⟨m / 2 ^ n, false, false⟩) := by
  induction n with
  | zero => exact ⟨(Nat.div_one m).symm, fun _ => by rw [Nat.pow_zero, Nat.div_one]; rfl⟩
  | succ n ih =>
    obtain ⟨hmantissa, hexact⟩ := ih
    have hnext : (⟨m, false, false⟩ : ExtendedMantissa) >>> (n + 1) =
        ((⟨m, false, false⟩ : ExtendedMantissa) >>> n).shiftRightOne := rfl
    have hdiv : m / 2 ^ n / 2 = m / 2 ^ (n + 1) := by rw [Nat.div_div_eq_div_mul, Nat.pow_succ]
    rw [hnext]
    constructor
    · rw [← hdiv, ← hmantissa]
      rfl
    · intro hzero
      have hsplit : m % 2 ^ (n + 1) = m % 2 ^ n + 2 ^ n * (m / 2 ^ n % 2) := Nat.mod_pow_succ
      have hlow : m % 2 ^ n = 0 := by omega
      have hbit : m / 2 ^ n % 2 = 0 := by
        have hpos := Nat.two_pow_pos n
        by_contra hne
        have : 2 ^ n * (m / 2 ^ n % 2) ≠ 0 := Nat.mul_ne_zero hpos.ne' hne
        omega
      rw [hexact hlow, ExtendedMantissa.shiftRightOne]
      simp [hdiv, hbit]

theorem roundedMantissa_bounds (em : ExtendedMantissa) :
    em.mantissa ≤ em.roundedMantissa ∧ em.roundedMantissa ≤ em.mantissa + 1 := by
  obtain ⟨m, roundBit, stickyBit⟩ := em
  have hmod : m % 2 < 2 := Nat.mod_lt m (by decide)
  cases roundBit <;> cases stickyBit <;>
    simp [ExtendedMantissa.roundedMantissa, ExtendedMantissa.accuracy, Accuracy.roundToNearestEven]
  omega

/-- A shifted and rounded mantissa is next to the one before the shift. -/
theorem roundedMantissa_shift (m n : Nat) :
    let r := ((⟨m, false, false⟩ : ExtendedMantissa) >>> n).roundedMantissa
    m < (r + 1) * 2 ^ n ∧ r * 2 ^ n < m + 2 ^ n := by
  intro r
  obtain ⟨hmantissa, hexact⟩ := shift_bits m n
  obtain ⟨hle, hge⟩ := roundedMantissa_bounds ((⟨m, false, false⟩ : ExtendedMantissa) >>> n)
  rw [hmantissa] at hle hge
  have hdiv : m / 2 ^ n * 2 ^ n + m % 2 ^ n = m := Nat.div_add_mod' m (2 ^ n)
  have hmod : m % 2 ^ n < 2 ^ n := Nat.mod_lt m (Nat.two_pow_pos n)
  have hlow : m / 2 ^ n * 2 ^ n ≤ r * 2 ^ n := Nat.mul_le_mul_right _ hle
  constructor
  · rw [Nat.add_mul, Nat.one_mul]
    omega
  · by_cases hzero : m % 2 ^ n = 0
    · have hr : r = m / 2 ^ n := by
        show ExtendedMantissa.roundedMantissa _ = _
        rw [hexact hzero]
        rfl
      rw [hr]
      omega
    · have hhigh : r * 2 ^ n ≤ (m / 2 ^ n + 1) * 2 ^ n := Nat.mul_le_mul_right _ hge
      rw [Nat.add_mul, Nat.one_mul] at hhigh
      omega

/-! ### Rounding -/

/-- The place to which the bits of a magnitude are shifted. -/
def placeOf (m : Nat) (e : Int) : Int := Format.binary64.targetExponent (totalExponent m e)

theorem placeOf_eq (m : Nat) (e : Int) : placeOf m e = max (m.log2 + e - 52) (-1074) := by
  have hmin : Format.binary64.minExponent = -1074 := rfl
  have hbits : (Format.binary64.mantissaBits : Int) = 53 := rfl
  rw [placeOf, Format.targetExponent, totalExponent, hmin, hbits]
  omega

/-- A magnitude of so many steps at a place; one step too many makes half as many at the next place. -/
def ofSteps (s : Sign) (r : Nat) (place : Int) : UnpackedFloat :=
  if h : r = 0 then .zero s
  else if r < 2 ^ 53 then .finite s r place (Nat.pos_of_ne_zero h)
  else .finite s (2 ^ 52) (place + 1) (by decide)

/-- After the rounding there is nothing left to drop but one bit that came on top. -/
theorem shift_steps {r : Nat} {place : Int} (hr : r ≤ 2 ^ 53) (hplace : -1074 ≤ place) :
    shiftToTargetExponent Format.binary64 r place .exact =
      if r < 2 ^ 53 then (⟨r, false, false⟩, place) else (⟨2 ^ 52, false, false⟩, place + 1) := by
  have hshift : shiftToTargetExponent Format.binary64 r place .exact =
      ((⟨r, false, false⟩ : ExtendedMantissa) >>> (placeOf r place - place).toNat,
        place + (placeOf r place - place).toNat) := rfl
  rw [hshift, placeOf_eq]
  by_cases hlt : r < 2 ^ 53
  · have hlog : r.log2 ≤ 52 := by
      by_cases hzero : r = 0
      · simp [hzero]
      · have := (Nat.log2_lt hzero).2 hlt
        omega
    have hnone : (max ((r.log2 : Int) + place - 52) (-1074) - place).toNat = 0 := by omega
    rw [if_pos hlt, hnone]
    simp [HShiftRight.hShiftRight, Nat.repeat]
  · obtain rfl : r = 2 ^ 53 := by omega
    have hlog : (2 ^ 53 : Nat).log2 = 53 := Nat.log2_two_pow
    have hone : (max (((2 ^ 53 : Nat).log2 : Int) + place - 52) (-1074) - place).toNat = 1 := by
      omega
    rw [if_neg hlt, hone]
    rfl

theorem two_zpow_add_toNat {a b : Int} (h : a ≤ b) :
    (2 : ℚ) ^ b = 2 ^ (b - a).toNat * 2 ^ a := by
  have hsum : ((b - a).toNat : Int) + a = b := by omega
  rw [← zpow_natCast, ← zpow_add₀ (by norm_num), hsum]

/-- The bits of a magnitude that are shifted and rounded make steps next to it. -/
theorem rounds_of_shift {m : Nat} {e place : Int} (he : e ≤ place) (hlow : -1074 ≤ place)
    (hfills : place = -1074 ∨ 2 ^ (place + 52) ≤ (m : ℚ) * 2 ^ e)
    (hfits : (m : ℚ) * 2 ^ e < 2 ^ (place + 53)) :
    Rounds (m * 2 ^ e)
      ((⟨m, false, false⟩ : ExtendedMantissa) >>> (place - e).toNat).roundedMantissa place := by
  obtain ⟨hbelow, habove⟩ := roundedMantissa_shift m (place - e).toNat
  generalize ((⟨m, false, false⟩ : ExtendedMantissa) >>> (place - e).toNat).roundedMantissa = r at *
  have hbelow' : (m : ℚ) < (r + 1) * 2 ^ (place - e).toNat := by exact_mod_cast hbelow
  have habove' : (r : ℚ) * 2 ^ (place - e).toNat < m + 2 ^ (place - e).toNat := by
    exact_mod_cast habove
  have hpos := step_pos e
  refine ⟨hlow, ?_, ?_, hfills, hfits⟩
  · rw [two_zpow_add_toNat he, ← mul_assoc]
    exact mul_lt_mul_of_pos_right hbelow' hpos
  · rw [two_zpow_add_toNat he, ← mul_assoc, ← add_mul]
    exact mul_lt_mul_of_pos_right habove' hpos

theorem two_zpow_log2_le {m : Nat} (hm : 0 < m) (e : Int) :
    (2 : ℚ) ^ ((m.log2 : Int) + e) ≤ m * 2 ^ e := by
  have hle : ((2 ^ m.log2 : Nat) : ℚ) ≤ m := by exact_mod_cast Nat.log2_self_le hm.ne'
  rw [zpow_add₀ (by norm_num), zpow_natCast]
  push_cast at hle
  exact mul_le_mul_of_nonneg_right hle (step_pos e).le

theorem lt_two_zpow_log2 (m : Nat) (e : Int) : (m : ℚ) * 2 ^ e < 2 ^ ((m.log2 : Int) + 1 + e) := by
  have hlt : (m : ℚ) < ((2 ^ (m.log2 + 1) : Nat) : ℚ) := by exact_mod_cast Nat.lt_log2_self
  have hcast : (2 : ℚ) ^ ((m.log2 : Int) + 1) = ((2 ^ (m.log2 + 1) : Nat) : ℚ) := by
    push_cast
    exact_mod_cast zpow_natCast (2 : ℚ) (m.log2 + 1)
  rw [zpow_add₀ (by norm_num), hcast]
  exact mul_lt_mul_of_pos_right hlt (step_pos e)

theorem log2_mul_two_pow {m : Nat} (hm : 0 < m) (d : Nat) : (m * 2 ^ d).log2 = m.log2 + d := by
  have hpos := Nat.two_pow_pos d
  refine (Nat.log2_eq_iff (Nat.mul_pos hm hpos).ne').2 ⟨?_, ?_⟩
  · rw [Nat.pow_add]
    exact Nat.mul_le_mul_right _ (Nat.log2_self_le hm.ne')
  · rw [Nat.add_right_comm, Nat.pow_add]
    exact Nat.mul_lt_mul_of_pos_right Nat.lt_log2_self hpos

/-- To round a magnitude is to take steps next to it. -/
theorem round_eq (s : Sign) {m : Nat} (hm : 0 < m) (e : Int) :
    ∃ r place, Rounds (m * 2 ^ e) r place ∧ round Format.binary64 s m e = ofSteps s r place := by
  have hplace := placeOf_eq m e
  -- A magnitude of few bits is first written with more of them, which are zero.
  let d := (e - placeOf m e).toNat
  have hlog : (m * 2 ^ d).log2 = m.log2 + d := log2_mul_two_pow hm d
  have hkeep : placeOf (m * 2 ^ d) (e - d) = placeOf m e := by
    rw [placeOf_eq, hplace, hlog]
    push_cast
    omega
  have hvalue : ((m * 2 ^ d : Nat) : ℚ) * 2 ^ (e - d) = m * 2 ^ e := by
    have hback : (e - (e - d)).toNat = d := by omega
    rw [two_zpow_add_toNat (show e - d ≤ e by omega), hback]
    push_cast
    ring
  have hfills : placeOf m e = -1074 ∨ 2 ^ (placeOf m e + 52) ≤ (m : ℚ) * 2 ^ e := by
    by_cases hlow : placeOf m e = -1074
    · exact .inl hlow
    · have hsum : placeOf m e + 52 = m.log2 + e := by omega
      rw [hsum]
      exact .inr (two_zpow_log2_le hm e)
  have hfits : (m : ℚ) * 2 ^ e < 2 ^ (placeOf m e + 53) := by
    have hle : (m.log2 : Int) + 1 + e ≤ placeOf m e + 53 := by omega
    exact lt_of_lt_of_le (lt_two_zpow_log2 m e) (zpow_le_zpow_right₀ (by norm_num) hle)
  rw [← hvalue] at hfills hfits
  have hrounds := rounds_of_shift (show e - d ≤ placeOf m e by omega) (by omega) hfills hfits
  rw [hvalue] at hrounds
  refine ⟨_, _, hrounds, ?_⟩
  have hfirst : shiftToTargetExponent Format.binary64 (m * 2 ^ d) (e - d) .exact =
      ((⟨m * 2 ^ d, false, false⟩ : ExtendedMantissa) >>> (placeOf m e - (e - d)).toNat,
        placeOf m e) := by
    have hshift : shiftToTargetExponent Format.binary64 (m * 2 ^ d) (e - d) .exact =
        ((⟨m * 2 ^ d, false, false⟩ : ExtendedMantissa) >>>
          (placeOf (m * 2 ^ d) (e - d) - (e - d)).toNat,
          e - d + (placeOf (m * 2 ^ d) (e - d) - (e - d)).toNat) := rfl
    rw [hshift, hkeep]
    congr 1
    omega
  have hround : round Format.binary64 s m e =
      roundWithAccuracy Format.binary64 s (m * 2 ^ d) (e - d) .exact := by
    rw [← Nat.shiftLeft_eq]
    rfl
  rw [hround, roundWithAccuracy, hfirst]
  simp only
  rw [shift_steps hrounds.steps_le (by omega), ofSteps]
  generalize ((⟨m * 2 ^ d, false, false⟩ : ExtendedMantissa) >>>
    (placeOf m e - (e - d)).toNat).roundedMantissa = r
  by_cases hlt : r < 2 ^ 53
  · simp only [if_pos hlt]
  · have hne : r ≠ 0 := by omega
    simp only [if_neg hlt, dif_neg hne]
    rfl

end Tripwire.Decimal
