import Tripwire.Decimal.Number
import Tripwire.Proofs.Decimal.Rounding

/-!
# Packed doubles

The bits of a double are those of its sign, its exponent and its mantissa. The amount of a double is
read off these parts, and a magnitude of fifty-three bits keeps its size when it is packed, unless it is
too large for a double.
-/

namespace Tripwire.Decimal

open Float.Model Float.Model.UnpackedFloat

/-! ### Bits and parts -/

/-- The parts that a sign, an exponent and a mantissa stand for. -/
def partsOf (s : Sign) (e : BitVec 11) (m : BitVec 52) : UnpackedFloat :=
  if e = -1#11 then
    if m = 0#52 then .infinity s else .notANumber
  else if e = 0#11 then
    if h : m = 0#52 then .zero s
    else .finite s m.toNat (-1074) (by simpa [BitVec.toNat_pos, BitVec.pos_iff_ne_zero])
  else .finite s (2 ^ 52 + m.toNat) (e.toNat - 1075) (by omega)

theorem toNat_append_one (m : BitVec 52) : (1#1 ++ m).toNat = 2 ^ 52 + m.toNat := by
  rw [BitVec.toNat_append]
  show 2 ^ 52 ||| m.toNat = _
  rw [Nat.or_comm, Nat.or_two_pow_eq_add_of_lt m.isLt, Nat.add_comm]

theorem unpack_eq (b : BitVec Format.binary64.numBits) :
    UnpackedFloat.unpack Format.binary64 b =
      partsOf (Sign.ofBitVec (unpackSign b)) (unpackExponent b) (unpackMantissa b) := by
  have hbias : (Format.binary64.exponentBias : Int) +
      (Format.binary64.mantissaBitsWithoutImplicit : Nat) = 1075 := rfl
  have hlow (he : unpackExponent b = 0#11) : ((unpackExponent b).toNat : Int) - 1075 + 1 = -1074 := by
    rw [he]
    rfl
  rw [UnpackedFloat.unpack, partsOf, hbias]
  by_cases hmax : unpackExponent b = -1#11
  · simp only [if_pos hmax]
  · by_cases hmin : unpackExponent b = 0#11
    · simp only [if_neg hmax, if_pos hmin, hlow hmin]
    · simp only [if_neg hmax, if_neg hmin, toNat_append_one]

theorem unpack_packComponents (s : Sign) (e : BitVec 11) (m : BitVec 52) :
    UnpackedFloat.unpack Format.binary64 (packComponents Format.binary64 s e m) = partsOf s e m := by
  rw [unpack_eq, unpackSign_packComponents, Sign.ofBitVec_toBitVec, unpackExponent_packComponents,
    unpackMantissa_packComponents]

/-! ### Amounts of doubles -/

def amountOf : UnpackedFloat → Option Amount
  | .notANumber => none
  | .infinity .negative => some .bottom
  | .infinity .positive => some .top
  | .zero _ => some (.finite 0)
  | .finite s m e _ => some (.finite (.ofIntWithPrec (s.apply m) (-e)))

theorem atMost_finite {a b : Dyadic} :
    (Amount.finite a).atMost (.finite b) = true ↔ a.toRat ≤ b.toRat := by
  rw [Dyadic.toRat_le_toRat_iff, Amount.atMost, decide_eq_true_iff]

theorem toRat_magnitude (i e : Int) : (Dyadic.ofIntWithPrec i (-e)).toRat = i * 2 ^ e := by
  rw [Dyadic.toRat_ofIntWithPrec_eq_mul_two_pow, neg_neg]

theorem amountOf_finite (s : Sign) {m : Nat} (e : Int) (hm : 0 < m) :
    ∃ d : Dyadic, amountOf (.finite s m e hm) = some (.finite d) ∧
      d.toRat = s.apply m * 2 ^ e := ⟨_, rfl, toRat_magnitude _ _⟩

theorem toNat_unpackMantissa (b : BitVec Format.binary64.numBits) :
    (unpackMantissa b).toNat = b.toNat % 2 ^ 52 := by
  simp [unpackMantissa]

theorem toNat_unpackExponent (b : BitVec Format.binary64.numBits) :
    (unpackExponent b).toNat = b.toNat / 2 ^ 52 % 2 ^ 11 := by
  simp [unpackExponent, Nat.shiftRight_eq_div_pow]

theorem toNat_unpackSign (b : BitVec Format.binary64.numBits) :
    (unpackSign b).toNat = b.toNat / 2 ^ 63 := by
  have hlt : b.toNat < 2 ^ 64 := b.isLt
  have hbit : (unpackSign b).toNat = b.toNat / 2 ^ 63 % 2 := by
    simp [unpackSign, Nat.shiftRight_eq_div_pow]
  omega

theorem ofBitVec_unpackSign (b : BitVec Format.binary64.numBits) :
    Sign.ofBitVec (unpackSign b) = if b.toNat / 2 ^ 63 == 1 then .negative else .positive := by
  have hsign := toNat_unpackSign b
  have hlt := (unpackSign b).isLt
  have hiff : unpackSign b = 0#1 ↔ b.toNat / 2 ^ 63 = 0 := by
    rw [← hsign, ← BitVec.toNat_inj]
    rfl
  rw [hsign] at hlt
  simp only [Sign.ofBitVec, hiff]
  generalize b.toNat / 2 ^ 63 = n at hlt ⊢
  obtain rfl | rfl : n = 0 ∨ n = 1 := by omega
  · rfl
  · rfl

theorem amount?_ofBits (b : BitVec Format.binary64.numBits) :
    (Double.ofBits b.toNat).amount? = amountOf (UnpackedFloat.unpack Format.binary64 b) := by
  have hmantissa := toNat_unpackMantissa b
  have hexponent := toNat_unpackExponent b
  have hmax : unpackExponent b = -1#11 ↔ b.toNat / 2 ^ 52 % 2 ^ 11 = 2047 := by
    rw [← hexponent, ← BitVec.toNat_inj]
    rfl
  have hmin : unpackExponent b = 0#11 ↔ b.toNat / 2 ^ 52 % 2 ^ 11 = 0 := by
    rw [← hexponent, ← BitVec.toNat_inj]
    rfl
  have hzero : unpackMantissa b = 0#52 ↔ b.toNat % 2 ^ 52 = 0 := by
    rw [← hmantissa, ← BitVec.toNat_inj]
    rfl
  rw [unpack_eq, partsOf, ofBitVec_unpackSign, Double.ofBits]
  simp only [hmax, hmin, hzero, hmantissa, hexponent, Nat.pow_eq]
  generalize (b.toNat / 2 ^ 63 == 1) = negative
  have hsign (m : Nat) : (if negative then Sign.negative else .positive).apply m =
      if negative then -(m : Int) else m := by
    cases negative <;> rfl
  split
  · split
    · cases negative <;> rfl
    · rfl
  · split
    · by_cases hnone : b.toNat % 2 ^ 52 = 0
      · simp only [hnone]
        cases negative <;> rfl
      · simp only [dif_neg hnone, Double.amount?, amountOf, hsign]
    · simp only [Double.amount?, amountOf, hsign]

/-- The amount of a double is that of its parts. -/
theorem amount?_real (x : Float) : (Number.real x).amount? = amountOf x.toModel.unpack :=
  amount?_ofBits x.toModel.toBits.toBitVec

/-! ### Magnitudes in place -/

/-- That a magnitude has the place of a double of its size, which may be too large for doubles. -/
structure InPlace (m : Nat) (e : Int) : Prop where
  lowest : -1074 ≤ e
  short : m < 2 ^ 53
  full : 2 ^ 52 ≤ m ∨ e = -1074

theorem inPlace_of_unpack {b : BitVec Format.binary64.numBits} {s : Sign} {m : Nat} {e : Int}
    {hm : 0 < m} (h : UnpackedFloat.unpack Format.binary64 b = .finite s m e hm) :
    InPlace m e ∧ e ≤ 971 := by
  rw [unpack_eq, partsOf] at h
  generalize unpackExponent b = field at h
  have hfield : field.toNat < 2 ^ 11 := field.isLt
  have hmantissa : (unpackMantissa b).toNat < 2 ^ 52 := (unpackMantissa b).isLt
  by_cases hmax : field = -1#11
  · rw [if_pos hmax] at h
    split at h
    · cases h
    · cases h
  · rw [if_neg hmax] at h
    have hmax' : field.toNat ≠ 2047 := fun heq => hmax (BitVec.eq_of_toNat_eq heq)
    by_cases hmin : field = 0#11
    · rw [if_pos hmin] at h
      split at h
      · cases h
      · cases h
        exact ⟨⟨by omega, by omega, .inr rfl⟩, by omega⟩
    · rw [if_neg hmin] at h
      have hmin' : field.toNat ≠ 0 := fun heq => hmin (BitVec.eq_of_toNat_eq heq)
      cases h
      exact ⟨⟨by omega, by omega, .inl (by omega)⟩, by omega⟩

theorem partsOf_normal {s : Sign} {m : Nat} {e : Int} {hm : 0 < m} (hfull : 2 ^ 52 ≤ m)
    (hshort : m < 2 ^ 53) (hlow : -1074 ≤ e) (hhigh : e ≤ 971) :
    partsOf s (BitVec.ofNat 11 (e + 1075).toNat) (BitVec.ofNat 52 m) = .finite s m e hm := by
  have hfield : (BitVec.ofNat 11 (e + 1075).toNat).toNat = (e + 1075).toNat := by
    rw [BitVec.toNat_ofNat]
    exact Nat.mod_eq_of_lt (by omega)
  have hmantissa : 2 ^ 52 + (BitVec.ofNat 52 m).toNat = m := by
    rw [BitVec.toNat_ofNat]
    omega
  have hmax : BitVec.ofNat 11 (e + 1075).toNat ≠ -1#11 := by
    intro heq
    have hall : (BitVec.ofNat 11 (e + 1075).toNat).toNat = 2047 := by rw [heq]; rfl
    omega
  have hmin : BitVec.ofNat 11 (e + 1075).toNat ≠ 0#11 := by
    intro heq
    have hnone : (BitVec.ofNat 11 (e + 1075).toNat).toNat = 0 := by rw [heq]; rfl
    omega
  have hback : ((e + 1075).toNat : Int) - 1075 = e := by omega
  rw [partsOf, if_neg hmax, if_neg hmin]
  simp only [hmantissa, hfield, hback]

theorem partsOf_subnormal {s : Sign} {m : Nat} {hm : 0 < m} (h : m < 2 ^ 52) :
    partsOf s 0#11 (BitVec.ofNat 52 m) = .finite s m (-1074) hm := by
  have hmantissa : (BitVec.ofNat 52 m).toNat = m := by
    rw [BitVec.toNat_ofNat]
    exact Nat.mod_eq_of_lt h
  have hsome : BitVec.ofNat 52 m ≠ 0#52 := by
    intro heq
    have hnone : (BitVec.ofNat 52 m).toNat = 0 := by rw [heq]; rfl
    omega
  rw [partsOf, if_neg (by decide), if_pos rfl, dif_neg hsome]
  simp only [hmantissa]

/-- A magnitude in place is packed as it is, or as infinity when it is too large. -/
theorem unpack_pack_finite {s : Sign} {m : Nat} {e : Int} (hm : 0 < m) (h : InPlace m e) :
    (Float.Model.pack (.finite s m e hm)).unpack =
      if e ≤ 971 then .finite s m e hm else .infinity s := by
  obtain ⟨hlowest, hshort, hfull⟩ := h
  have hbias : (e + (Format.binary64.exponentBias : Nat) +
      (Format.binary64.mantissaBitsWithoutImplicit : Nat)).toNat = (e + 1075).toNat := by
    have : (Format.binary64.exponentBias : Int) = 1023 := rfl
    have : (Format.binary64.mantissaBitsWithoutImplicit : Int) = 52 := rfl
    omega
  have hmany : 2 ^ Format.binary64.exponentBits ≤ (e + 1075).toNat + 1 ↔ ¬e ≤ 971 := by
    show 2 ^ 11 ≤ (e + 1075).toNat + 1 ↔ _
    omega
  have hbits : m.log2 + 1 = Format.binary64.mantissaBits ↔ 2 ^ 52 ≤ m := by
    have : Format.binary64.mantissaBits = 53 := rfl
    have := Nat.log2_eq_iff (k := 52) hm.ne'
    omega
  show UnpackedFloat.unpack Format.binary64 (UnpackedFloat.pack Format.binary64 _) = _
  rw [UnpackedFloat.pack]
  simp only [hbias, hmany, hbits]
  by_cases hhigh : e ≤ 971
  · rw [if_neg (not_not.2 hhigh), if_pos hhigh]
    by_cases hnormal : 2 ^ 52 ≤ m
    · rw [if_pos hnormal]
      exact (unpack_packComponents _ _ _).trans (partsOf_normal hnormal hshort hlowest hhigh)
    · obtain rfl : e = -1074 := hfull.resolve_left hnormal
      rw [if_neg hnormal]
      exact (unpack_packComponents _ _ _).trans (partsOf_subnormal (by omega))
  · rw [if_pos hhigh, if_neg hhigh]
    exact unpack_packComponents _ _ _

theorem unpack_pack_zero (s : Sign) : (Float.Model.pack (.zero s)).unpack = .zero s :=
  unpack_packedZero

/-- A double is left as it is when it is packed again. -/
theorem unpack_pack_toModel (x : Float) :
    (Float.Model.pack x.toModel.unpack).unpack = x.toModel.unpack := by
  have hbits := pack_unpack_of_valid x.toModel.valid
  exact congrArg (UnpackedFloat.unpack Format.binary64) hbits

end Tripwire.Decimal
