import Tripwire.Proofs.Decimal.Packed
import Tripwire.Value.Number

/-!
# Texts that are read as no number

A double that is "not a number" compares with nothing. Digits and exponents never give it: whatever they
say, the nearest double is a number or infinite. It is read only from the word for it.
-/

namespace Tripwire.Decimal

open Float.Model Float.Model.UnpackedFloat

/-! ### Operations that give a number -/

theorem isNaN_partsOf (s : Sign) {e : BitVec 11} (h : e ≠ -1#11) (m : BitVec 52) :
    (partsOf s e m).isNaN = false := by
  rw [partsOf, if_neg h]
  split
  · split <;> rfl
  · rfl

/-- Only "not a number" is packed as such. -/
theorem isNaN_unpack_pack (u : UnpackedFloat) : (Float.Model.pack u).unpack.isNaN = u.isNaN := by
  show (UnpackedFloat.unpack Format.binary64 (UnpackedFloat.pack Format.binary64 u)).isNaN = _
  cases u with
  | notANumber => rfl
  | infinity s => cases s <;> rfl
  | zero s => cases s <;> rfl
  | finite s m e hm =>
    rw [UnpackedFloat.pack]
    dsimp only
    split
    · cases s <;> rfl
    · rename_i hsmall
      split
      · rw [unpack_packComponents]
        refine isNaN_partsOf s (fun heq => ?_) _
        have hall := congrArg BitVec.toNat heq
        have hmax : (-1#11).toNat = 2047 := rfl
        have hmod := Nat.mod_eq_of_lt (Nat.lt_of_succ_lt (Nat.lt_of_not_le hsmall))
        rw [BitVec.toNat_ofNat, hmod, hmax] at hall
        omega
      · rw [unpack_packComponents]
        exact isNaN_partsOf s (by decide) _

theorem isNaN_neg (x : Float) : (-x).isNaN = x.isNaN := by
  show (Float.Model.pack x.toModel.unpack.neg).unpack.isNaN = x.toModel.unpack.isNaN
  rw [isNaN_unpack_pack]
  cases x.toModel.unpack <;> rfl

theorem isNaN_roundWithAccuracy (f : Format) (s : Sign) (m : Nat) (e : Int) (a : Accuracy) :
    (roundWithAccuracy f s m e a).isNaN = false := by
  unfold roundWithAccuracy
  dsimp only
  split <;> rfl

/-- Finite and not zero. -/
def isMagnitude : UnpackedFloat → Bool
  | .finite _ _ _ _ => true
  | _ => false

/-- A magnitude that something is multiplied with or divided by makes it no more and no less a number. -/
theorem isNaN_op_magnitude {u v : UnpackedFloat} {op : UnpackedFloat → UnpackedFloat → UnpackedFloat}
    (f : Format) (hop : op = UnpackedFloat.mul f ∨ op = UnpackedFloat.div f)
    (hv : isMagnitude v = true) : (op u v).isNaN = u.isNaN := by
  cases v with
  | finite s m e hm =>
    cases u with
    | finite _ _ _ _ => rcases hop with rfl | rfl <;> exact isNaN_roundWithAccuracy ..
    | _ => rcases hop with rfl | rfl <;> rfl
  | _ => cases hv

theorem isNaN_normalize (f : Format) (i e : Int) (s : Sign) :
    (UnpackedFloat.normalize f i e s).isNaN = false := by
  unfold UnpackedFloat.normalize
  split
  · exact isNaN_roundWithAccuracy ..
  · rfl
  · exact isNaN_roundWithAccuracy ..

theorem isNaN_scaled (f : Format) (m : Nat) (e : Int) :
    (UnpackedFloat.ofScientific f m e).isNaN = false := by
  unfold UnpackedFloat.ofScientific
  split
  · rfl
  · split
    · rfl
    · split
      · rfl
      · split
        · exact isNaN_op_magnitude f (.inl rfl) rfl
        · exact isNaN_op_magnitude f (.inr rfl) rfl

theorem powersOfTen_magnitude :
    ∀ x ∈ Float.exactlyRepresentablePowersOfTen.toList, isMagnitude x.toModel.unpack = true := by
  decide

theorem isNaN_ofScientific (m : Nat) (down : Bool) (e : Nat) :
    (Float.ofScientific m down e).isNaN = false := by
  have hdigits : m.toUInt64.toFloat.toModel.unpack.isNaN = false :=
    (isNaN_unpack_pack _).trans (isNaN_normalize ..)
  unfold Float.ofScientific
  split
  · rename_i h
    have hpower := powersOfTen_magnitude _
      (Array.getElem_mem_toList (show e < Float.exactlyRepresentablePowersOfTen.size from
        Nat.lt_succ_of_le h.2))
    dsimp only
    split
    · exact (isNaN_unpack_pack _).trans ((isNaN_op_magnitude _ (.inr rfl) hpower).trans hdigits)
    · exact (isNaN_unpack_pack _).trans ((isNaN_op_magnitude _ (.inl rfl) hpower).trans hdigits)
  · exact (isNaN_unpack_pack _).trans (isNaN_scaled ..)

theorem isNaN_nearestDouble (digits : Nat) (exponent : Int) :
    (nearestDouble digits exponent).isNaN = false := by
  unfold nearestDouble
  dsimp only
  split
  · rfl
  · split
    · rfl
    · split
      · rfl
      · split
        · exact isNaN_ofScientific ..
        · exact isNaN_ofScientific ..

theorem isNaN_wholeToDouble? {n : Int} {x : Float} (h : wholeToDouble? n = some x) :
    x.isNaN = false := by
  have hfinite {y : Float} (hy : y.isFinite = true) : y.isNaN = false := by
    show y.toModel.unpack.isNaN = false
    have hy' : y.toModel.unpack.isFinite = true := hy
    cases hu : y.toModel.unpack with
    | notANumber =>
      rw [hu] at hy'
      cases hy'
    | _ => rfl
  unfold wholeToDouble? at h
  dsimp only at h
  split at h
  · rename_i hx
    split at h
    · cases h
      rw [isNaN_neg, hfinite hx]
    · cases h
      exact hfinite hx
  · cases h

/-! ### Texts -/

/-- That characters are the word for "not a number", in any letter case and perhaps with a sign. -/
def SpellsNaN (cs : List Char) : Prop := (takeSign cs).2.map Char.toLower = ['n', 'a', 'n']

instance (cs : List Char) : Decidable (SpellsNaN cs) :=
  inferInstanceAs (Decidable ((takeSign cs).2.map Char.toLower = ['n', 'a', 'n']))

theorem isNaN_specialReal? {cs : List Char} {x : Float} (h : specialReal? cs = some x) :
    x.isNaN = true ↔ cs.map Char.toLower = ['n', 'a', 'n'] := by
  unfold specialReal? at h
  dsimp only at h
  split at h
  · rename_i hword
    cases h
    constructor
    · intro hnan
      exact absurd hnan (by decide)
    · intro hcs
      rw [hcs] at hword
      exact absurd hword (by decide)
  · split at h
    · rename_i hword
      cases h
      refine ⟨fun _ => ?_, fun _ => by decide⟩
      have hchars := congrArg String.toList hword
      rw [String.toList_ofList] at hchars
      exact hchars
    · cases h

theorem dropLowLines?_sublist {prev : Char} {cs plain : List Char}
    (h : dropLowLines? prev cs = some plain) : plain.Sublist cs := by
  induction cs generalizing prev plain with
  | nil =>
    cases h
    exact List.Sublist.refl []
  | cons c rest ih =>
    by_cases hc : c = '_'
    · subst hc
      cases rest with
      | nil => cases h
      | cons next rest =>
        rw [dropLowLines?] at h
        split at h
        · exact (ih h).cons '_'
        · cases h
    · rw [dropLowLines?] at h
      · obtain ⟨tail, htail, rfl⟩ := Option.map_eq_some_iff.1 h
        exact (ih htail).cons_cons c
      · exact hc

/-- Low lines are dropped from between digits only, and the digits are left. -/
theorem dropLowLines?_eq_self {prev : Char} {cs plain : List Char}
    (h : dropLowLines? prev cs = some plain) (hprev : isAsciiDigit prev = false)
    (hplain : ∀ c ∈ plain, isAsciiDigit c = false) : plain = cs := by
  induction cs generalizing prev plain with
  | nil =>
    cases h
    rfl
  | cons c rest ih =>
    by_cases hc : c = '_'
    · subst hc
      cases rest with
      | nil => cases h
      | cons next rest =>
        rw [dropLowLines?, hprev] at h
        cases h
    · rw [dropLowLines?] at h
      · obtain ⟨tail, htail, rfl⟩ := Option.map_eq_some_iff.1 h
        obtain ⟨hfirst, hrest⟩ := List.forall_mem_cons.1 hplain
        rw [ih htail hfirst hrest]
      · exact hc

theorem toLower_of_isAsciiDigit {c : Char} (h : isAsciiDigit c = true) : c.toLower = c := by
  obtain ⟨-, hle⟩ := Bool.and_eq_true_iff.1 h
  have hnine : c.val.toNat ≤ 57 := UInt32.le_iff_toNat_le.1 (of_decide_eq_true hle)
  unfold Char.toLower
  rw [dif_neg]
  rintro ⟨hge, -⟩
  have hcapital : 65 ≤ c.val.toNat := UInt32.le_iff_toNat_le.1 hge
  omega

theorem isAsciiDigit_of_spellsNaN {cs : List Char} (h : SpellsNaN cs) :
    ∀ c ∈ cs, isAsciiDigit c = false := by
  have hletters {rest : List Char} (hrest : rest.map Char.toLower = ['n', 'a', 'n']) (c : Char)
      (hc : c ∈ rest) : isAsciiDigit c = false := by
    cases hdigit : isAsciiDigit c with
    | false => rfl
    | true =>
      have hmem : c.toLower ∈ ['n', 'a', 'n'] := hrest ▸ List.mem_map_of_mem hc
      have hnone : ∀ d ∈ ['n', 'a', 'n'], isAsciiDigit d = false := by simp [isAsciiDigit]
      rw [toLower_of_isAsciiDigit hdigit] at hmem
      rw [← hdigit, hnone c hmem]
  intro c hc
  unfold SpellsNaN takeSign at h
  split at h
  · rcases List.mem_cons.1 hc with rfl | hc
    · rfl
    · exact hletters h c hc
  · rcases List.mem_cons.1 hc with rfl | hc
    · rfl
    · exact hletters h c hc
  · exact hletters h c hc

theorem isNaN_readMagnitude? {cs : List Char} {x : Float} (h : readMagnitude? cs = some x) :
    x.isNaN = false := by
  unfold readMagnitude? at h
  dsimp only at h
  split at h
  · split at h
    · cases h
    · obtain ⟨e, -, rfl⟩ := Option.map_eq_some_iff.1 h
      exact isNaN_nearestDouble ..
  · split at h
    · cases h
    · obtain ⟨e, -, rfl⟩ := Option.map_eq_some_iff.1 h
      exact isNaN_nearestDouble ..

theorem isNaN_readRealChars? {cs : List Char} {x : Float} (h : readRealChars? cs = some x) :
    x.isNaN = true ↔ SpellsNaN cs := by
  unfold readRealChars? at h
  cases hdrop : dropLowLines? '_' cs with
  | none =>
    rw [hdrop] at h
    cases h
  | some plain =>
    have hplain : x.isNaN = true ↔ SpellsNaN plain := by
      rcases hsign : takeSign plain with ⟨negative, body⟩
      simp only [hdrop, hsign] at h
      obtain ⟨y, hy, rfl⟩ := Option.map_eq_some_iff.1 h
      have hbody : y.isNaN = true ↔ body.map Char.toLower = ['n', 'a', 'n'] := by
        cases hword : specialReal? body with
        | some z =>
          rw [hword] at hy
          cases hy
          exact isNaN_specialReal? hword
        | none =>
          rw [hword] at hy
          rw [isNaN_readMagnitude? hy]
          refine iff_of_false (by decide) fun hnan => ?_
          simp [specialReal?, hnan] at hword
      rw [SpellsNaN, hsign, ← hbody]
      cases negative with
      | true => rw [if_pos rfl, isNaN_neg]
      | false => rfl
    rw [hplain]
    constructor
    · intro hnan
      rw [← dropLowLines?_eq_self hdrop rfl (isAsciiDigit_of_spellsNaN hnan)]
      exact hnan
    · intro hnan
      have hdigits := isAsciiDigit_of_spellsNaN hnan
      rw [dropLowLines?_eq_self hdrop rfl fun c hc =>
        hdigits c ((dropLowLines?_sublist hdrop).subset hc)]
      exact hnan

/-! ### Order -/

theorem lt_iff (x y : Float) : x < y ↔ x.toModel.unpack.lt y.toModel.unpack = true :=
  decide_eq_true_iff

theorem le_iff (x y : Float) : x ≤ y ↔ x.toModel.unpack.le y.toModel.unpack = true :=
  decide_eq_true_iff

/-- What is not at most zero is above it, unless it is not a number. -/
theorem zero_lt_iff_of_not_le {x : Float} (h : ¬x ≤ 0.0) : 0.0 < x ↔ x.isNaN = false := by
  have hzero : (0.0 : Float).toModel.unpack = .zero .positive := rfl
  rw [le_iff, hzero] at h
  rw [lt_iff, hzero]
  show _ ↔ x.toModel.unpack.isNaN = false
  cases hx : x.toModel.unpack with
  | notANumber => decide
  | zero s =>
    rw [hx] at h
    exact absurd rfl h
  | infinity s =>
    rw [hx] at h
    cases s with
    | positive => decide
    | negative => exact absurd rfl h
  | finite s m e hm =>
    rw [hx] at h
    cases s with
    | positive => exact ⟨fun _ => rfl, fun _ => rfl⟩
    | negative => exact absurd rfl h

end Tripwire.Decimal

namespace Tripwire.Value

open Decimal (SpellsNaN)

/-- That a value is "not a number" as a real number. -/
def SaysNaN : Value → Prop
  | float x => x.isNaN = true
  | text s => SpellsNaN (Decimal.plainChars s)
  | bytes bs => SpellsNaN (bytesChars bs)
  | _ => False

instance : DecidablePred SaysNaN
  | float x => inferInstanceAs (Decidable (x.isNaN = true))
  | text s => inferInstanceAs (Decidable (SpellsNaN (Decimal.plainChars s)))
  | bytes bs => inferInstanceAs (Decidable (SpellsNaN (bytesChars bs)))
  | null | bool _ | int _ | date _ | moment _ | list _ | map _ _ => inferInstanceAs (Decidable False)

theorem isNaN_toReal {v : Value} {x : Float} (h : v.toReal = .ok x) : x.isNaN = true ↔ v.SaysNaN := by
  cases v with
  | bool b =>
    cases h
    cases b with
    | true => exact iff_of_false (by decide) id
    | false => exact iff_of_false (by decide) id
  | int n =>
    unfold toReal at h
    dsimp only at h
    split at h
    · rename_i y hy
      cases h
      rw [Decimal.isNaN_wholeToDouble? hy]
      exact iff_of_false (by decide) id
    · cases h
  | float y =>
    cases h
    exact Iff.rfl
  | text s =>
    unfold toReal at h
    dsimp only at h
    split at h
    · rename_i y hy
      cases h
      exact Decimal.isNaN_readRealChars? hy
    · cases h
  | bytes bs =>
    unfold toReal at h
    dsimp only at h
    split at h
    · rename_i y hy
      cases h
      exact Decimal.isNaN_readRealChars? hy
    · cases h
  | _ => cases h

end Tripwire.Value
