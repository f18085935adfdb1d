import Mathlib.Algebra.Group.Nat.Defs
import Tripwire.Decimal.Reader

/-!
# Numbers in digits

A run of digits is a number in positional notation, so runs can be put together and zeros added.
-/

namespace Tripwire.Decimal

def digit (c : Char) : Nat := (Text.asciiDigit? c).getD 0

theorem digit_of_isAsciiDigit {c : Char} (h : isAsciiDigit c = true) : digit c = c.toNat - 48 := by
  have hdigit : ('0' ≤ c && c ≤ '9') = true := h
  unfold digit Text.asciiDigit?
  rw [if_pos hdigit]
  rfl

theorem digit_lt (c : Char) : digit c < 10 := by
  unfold digit Text.asciiDigit?
  split
  · rename_i hc
    obtain ⟨-, hle⟩ := Bool.and_eq_true_iff.1 hc
    have hnine : c.toNat ≤ 57 := UInt32.le_iff_toNat_le.1 (of_decide_eq_true hle)
    show c.toNat - 48 < 10
    omega
  · show 0 < 10
    omega

/-- A run is read on from the number that stands before it. -/
theorem foldl_digit (n : Nat) (cs : List Char) :
    cs.foldl (fun n c => 10 * n + digit c) n = n * 10 ^ cs.length + digitsValue cs := by
  have hzero (cs : List Char) : digitsValue cs = cs.foldl (fun n c => 10 * n + digit c) 0 := rfl
  induction cs generalizing n with
  | nil => exact (Nat.mul_one n).symm
  | cons c cs ih =>
    rw [hzero, List.foldl_cons, List.foldl_cons, ih, ih (10 * 0 + _), List.length_cons, Nat.pow_succ']
    rw [Nat.mul_zero, Nat.zero_add, Nat.add_mul, Nat.mul_comm 10 n, Nat.mul_assoc, Nat.add_assoc]

theorem digitsValue_append (cs ds : List Char) :
    digitsValue (cs ++ ds) = digitsValue cs * 10 ^ ds.length + digitsValue ds := by
  show (cs ++ ds).foldl (fun n c => 10 * n + digit c) 0 = _
  rw [List.foldl_append, foldl_digit]
  rfl

theorem digitsValue_cons (c : Char) (cs : List Char) :
    digitsValue (c :: cs) = digit c * 10 ^ cs.length + digitsValue cs := by
  have hone : digitsValue [c] = digit c := Nat.zero_add _
  rw [← List.singleton_append, digitsValue_append, hone]

theorem digitsValue_lt (cs : List Char) : digitsValue cs < 10 ^ cs.length := by
  induction cs with
  | nil => exact Nat.one_pos
  | cons c cs ih =>
    have hc : (digit c + 1) * 10 ^ cs.length ≤ 10 * 10 ^ cs.length :=
      Nat.mul_le_mul_right _ (digit_lt c)
    rw [Nat.add_mul, Nat.one_mul] at hc
    rw [digitsValue_cons, List.length_cons, Nat.pow_succ']
    omega

theorem digitsValue_zeros (k : Nat) : digitsValue (List.replicate k '0') = 0 := by
  induction k with
  | zero => rfl
  | succ k ih =>
    rw [List.replicate_succ, digitsValue_cons, ih]
    exact Nat.zero_mul _

end Tripwire.Decimal
