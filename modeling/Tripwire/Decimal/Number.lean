/-!
# Whole and real numbers together

A finite double is a sign and a magnitude `mantissa * 2 ^ exponent`, read off its bits. All printing of
doubles starts from these parts and is exact.

A number is a whole number of any size or a double. The two kinds are compared by their exact values,
which are fractions over a power of two, so a whole number that no double can hold is still told apart
from its neighbours; a sum with a double is a double.
-/

namespace Tripwire.Decimal

/-! ### The parts of a double -/

/-- What the bits of a double stand for. -/
inductive Double where
  | nan
  | infinite (negative : Bool)
  | finite (negative : Bool) (mantissa : Nat) (exponent : Int)
deriving DecidableEq, Repr

/-- The parts written in sixty-four bits: a sign, eleven bits of exponent, fifty-two of mantissa. -/
def Double.ofBits (bits : Nat) : Double :=
  let negative := bits / Nat.pow 2 63 == 1
  let biased : Nat := bits / Nat.pow 2 52 % Nat.pow 2 11
  let fraction : Nat := bits % Nat.pow 2 52
  if biased = 2047 then
    if fraction = 0 then .infinite negative else .nan
  else if biased = 0 then .finite negative fraction (-1074)
  else .finite negative (Nat.pow 2 52 + fraction) ((biased : Int) - 1075)

def Double.ofFloat (x : Float) : Double := Double.ofBits x.toBits.toNat

/-- `num / den` rounded to the nearest whole number, a half going to the even neighbour. -/
def roundDiv (num den : Nat) : Nat :=
  let q := num / den
  let r := num % den
  if 2 * r < den then q
  else if den < 2 * r then q + 1
  else if q % 2 = 0 then q else q + 1

/-! ### Numbers -/

/-- A whole number or a double. -/
inductive Number where
  | whole (n : Int)
  | real (x : Float)

/-! ### Amounts -/

/-- What a number comes to exactly: a fraction over a power of two, or beyond all of them. -/
inductive Amount where
  | bottom
  | finite (q : Dyadic)
  | top
deriving DecidableEq

def Amount.atMost : Amount → Amount → Bool
  | .bottom, _ => true
  | .finite a, .finite b => a ≤ b
  | .finite _, .top => true
  | .top, .top => true
  | _, _ => false

/-- The amount of a double; "not a number" has none. -/
def Double.amount? : Double → Option Amount
  | .nan => none
  | .infinite negative => some (if negative then .bottom else .top)
  | .finite negative mantissa exponent =>
    some (.finite (.ofIntWithPrec (if negative then -(mantissa : Int) else mantissa) (-exponent)))

def Number.amount? : Number → Option Amount
  | .whole n => some (.finite (n : Dyadic))
  | .real x => (Double.ofFloat x).amount?

/-- Whether the first number is at least the second; "not a number" is at least nothing. -/
def Number.atLeast (a b : Number) : Bool :=
  match a.amount?, b.amount? with
  | some x, some y => y.atMost x
  | _, _ => false

@[simp] theorem Amount.atMost_self (x : Amount) : x.atMost x = true := by
  cases x <;> simp [Amount.atMost]

theorem Amount.atMost_trans {x y z : Amount} (hxy : x.atMost y = true) (hyz : y.atMost z = true) :
    x.atMost z = true := by
  cases x <;> cases y <;> cases z <;> simp_all [Amount.atMost]
  exact Dyadic.le_trans hxy hyz

@[simp] theorem Number.atLeast_whole (a b : Int) :
    (Number.whole a).atLeast (.whole b) = decide (b ≤ a) := by
  simp only [Number.atLeast, Number.amount?, Amount.atMost]
  refine decide_eq_decide.2 ?_
  rw [← Dyadic.toRat_le_toRat_iff, Dyadic.toRat_intCast, Dyadic.toRat_intCast, Rat.intCast_le_intCast]

/-! ### Sums -/

/-- The double nearest to a whole number, unless that is infinite. -/
def wholeToDouble? (n : Int) : Option Float :=
  let x := Float.ofNat n.natAbs
  if x.isFinite then some (if n < 0 then -x else x) else none

/-- A number as a double, unless it is too large. -/
def Number.toDouble? : Number → Option Float
  | .whole n => wholeToDouble? n
  | .real x => some x

/-- The sum of two numbers, unless a whole number too large for a double meets a double. -/
def Number.add? : Number → Number → Option Number
  | .whole a, .whole b => some (.whole (a + b))
  | .whole a, .real y => (wholeToDouble? a).map fun x => .real (x + y)
  | .real x, .whole b => (wholeToDouble? b).map fun y => .real (x + y)
  | .real x, .real y => some (.real (x + y))

@[simp] theorem Number.add?_whole (a b : Int) :
    (Number.whole a).add? (.whole b) = some (.whole (a + b)) := rfl

end Tripwire.Decimal
