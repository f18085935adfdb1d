import Tripwire.Decimal.Number

/-!
# The shortest decimal of a double

The decimal with the fewest digits that reads back as a given double, and of those the nearest one.
The reals that round to `m * 2 ^ q` form an interval with the midpoints to both neighbours as its
ends; the ends belong to it when `m` is even. For one digit, two digits, and so on, the two points
of the decimal grid next to the value are tried.
-/

namespace Tripwire.Decimal

/-- Decimal digits and a power of ten: the value is `digits * 10 ^ exponent`. -/
structure Numeral where
  digits : Nat
  exponent : Int
deriving DecidableEq, Repr

/-- The reals that round to one positive double, over a common denominator. -/
structure Interval where
  low : Nat
  value : Nat
  high : Nat
  den : Nat
  closed : Bool

/-- The interval around `m * 2 ^ q`; below a power of two the lower neighbour is half as far. -/
def Interval.around (m : Nat) (q : Int) : Interval :=
  let below := if m = Nat.pow 2 52 && q > -1074 then 1 else 2
  let num := Nat.pow 2 (q - 2).toNat
  let den := Nat.pow 2 (2 - q).toNat
  { low := (4 * m - below) * num, value := 4 * m * num, high := (4 * m + 2) * num, den,
    closed := m % 2 = 0 }

/-- Whether `digits * 10 ^ exponent` lies in the interval. -/
def Interval.holds (i : Interval) (d : Numeral) : Bool :=
  let x := d.digits * Nat.pow 10 d.exponent.toNat * i.den
  let scale := Nat.pow 10 (-d.exponent).toNat
  if i.closed then i.low * scale ≤ x && x ≤ i.high * scale
  else i.low * scale < x && x < i.high * scale

/-- The exponent `e` with `10 ^ e ≤ num / den < 10 ^ (e + 1)`, found near an estimate. -/
def decimalExponent (num den : Nat) (estimate : Int) : Int :=
  let reaches (e : Int) : Bool := Nat.pow 10 e.toNat * den ≤ num * Nat.pow 10 (-e).toNat
  if reaches (estimate + 1) then estimate + 1
  else if reaches estimate then estimate
  else estimate - 1

/-- The better of the two points of the grid of `10 ^ exponent` next to the value, if one fits. -/
def Interval.onGrid? (i : Interval) (exponent : Int) : Option Numeral :=
  let num := i.value * Nat.pow 10 (-exponent).toNat
  let den := i.den * Nat.pow 10 exponent.toNat
  let down : Numeral := ⟨num / den, exponent⟩
  let up : Numeral := ⟨num / den + 1, exponent⟩
  match i.holds down, i.holds up with
  | false, false => none
  | true, false => some down
  | false, true => some up
  | true, true => some ⟨roundDiv num den, exponent⟩

/-- The first of the grids with `digits`, `digits + 1`, … digits that has a point in the interval. -/
def Interval.shortestFrom (i : Interval) (top : Int) : Nat → Nat → Numeral
  | 0, digits => ⟨i.value / i.den, digits⟩
  | tries + 1, digits =>
    match i.onGrid? (top - digits + 1) with
    | some d => d
    | none => i.shortestFrom top tries (digits + 1)

/-- Moves zeros at the end of the digits into the exponent. -/
def Numeral.strip : Nat → Numeral → Numeral
  | 0, d => d
  | tries + 1, d =>
    if d.digits % 10 = 0 && d.digits ≠ 0 then Numeral.strip tries ⟨d.digits / 10, d.exponent + 1⟩ else d

/-- The shortest decimal that reads back as `m * 2 ^ q`, for `m > 0`. -/
def shortest (m : Nat) (q : Int) : Numeral :=
  let i := Interval.around m q
  let estimate := ((m.log2 : Int) + q) * 30103 / 100000
  let top := decimalExponent i.value i.den estimate
  (i.shortestFrom top 17 1).strip 20

end Tripwire.Decimal
