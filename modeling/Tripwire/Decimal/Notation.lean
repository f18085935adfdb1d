import Tripwire.Decimal.Shortest

/-!
# The text of a double

The rules by which a double becomes text: its shortest decimal, positional for magnitudes from
`10 ^ -4` up to but excluding `10 ^ 16`, with a point and at least one digit after it; otherwise with
an exponent of at least two digits and a sign. A second form has one place after the point.
-/

namespace Tripwire.Decimal

/-- How a decimal is laid out. -/
structure Layout where
  /-- Magnitudes from `10 ^ positionalFrom` are positional … -/
  positionalFrom : Int
  /-- … below `10 ^ positionalTo`. -/
  positionalTo : Int
  /-- The least number of digits in an exponent. -/
  exponentWidth : Nat

def plainLayout : Layout := ⟨-4, 16, 2⟩

/-- The decimal digits of a number, at least `width` of them. -/
def padded (width n : Nat) : String :=
  let ds := toString n
  String.ofList (List.replicate (width - ds.length) '0') ++ ds

def Layout.render (l : Layout) (d : Numeral) : String :=
  let ds := (toString d.digits).toList
  let point : Int := ds.length + d.exponent
  if l.positionalFrom < point && point ≤ l.positionalTo then
    if point ≤ 0 then "0." ++ String.ofList (List.replicate (-point).toNat '0' ++ ds)
    else if ds.length ≤ point.toNat then
      String.ofList (ds ++ List.replicate (point.toNat - ds.length) '0') ++ ".0"
    else String.ofList (ds.take point.toNat) ++ "." ++ String.ofList (ds.drop point.toNat)
  else
    let e := point - 1
    let mantissa := match ds with
      | [c] => String.ofList [c]
      | c :: rest => String.ofList (c :: '.' :: rest)
      | [] => ""
    mantissa ++ "e" ++ (if e < 0 then "-" else "+") ++ padded l.exponentWidth e.natAbs

def Double.text : Double → String
  | .nan => "nan"
  | .infinite negative => if negative then "-inf" else "inf"
  | .finite negative mantissa exponent =>
    let body := if mantissa = 0 then "0.0" else plainLayout.render (shortest mantissa exponent)
    if negative then "-" ++ body else body

def floatText (x : Float) : String := (Double.ofFloat x).text

/-- The text of a double with one place after the point, rounded from its exact value with a half
going to the even neighbour. -/
def Double.oneDecimal : Double → String
  | .nan => "nan"
  | .infinite negative => if negative then "-inf" else "inf"
  | .finite negative mantissa exponent =>
    let tenths := roundDiv (10 * mantissa * Nat.pow 2 exponent.toNat) (Nat.pow 2 (-exponent).toNat)
    let body := toString (tenths / 10) ++ "." ++ toString (tenths % 10)
    if negative then "-" ++ body else body

/-- The text of a double with one place after the point. -/
def floatOneDecimal (x : Float) : String := (Double.ofFloat x).oneDecimal

end Tripwire.Decimal
