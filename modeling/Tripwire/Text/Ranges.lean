/-!
# Blanks and digits

A class of code points is a list of closed ranges, sorted upwards and disjoint. Membership stops at
the first range that begins above the code point. The blank characters are such a class: the
bidirectional classes of separators and the space separators of the Unicode character database,
version 14. The decimal digits of every script stand ten by ten next to one another, so a table of the
zeros gives all of them.
-/

namespace Tripwire.Text

/-- Whether `n` lies in one of the closed ranges of a table that is sorted upwards. -/
def inRanges : List (Nat × Nat) → Nat → Bool
  | [], _ => false
  | (lo, hi) :: rest, n => if n < lo then false else n ≤ hi || inRanges rest n

/-! ### Blank characters -/

def blankRanges : List (Nat × Nat) := [
  (9, 13), (28, 32), (133, 133), (160, 160), (5760, 5760), (8192, 8202), (8232, 8233), (8239, 8239),
  (8287, 8287), (12288, 12288)]

def isBlank (c : Char) : Bool := inRanges blankRanges c.toNat

/-- Drops what satisfies `p` at both ends. -/
def trimBy (p : Char → Bool) (cs : List Char) : List Char :=
  ((cs.dropWhile p).reverse.dropWhile p).reverse

def trim (s : String) : String := String.ofList (trimBy isBlank s.toList)

/-! ### Decimal digits -/

/-- The code points of the zeros, sorted upwards. -/
def digitZeros : List Nat := [
  48, 1632, 1776, 1984, 2406, 2534, 2662, 2790, 2918, 3046, 3174, 3302, 3430, 3558, 3664, 3792,
  3872, 4160, 4240, 6112, 6160, 6470, 6608, 6784, 6800, 6992, 7088, 7232, 7248, 42528, 43216, 43264,
  43472, 43504, 43600, 44016, 65296, 66720, 68912, 69734, 69872, 69942, 70096, 70384, 70736, 70864,
  71248, 71360, 71472, 71904, 72016, 72784, 73040, 73120, 92768, 92864, 93008, 120782, 120792,
  120802, 120812, 120822, 123200, 123632, 125264, 130032]

/-- The value of a digit whose zero is in the list. -/
def digitFrom : List Nat → Nat → Option Nat
  | [], _ => none
  | z :: rest, n =>
    if n < z then none else if n < z + 10 then some (n - z) else digitFrom rest n

def digitValue? (c : Char) : Option Nat := digitFrom digitZeros c.toNat

/-- Whether a character is a decimal digit of any script. -/
def isDigit (c : Char) : Bool := (digitValue? c).isSome

/-- The value of one of the ten digits of ASCII. -/
def asciiDigit? (c : Char) : Option Nat :=
  if '0' ≤ c && c ≤ '9' then some (c.toNat - '0'.toNat) else none

end Tripwire.Text
