import Tripwire.Pattern.Syntax
import Tripwire.Text.Ranges
import Tripwire.Text.Lettercase
import Tripwire.Text.Word

/-!
# Tests of single characters

What one character of a text has to satisfy: to be a given character, to be a member of a set, or not
to be. When case is ignored the character is replaced by its lower case first, and members of sets are
closed under lower case and under the classes of lower-case characters that share an upper case.
-/

namespace Tripwire.Pattern

/-- The classes of different lower-case characters that have the same upper case. -/
def caseMates : List (List Nat) := [
  [105, 305], [115, 383], [181, 956], [837, 953, 8126], [912, 8147], [944, 8163], [946, 976],
  [949, 1013], [952, 977], [954, 1008], [960, 982], [961, 1009], [962, 963], [966, 981],
  [1074, 7296], [1076, 7297], [1086, 7298], [1089, 7299], [1090, 7300, 7301], [1098, 7302],
  [1123, 7303], [7304, 42571], [7777, 7835], [64261, 64262]]

/-- The lower-case characters with the same upper case as a given one, itself among them. -/
def matesOf (n : Nat) : List Nat := (caseMates.find? (·.contains n)).getD [n]

/-- How a character is folded before it is tested. -/
inductive Fold where
  | none
  | ascii
  | unicode
deriving DecidableEq, Repr

/-- The lower case of the capital letters of ASCII. -/
def asciiLower (n : Nat) : Nat := if 65 ≤ n && n ≤ 90 then n + 32 else n

def Fold.apply : Fold → Nat → Nat
  | .none, n => n
  | .ascii, n => asciiLower n
  | .unicode, n => Text.lowerPoint n

/-- Whether a code point has case, as a fold sees it. -/
def Fold.hasCase : Fold → Nat → Bool
  | .none, _ => false
  | .ascii, n => (65 ≤ n && n ≤ 90) || (97 ≤ n && n ≤ 122)
  | .unicode, n => Text.isBicameral n

/-- Whether a code point belongs to a class, in ASCII or in all scripts. -/
def Category.holds (ascii : Bool) (c : Category) (n : Nat) : Bool :=
  let ch := Char.ofNat n
  match c, ascii with
  | .digit, true => 48 ≤ n && n ≤ 57
  | .digit, false => Text.isDigit ch
  | .space, true => n == 32 || (9 ≤ n && n ≤ 13)
  | .space, false => Text.isBlank ch
  | .word, true => Text.isAsciiWordChar ch
  | .word, false => Text.isWordChar ch

/-- A member of a set, ready for testing. -/
inductive Member where
  | range (lo hi : Nat)
  | category (c : Category) (ascii negated : Bool)
  /-- The lower-case characters of a range, with all that share an upper case with one of them. -/
  | lowered (fold : Fold) (lo hi : Nat)
  /-- A range that also takes characters whose upper case it holds. -/
  | raised (lo hi : Nat)
deriving DecidableEq, Repr

/-- Whether a code point, folded already, is a member. -/
def Member.holds (m : Member) (n : Nat) : Bool :=
  match m with
  | .range lo hi => lo ≤ n && n ≤ hi
  | .category c ascii negated => c.holds ascii n != negated
  | .lowered .unicode lo hi => (matesOf n).any fun k => Text.hasLowerSource lo hi k
  | .lowered .ascii lo hi =>
    (lo ≤ n && n ≤ hi && asciiLower n == n) || (97 ≤ n && n ≤ 122 && lo ≤ n - 32 && n - 32 ≤ hi)
  | .lowered .none lo hi => lo ≤ n && n ≤ hi
  | .raised lo hi =>
    let up := Text.upperPoint n
    (lo ≤ n && n ≤ hi) || (lo ≤ up && up ≤ hi)

/-- A test of one character. -/
structure CharTest where
  fold : Fold
  negated : Bool
  members : List Member
deriving DecidableEq, Repr

def CharTest.passes (t : CharTest) (c : Char) : Bool :=
  let n := t.fold.apply c.toNat
  t.members.any (·.holds n) != t.negated

def CharTest.single (fold : Fold) (negated : Bool) (c : Nat) : CharTest :=
  if fold.hasCase c then
    match fold with
    | .unicode =>
      { fold, negated, members := (matesOf (Text.lowerPoint c)).map fun k => .range k k }
    | _ => { fold, negated, members := [.range (fold.apply c) (fold.apply c)] }
  else { fold := .none, negated, members := [.range c c] }

/-- The test for any character, or for any but the end of a line. -/
def CharTest.anyChar (dotAll : Bool) : CharTest :=
  { fold := .none, negated := true, members := if dotAll then [] else [.range 10 10] }

/-- The members that a member of a set becomes under a fold. Code points beyond the basic plane are
compared with upper cases instead of being closed under lower case. -/
def SetItem.members (fold : Fold) (ascii : Bool) : SetItem → List Member
  | .category c negated => [.category c ascii negated]
  | .char c =>
    if fold = .none || 0x10000 ≤ fold.apply c then [.range c c] else [.lowered fold c c]
  | .range lo hi =>
    if fold = .none then [.range lo hi]
    else if hi < 0x10000 then [.lowered fold lo hi]
    else .raised lo hi :: (if lo < 0x10000 then [.lowered fold lo 0xffff] else [])

def SetItem.hasCase (fold : Fold) : SetItem → Bool
  | .category _ _ => false
  | .char c => fold != .none && (0x10000 ≤ fold.apply c || fold.hasCase c)
  | .range lo hi =>
    fold != .none && (0x10000 ≤ hi || (List.range (hi + 1 - lo)).any fun i => fold.hasCase (lo + i))

/-- The test for a set. A set in which case does not matter is tested without folding. -/
def CharTest.ofSet (fold : Fold) (ascii negated : Bool) (items : List SetItem) : CharTest :=
  if items.any (·.hasCase fold) then
    { fold, negated, members := items.flatMap (·.members fold ascii) }
  else { fold := .none, negated, members := items.flatMap (·.members .none ascii) }

end Tripwire.Pattern
