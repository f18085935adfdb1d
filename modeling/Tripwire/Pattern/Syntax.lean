/-!
# The syntax of patterns

A pattern is a sequence of items. Characters are code points, so that a pattern can also name one that
no text holds.
-/

namespace Tripwire.Pattern

/-- What a pattern can turn on or off for a part of itself. -/
structure Flags where
  ignoreCase : Bool := false
  multiline : Bool := false
  dotAll : Bool := false
  verbose : Bool := false
  ascii : Bool := false
  unicode : Bool := false
  template : Bool := false
deriving DecidableEq, Repr

def Flags.none : Flags := {}

def Flags.union (a b : Flags) : Flags :=
  { ignoreCase := a.ignoreCase || b.ignoreCase
    multiline := a.multiline || b.multiline
    dotAll := a.dotAll || b.dotAll
    verbose := a.verbose || b.verbose
    ascii := a.ascii || b.ascii
    unicode := a.unicode || b.unicode
    template := a.template || b.template }

/-- The flags of the first that are not flags of the second. -/
def Flags.minus (a b : Flags) : Flags :=
  { ignoreCase := a.ignoreCase && !b.ignoreCase
    multiline := a.multiline && !b.multiline
    dotAll := a.dotAll && !b.dotAll
    verbose := a.verbose && !b.verbose
    ascii := a.ascii && !b.ascii
    unicode := a.unicode && !b.unicode
    template := a.template && !b.template }

def Flags.meets (a b : Flags) : Bool :=
  (a.ignoreCase && b.ignoreCase) || (a.multiline && b.multiline) || (a.dotAll && b.dotAll) ||
    (a.verbose && b.verbose) || (a.ascii && b.ascii) || (a.unicode && b.unicode) ||
    (a.template && b.template)

/-- Whether one of the flags that choose an alphabet is on. -/
def Flags.choosesAlphabet (a : Flags) : Bool := a.ascii || a.unicode

/-- The flags inside a group that turns some on and some off. An alphabet that is turned on replaces
the one outside. -/
def Flags.within (outer add del : Flags) : Flags :=
  let base := if add.choosesAlphabet then { outer with ascii := false, unicode := false } else outer
  (base.union add).minus del

/-- The classes of characters that have a name of one letter. -/
inductive Category where
  | digit
  | space
  | word
deriving DecidableEq, Repr

/-- A member of a set: a code point, a range of them, or a class or its complement. -/
inductive SetItem where
  | char (c : Nat)
  | range (lo hi : Nat)
  | category (c : Category) (negated : Bool)
deriving DecidableEq, Repr

/-- Places in a text. -/
inductive Place where
  | start
  | textStart
  | stop
  | textStop
  | boundary
  | notBoundary
deriving DecidableEq, Repr

/-- How a repetition chooses between more and fewer rounds, or never gives back any. -/
inductive Greed where
  | greedy
  | lazy
  | possessive
deriving DecidableEq, Repr

/-- One item of a pattern. -/
inductive Item where
  | literal (c : Nat)
  | notLiteral (c : Nat)
  | any
  | set (negated : Bool) (members : List SetItem)
  | place (p : Place)
  | branch (alternatives : List (List Item))
  | group (index : Option Nat) (add del : Flags) (body : List Item)
  | atomic (body : List Item)
  | look (behind negated : Bool) (body : List Item)
  | «repeat» (greed : Greed) (min : Nat) (max : Option Nat) (body : List Item)
  | backref (group : Nat)
  | conditional (group : Nat) (yes no : List Item)
deriving Repr, Inhabited

/-- Whether an item is one and the same in two places: only items without parts are. -/
def Item.sameLeaf : Item → Item → Bool
  | literal a, literal b => a == b
  | notLiteral a, notLiteral b => a == b
  | any, any => true
  | set n a, set m b => n == m && a == b
  | place a, place b => a == b
  | backref a, backref b => a == b
  | _, _ => false

def maxWidth : Nat := Nat.pow 2 64

mutual

/-- The least and the greatest number of characters that an item takes; the widths of the groups to
which it may refer are given. -/
def Item.width (groups : Nat → Nat × Nat) : Item → Nat × Nat
  | .literal _ | .notLiteral _ | .any | .set _ _ => (1, 1)
  | .place _ | .look _ _ _ => (0, 0)
  | .branch alternatives => Item.widthOfAny groups alternatives
  | .group _ _ _ body | .atomic body => Item.widthOfAll groups body
  | .repeat _ min max body =>
    let (lo, hi) := Item.widthOfAll groups body
    (lo * min, match max with
      | some m => hi * m
      | none => if hi = 0 then 0 else maxWidth)
  | .backref g => groups g
  | .conditional _ yes no =>
    let (lo, hi) := Item.widthOfAll groups yes
    let (lo', hi') := Item.widthOfAll groups no
    (Nat.min lo lo', Nat.max hi hi')

def Item.widthOfAll (groups : Nat → Nat × Nat) : List Item → Nat × Nat
  | [] => (0, 0)
  | item :: rest =>
    let (lo, hi) := Item.width groups item
    let (lo', hi') := Item.widthOfAll groups rest
    (Nat.min (lo + lo') maxWidth, Nat.min (hi + hi') maxWidth)

def Item.widthOfAny (groups : Nat → Nat × Nat) : List (List Item) → Nat × Nat
  | [] => (maxWidth, 0)
  | items :: rest =>
    let (lo, hi) := Item.widthOfAll groups items
    let (lo', hi') := Item.widthOfAny groups rest
    (Nat.min lo lo', Nat.max hi hi')

end

/-- Why a text is no pattern, or why a search with a pattern has no answer. -/
inductive Error where
  | malformed
  | repetitionTooLarge
  | tooManyDigits (digits : Nat)
  | alphabetsConflict
  | groupCrossed
deriving DecidableEq, Repr

end Tripwire.Pattern
