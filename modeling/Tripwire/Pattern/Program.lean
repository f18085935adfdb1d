import Tripwire.Pattern.CharTest
import Tripwire.Pattern.Reader

/-!
# Programs of steps

A pattern with its flags worked in: every step says by itself what it does. A repetition of single
characters is a step of its own, because it needs no bookkeeping between its rounds.
-/

namespace Tripwire.Pattern

/-- Places in a text, the alphabet and the meaning of lines being settled. -/
inductive Spot where
  | textStart
  | lineStart
  | textStop
  | lineStop
  /-- The end of the text, or before a line end that ends it. -/
  | lastLineStop
  | boundary (ascii negated : Bool)
deriving DecidableEq, Repr

/-- One step of a program. -/
inductive Step where
  | char (test : CharTest)
  | spot (s : Spot)
  /-- Notes the position as an end of a group: twice the group's number for its start, one more for
  its stop, groups being counted from zero. -/
  | mark (index : Nat)
  | branch (alternatives : List (List Step))
  | repeatChar (greed : Greed) (min : Nat) (max : Option Nat) (test : CharTest)
  | loop (lazy : Bool) (min : Nat) (max : Option Nat) (body : List Step)
  /-- The end of a round of a loop. -/
  | again (lazy : Bool) (min : Nat) (max : Option Nat) (body : List Step)
  | possessive (min : Nat) (max : Option Nat) (body : List Step)
  | atomic (body : List Step)
  | look (back : Nat) (negated : Bool) (body : List Step)
  | backref (group : Nat) (fold : Fold)
  | conditional (group : Nat) (yes no : List Step)
deriving Repr, Inhabited

def Flags.fold (f : Flags) : Fold :=
  if f.ignoreCase then (if f.unicode then .unicode else .ascii) else .none

def Place.spot (f : Flags) : Place → Spot
  | .start => if f.multiline then .lineStart else .textStart
  | .textStart => .textStart
  | .stop => if f.multiline then .lineStop else .lastLineStop
  | .textStop => .textStop
  | .boundary => .boundary (!f.unicode) false
  | .notBoundary => .boundary (!f.unicode) true

/-- The test of a sequence that is one character wide and has no groups: a single character step, be
it inside a group with flags of its own. -/
def charTest? : List Step → List Item → Option CharTest
  | [.char test], [item] =>
    match item with
    | .literal _ | .notLiteral _ | .any | .set _ _ | .group none _ _ _ => some test
    | _ => none
  | _, _ => none

mutual

def Item.steps (widths : Nat → Nat × Nat) (f : Flags) : Item → Except Error (List Step)
  | .literal c => .ok [.char (CharTest.single f.fold false c)]
  | .notLiteral c => .ok [.char (CharTest.single f.fold true c)]
  | .any => .ok [.char (CharTest.anyChar f.dotAll)]
  | .set negated items => .ok [.char (CharTest.ofSet f.fold (!f.unicode) negated items)]
  | .place p => .ok [.spot (p.spot f)]
  | .branch alternatives => do
    let alternatives ← Item.stepsOfAny widths f alternatives
    return [.branch alternatives]
  | .group none add del body => Item.stepsOfAll widths (f.within add del) body
  | .group (some index) add del body => do
    let steps ← Item.stepsOfAll widths (f.within add del) body
    return .mark (2 * (index - 1)) :: steps ++ [.mark (2 * (index - 1) + 1)]
  | .atomic body => do
    let steps ← Item.stepsOfAll widths f body
    return [.atomic steps]
  | .look behind negated body => do
    let (lo, hi) := Item.widthOfAll widths body
    if behind && (maxRepeat < lo || lo ≠ hi) then .error .malformed
    else
      let steps ← Item.stepsOfAll widths f body
      return [.look (if behind then lo else 0) negated steps]
  | .repeat greed min max body =>
    if f.template then .error .malformed
    else do
      let steps ← Item.stepsOfAll widths f body
      match charTest? steps body with
      | some test => return [.repeatChar greed min max test]
      | none =>
        match greed with
        | .greedy => return [.loop false min max steps]
        | .lazy => return [.loop true min max steps]
        | .possessive => return [.possessive min max steps]
  | .backref g => .ok [.backref (g - 1) f.fold]
  | .conditional g yes no => do
    let yes ← Item.stepsOfAll widths f yes
    let no ← Item.stepsOfAll widths f no
    return [.conditional (g - 1) yes no]

def Item.stepsOfAll (widths : Nat → Nat × Nat) (f : Flags) : List Item → Except Error (List Step)
  | [] => .ok []
  | item :: rest => do
    let first ← Item.steps widths f item
    let others ← Item.stepsOfAll widths f rest
    return first ++ others

def Item.stepsOfAny (widths : Nat → Nat × Nat) (f : Flags) :
    List (List Item) → Except Error (List (List Step))
  | [] => .ok []
  | items :: rest => do
    let first ← Item.stepsOfAll widths f items
    let others ← Item.stepsOfAny widths f rest
    return first :: others

end

def program (text : String) : Except Error (List Step) := do
  let parsed ← parse text
  Item.stepsOfAll parsed.widthOf parsed.flags parsed.items

end Tripwire.Pattern
