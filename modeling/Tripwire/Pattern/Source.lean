import Tripwire.Pattern.Syntax

/-!
# The text of a pattern, symbol by symbol

A symbol is a character or a backslash with the character after it. One symbol is looked at ahead of
the reader, so a backslash at the very end is refused as soon as the symbol before it is taken.
-/

namespace Tripwire.Pattern

/-- A character, or an escape: a backslash and a character. -/
inductive Symbol where
  | plain (c : Char)
  | escape (c : Char)
deriving DecidableEq, Repr

/-- What is left of a pattern: the next symbol and the characters after it. -/
structure Source where
  next : Option Symbol
  rest : List Char
deriving Repr

def Source.ofChars : List Char → Except Error Source
  | [] => .ok ⟨none, []⟩
  | '\\' :: c :: rest => .ok ⟨some (.escape c), rest⟩
  | ['\\'] => .error .malformed
  | c :: rest => .ok ⟨some (.plain c), rest⟩

def Source.advance (s : Source) : Except Error Source := Source.ofChars s.rest

def Source.sees (s : Source) (c : Char) : Bool := s.next == some (.plain c)

/-- Takes the next symbol if it is the given character. -/
def Source.take? (s : Source) (c : Char) : Except Error (Bool × Source) :=
  if s.sees c then do
    let s ← s.advance
    return (true, s)
  else .ok (false, s)

/-- Takes plain characters that satisfy `p`, at most so many. -/
def Source.takeWhile (p : Char → Bool) : Nat → Source → Except Error (List Char × Source)
  | 0, s => .ok ([], s)
  | n + 1, s =>
    match s.next with
    | some (.plain c) =>
      if p c then do
        let s ← s.advance
        let (cs, s) ← Source.takeWhile p n s
        return (c :: cs, s)
      else .ok ([], s)
    | _ => .ok ([], s)

def Source.budget (s : Source) : Nat := s.rest.length + 1

/-- Takes a name and the character that ends it. A name is not empty. -/
def Source.takeName (stop : Char) : Nat → Source → Except Error (List Char × Source)
  | 0, _ => .error .malformed
  | n + 1, s =>
    match s.next with
    | none => .error .malformed
    | some symbol => do
      let s ← s.advance
      if symbol = .plain stop then return ([], s)
      let (cs, s) ← Source.takeName stop n s
      match symbol with
      | .plain c => return (c :: cs, s)
      | .escape c => return ('\\' :: c :: cs, s)

/-- Takes a name that is not empty. -/
def Source.takeNonempty (stop : Char) (s : Source) : Except Error (List Char × Source) := do
  let (cs, s) ← Source.takeName stop (s.budget + 1) s
  if cs.isEmpty then .error .malformed else return (cs, s)

end Tripwire.Pattern
