/-!
# Places in a document's text

A cursor knows the characters that follow a place, and the place's index, line and column. Lines end
at a line feed or at one of three characters beyond ASCII; the mark of byte order takes no column.
-/

namespace Tripwire.Yaml

def byteOrderMark : Char := Char.ofNat 0xfeff

def isBreak (c : Char) : Bool :=
  c == '\n' || c.toNat == 0x85 || c.toNat == 0x2028 || c.toNat == 0x2029

def isBlank (c : Char) : Bool := c == ' ' || c == '\t'

def endsLine : Option Char → Bool
  | none => true
  | some c => isBreak c

/-- Whether a line ends here or a space stands here. -/
def endsField : Option Char → Bool
  | none => true
  | some c => c == ' ' || isBreak c

/-- Whether a line ends here or a blank stands here. -/
def endsWord : Option Char → Bool
  | none => true
  | some c => isBlank c || isBreak c

/-- Characters of names: letters and digits of ASCII, the hyphen and the low line. -/
def isNameChar (c : Char) : Bool := c.isAlphanum || c == '-' || c == '_'

/-- Whether a text may stand in a document at all. -/
def isPrintable (c : Char) : Bool :=
  let n := c.toNat
  n == 9 || n == 10 || n == 13 || (0x20 ≤ n && n ≤ 0x7e) || n == 0x85 ||
    (0xa0 ≤ n && n ≤ 0xfffd) || 0x10000 ≤ n

/-- A place in a text. -/
structure Cursor where
  rest : List Char
  index : Nat := 0
  line : Nat := 0
  column : Nat := 0

namespace Cursor

def peek? (c : Cursor) : Option Char := c.rest.head?

def peekAt? (c : Cursor) (n : Nat) : Option Char := c.rest[n]?

def at_ (c : Cursor) (ch : Char) : Bool := c.peek? == some ch

def step (c : Cursor) : Cursor :=
  match c.rest with
  | [] => c
  | ch :: rest =>
    if isBreak ch then { rest, index := c.index + 1, line := c.line + 1, column := 0 }
    else if ch = byteOrderMark then { c with rest, index := c.index + 1 }
    else { c with rest, index := c.index + 1, column := c.column + 1 }

def advance (c : Cursor) : Nat → Cursor
  | 0 => c
  | n + 1 => c.step.advance n

/-- The characters from the place on for which a test holds, and the place after them. -/
def takeWhile (c : Cursor) (p : Char → Bool) : List Char × Cursor :=
  let taken := c.rest.takeWhile p
  (taken, c.advance taken.length)

def skipWhile (c : Cursor) (p : Char → Bool) : Cursor := (c.takeWhile p).2

def skipSpaces (c : Cursor) : Cursor := c.skipWhile (· == ' ')

/-- Goes over a comment, if there is one. -/
def skipComment (c : Cursor) : Cursor :=
  if c.at_ '#' then c.skipWhile fun ch => !isBreak ch else c

/-- The break at the place and the place after it, if there is one. All breaks but two become a line
feed. -/
def takeBreak? (c : Cursor) : Option (Char × Cursor) :=
  match c.rest with
  | ch :: _ =>
    if ch = '\n' || ch.toNat = 0x85 then some ('\n', c.step)
    else if isBreak ch then some (ch, c.step)
    else none
  | [] => none

/-- Goes over a break, if there is one. -/
def skipBreak (c : Cursor) : Cursor :=
  match c.takeBreak? with
  | some (_, c) => c
  | none => c

/-- Whether three hyphens or three dots stand here by themselves, as they do between documents. -/
def atMarker (c : Cursor) (ch : Char) : Bool :=
  c.rest.take 3 == [ch, ch, ch] && endsWord (c.peekAt? 3)

def atSeparator (c : Cursor) : Bool := c.atMarker '-' || c.atMarker '.'

end Cursor

end Tripwire.Yaml
