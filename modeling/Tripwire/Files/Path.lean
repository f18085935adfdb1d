import Tripwire.Text.Split

/-!
# Paths

A path is a list of parts, relative or from the root. Its text has one slash between parts; parts that
are empty or a single dot are left out, and two dots are kept. The root may be written with one slash or
with two, which a path keeps; three or more are as one.
-/

namespace Tripwire.Files

/-- Where a path begins, as its text shows it. -/
inductive Origin where
  | here
  | root
  | doubleRoot
deriving DecidableEq, Repr

def Origin.ofChars : List Char → Origin
  | '/' :: '/' :: '/' :: _ => .root
  | '/' :: '/' :: _ => .doubleRoot
  | '/' :: _ => .root
  | _ => .here

def Origin.text : Origin → String
  | .here => ""
  | .root => "/"
  | .doubleRoot => "//"

/-- A path. -/
structure Path where
  origin : Origin
  parts : List String
deriving DecidableEq, Repr

namespace Path

def isStep (part : String) : Bool := part ≠ "" && part ≠ "."

def ofText (s : String) : Path where
  origin := .ofChars s.toList
  parts := ((Text.pieces '/' [] s.toList).map String.ofList).filter isStep

def text (p : Path) : String :=
  if p.origin = .here && p.parts.isEmpty then "."
  else p.origin.text ++ "/".intercalate p.parts

def child (p : Path) (name : String) : Path := { p with parts := p.parts ++ [name] }

/-- The path of a directory given by the names on the way to it from the root. -/
def ofDirectory (names : List String) : Path := ⟨.root, names⟩

/-- The names on the way to where a path sets out from. -/
def setOut (p : Path) (here : List String) : List String := if p.origin = .here then here else []

/-- The names on the way from the root to where a path leads from a directory, two dots leading back
by one name. -/
def resolveFrom (here : List String) (p : Path) : List String :=
  (go (p.setOut here).reverse p.parts).reverse
where
  go : List String → List String → List String
    | back, [] => back
    | back, part :: rest => if part = ".." then go back.tail rest else go (part :: back) rest

end Path

end Tripwire.Files
