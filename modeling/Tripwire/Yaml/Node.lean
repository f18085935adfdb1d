/-!
# Nodes

The nodes of a document: scalars, sequences and mappings, each with a tag that says what it stands for.
A node has a number; a node that occurs in several places has the same number in all of them.
-/

namespace Tripwire.Yaml

/-- What a node stands for. -/
inductive Tag where
  | null
  | bool
  | int
  | float
  | timestamp
  | binary
  | str
  | seq
  | map
  /-- A key whose value's entries are merged into the mapping. -/
  | merge
  /-- A key for the value of a mapping that stands for a scalar. -/
  | value
  | other (name : String)
deriving DecidableEq, Repr

def commonStem : String := "tag:yaml.org,2002:"

def commonTags : List (String × Tag) :=
  [("null", .null), ("bool", .bool), ("int", .int), ("float", .float), ("timestamp", .timestamp),
    ("binary", .binary), ("str", .str), ("seq", .seq), ("map", .map), ("merge", .merge),
    ("value", .value)]

/-- The tag of a name. The tags of sets (`set`), ordered mappings (`omap`) and lists of pairs (`pairs`)
are none of the common ones; a node that has one of them by hand has no value. -/
def Tag.ofName (name : String) : Tag :=
  match commonTags.find? fun t => commonStem ++ t.1 == name with
  | some t => t.2
  | none => .other name

/-- A node of a document. -/
inductive Node where
  | scalar (number : Nat) (tag : Tag) (text : String)
  | sequence (number : Nat) (tag : Tag) (items : List Node)
  | mapping (number : Nat) (tag : Tag) (entries : List (Node × Node))

namespace Node

def tag : Node → Tag
  | scalar _ t _ => t
  | sequence _ t _ => t
  | mapping _ t _ => t

mutual

def depth : Node → Nat
  | scalar _ _ _ => 1
  | sequence _ _ items => itemsDepth items + 1
  | mapping _ _ entries => entriesDepth entries + 1

def itemsDepth : List Node → Nat
  | [] => 0
  | n :: rest => max n.depth (itemsDepth rest)

def entriesDepth : List (Node × Node) → Nat
  | [] => 0
  | (k, v) :: rest => max (max k.depth v.depth) (entriesDepth rest)

end

end Node

end Tripwire.Yaml
