import Tripwire.Yaml.Leaf
import Tripwire.Yaml.Node.Reader
import Tripwire.Yaml.Token.Lexer

/-!
# The values of documents

From the node of a document to its value. Collections are filled level by level, so of several faults
the one on the highest level counts, and on one level the first. Entries under a merge key come before
the others of their mapping and give way to them. A mapping that occurs in several places of the value
keeps the number of its node as its anchor.

`_read_yaml` of `failfast.config` reads a file's document so (line 150), apart from two things that
values here cannot be. A set, an ordered mapping or a list of pairs, which only a tag given by hand
asks for, is refused; a collection that holds itself ends the reading.
-/

namespace Tripwire.Yaml

def unfit {α : Type} : Except Fault α := .error .badDocument

/-! ### Merge keys -/

mutual

/-- The entries of a mapping with the entries under its merge keys put first. -/
def merged : Nat → List (Node × Node) → Except Fault (List (Node × Node))
  | 0, _ => unfit
  | fuel + 1, entries => do
    let (first, own) ← splitMerged fuel entries
    return first ++ own

/-- The entries under merge keys, and the other entries. -/
def splitMerged : Nat → List (Node × Node) → Except Fault (List (Node × Node) × List (Node × Node))
  | 0, _ => unfit
  | _ + 1, [] => .ok ([], [])
  | fuel + 1, (k, v) :: rest => do
    if k.tag = .merge then
      let here ← match v with
        | .mapping _ _ entries => merged fuel entries
        | .sequence _ _ items => mergedItems fuel items
        | .scalar _ _ _ => unfit
      let (first, own) ← splitMerged fuel rest
      return (here ++ first, own)
    else
      let (first, own) ← splitMerged fuel rest
      return (first, (k, v) :: own)

/-- The entries of mappings in a list, those of the last mapping first. -/
def mergedItems : Nat → List Node → Except Fault (List (Node × Node))
  | 0, _ => unfit
  | _ + 1, [] => .ok []
  | fuel + 1, .mapping _ _ entries :: rest => do
    let here ← merged fuel entries
    let others ← mergedItems fuel rest
    return others ++ here
  | _ + 1, _ :: _ => unfit

end

mutual

/-- The number of nodes of a node, a bound for what is done with it. -/
def Node.size : Node → Nat
  | .scalar _ _ _ => 1
  | .sequence _ _ items => itemsSize items + 1
  | .mapping _ _ entries => entriesSize entries + 1

def itemsSize : List Node → Nat
  | [] => 0
  | n :: rest => n.size + itemsSize rest

def entriesSize : List (Node × Node) → Nat
  | [] => 0
  | (k, v) :: rest => k.size + v.size + entriesSize rest

end

/-- The entries of a mapping, those under merge keys included. -/
def allEntries (entries : List (Node × Node)) : Except Fault (List (Node × Node)) :=
  merged (2 * entriesSize entries + 3) entries

/-! ### Faults, level by level -/

/-- The text of a node that stands where a scalar is wanted: a mapping stands for its entry under the
key for values. -/
def scalarText : Nat → Node → Except Fault String
  | 0, _ => unfit
  | _ + 1, .scalar _ _ s => .ok s
  | _ + 1, .sequence _ _ _ => unfit
  | fuel + 1, .mapping _ _ entries =>
    match entries.find? fun e => e.1.tag = .value with
    | some (_, v) => scalarText fuel v
    | none => unfit

def Node.isCollection (n : Node) : Bool := n.tag = .seq || n.tag = .map

/-- The value of a node that is no collection. There is none under a tag that is not a common one. -/
def leafValue (n : Node) : Except Fault Value :=
  match n.tag with
  | .other _ | .merge | .value => unfit
  | tag => do
    let s ← scalarText n.depth n
    scalarValue tag s

/-- A node as it is met: a collection is put off, anything else has to have a value. -/
def meet (n : Node) : Except Fault (List Node) :=
  if n.isCollection then .ok [n] else (leafValue n).map fun _ => []

/-- A key as it stands in a mapping: the key for values there is text. -/
def asKey (k : Node) : Node :=
  match k with
  | .scalar number .value s => .scalar number .str s
  | k => k

/-- The collections in the entries of a mapping. No key is one. -/
def meetEntries : List (Node × Node) → Except Fault (List Node)
  | [] => .ok []
  | (k, v) :: rest => do
    let key ← meet (asKey k)
    if !key.isEmpty then unfit
    let here ← meet v
    let others ← meetEntries rest
    return here ++ others

/-- The collections in a collection. A node of another form than its tag says is refused, and so is one
whose tag is not a common one: there are no values that are sets, ordered mappings or lists of pairs. -/
def fill (n : Node) : Except Fault (List Node) :=
  match n with
  | .sequence _ .seq items => (items.mapM meet).map List.flatten
  | .mapping _ .map entries => do
    let entries ← allEntries entries
    meetEntries entries
  | _ => unfit

/-- Goes through levels of collections: the first fault, if there is one. -/
def checkLevels : Nat → List Node → Except Fault Unit
  | 0, _ => .ok ()
  | fuel + 1, level => do
    let below ← level.mapM fill
    checkLevels fuel below.flatten

/-! ### Values -/

mutual

/-- The value of a node. Every mapping has the number of its node as its anchor. -/
def valueOf : Nat → Node → Except Fault Value
  | 0, _ => unfit
  | fuel + 1, n =>
    match n with
    | .sequence _ .seq items => (valuesOf fuel items).map .list
    | .mapping number .map entries => do
      let entries ← allEntries entries
      let pairs ← pairsOf fuel entries
      return .map (Entries.ofPairs pairs) (some number)
    | n => leafValue n

def valuesOf : Nat → List Node → Except Fault (List Value)
  | 0, _ => unfit
  | _ + 1, [] => .ok []
  | fuel + 1, n :: rest => do
    let v ← valueOf fuel n
    let vs ← valuesOf fuel rest
    return v :: vs

def pairsOf : Nat → List (Node × Node) → Except Fault (List (Value × Value))
  | 0, _ => unfit
  | _ + 1, [] => .ok []
  | fuel + 1, (k, v) :: rest => do
    let key ← valueOf fuel (asKey k)
    let v ← valueOf fuel v
    let others ← pairsOf fuel rest
    return (key, v) :: others

end

mutual

def anchorsOf : Value → List Nat
  | .list items => itemAnchors items
  | .map entries anchor => anchor.toList ++ entryAnchors entries
  | _ => []

def itemAnchors : List Value → List Nat
  | [] => []
  | v :: rest => anchorsOf v ++ itemAnchors rest

def entryAnchors : List (Value × Value) → List Nat
  | [] => []
  | (_, v) :: rest => anchorsOf v ++ entryAnchors rest

end

mutual

def reanchor (f : Nat → Option Nat) : Value → Value
  | .list items => .list (reanchorItems f items)
  | .map entries anchor => .map (reanchorEntries f entries) (anchor.bind f)
  | v => v

def reanchorItems (f : Nat → Option Nat) : List Value → List Value
  | [] => []
  | v :: rest => reanchor f v :: reanchorItems f rest

def reanchorEntries (f : Nat → Option Nat) : List (Value × Value) → List (Value × Value)
  | [] => []
  | (k, v) :: rest => (k, reanchor f v) :: reanchorEntries f rest

end

/-- The value of a document's node. Anchors stay on mappings that occur several times; they are `place`
and numbers that differ from it by multiples of `places`, so that several documents have no anchor in
common. -/
def documentValue (place places : Nat) (n : Node) : Except Fault Value := do
  if n.isCollection then checkLevels (n.depth + 1) [n]
  let v ← valueOf (4 * n.size + 8) n
  let anchors := anchorsOf v
  return reanchor (fun a => if 1 < anchors.count a then some (a * places + place) else none) v

/-- The value of the document in a text, null if there is none. -/
def readDocument (place places : Nat) (cs : List Char) : Except Fault Value := do
  let tokens ← Token.ofText cs
  match ← Node.ofTokens? tokens with
  | none => return .null
  | some n => documentValue place places n

end Tripwire.Yaml
