import Tripwire.Fault
import Tripwire.Named
import Tripwire.Yaml.Node.Implicit
import Tripwire.Yaml.Token.Lexer

/-!
# The nodes of tokens

From the tokens of a text to the node of its document. A text holds one document, or none. The reader
descends by fuel; each token costs a bounded number of steps.
-/

namespace Tripwire.Yaml

/-- A reading of nodes under way. A name whose node is not complete yet has no node. -/
structure Progress where
  tokens : List Token
  /-- The nodes that have names. -/
  named : Named (Option Node) := []
  /-- What the handles of tags stand for. -/
  handles : Named String := []
  /-- How many nodes there are so far. -/
  count : Nat := 0

/-- A step of a reading. -/
abbrev Reading := StateT Progress (Except Fault)

namespace Reading

/-- Ends the reading: the document is not well formed. -/
def refuse {α : Type} : Reading α := throw .badDocument

def peek? : Reading (Option Token) := do return (← get).tokens.head?

def skip : Reading Unit := modify fun p => { p with tokens := p.tokens.tail }

def sees (t : Token) : Reading Bool := do return (← peek?) == some t

/-- Goes over the next token if it is a given one. -/
def skipIf (t : Token) : Reading Bool := do
  if ← sees t then
    skip
    return true
  return false

/-- Goes over a given token, which has to be the next one. -/
def expect (t : Token) : Reading Unit := do
  if !(← skipIf t) then refuse

/-- Whether the next token is one of those given. The end of the tokens is none of them. -/
def seesAny (ts : List Token) : Reading Bool := do
  match ← peek? with
  | some t => return ts.contains t
  | none => return false

def newNumber : Reading Nat := modifyGet fun p => (p.count, { p with count := p.count + 1 })

/-- An empty node, which stands for null. -/
def empty : Reading Node := do return .scalar (← newNumber) .null ""

/-- The anchor and the tag before a node, in either order. -/
def properties : Reading (Option String × Option (Option String × String)) := do
  match ← peek? with
  | some (.anchor name) =>
    skip
    match ← peek? with
    | some (.tag handle suffix) =>
      skip
      return (some name, some (handle, suffix))
    | _ => return (some name, none)
  | some (.tag handle suffix) =>
    skip
    match ← peek? with
    | some (.anchor name) =>
      skip
      return (some name, some (handle, suffix))
    | _ => return (none, some (handle, suffix))
  | _ => return (none, none)

def tagName (handle : Option String) (suffix : String) : Reading String := do
  match handle with
  | none => return suffix
  | some h =>
    match (← get).handles.get? h with
    | some stem => return stem ++ suffix
    | none => refuse

/-- The tag of a collection: the one that is given, unless that is the mark alone. -/
def collectionTag (given : Option String) (default : Tag) : Tag :=
  match given with
  | none => default
  | some name => if name = "!" then default else .ofName name

/-- The tag of a scalar. The mark alone makes any scalar count as plain. -/
def scalarTag (given : Option String) (text : String) (plain : Bool) : Tag :=
  match given with
  | none => if plain then .ofPlain text else .str
  | some name => if name = "!" then .ofPlain text else .ofName name

/-- The node that has a name. An alias inside the node that it names would make a value that holds
itself; nodes and values are finite here, so the reading ends. -/
def aliased (name : String) : Reading Node := do
  match (← get).named.get? name with
  | some (some node) => return node
  | some none => throw .endlessDocument
  | none => refuse

mutual

/-- A node. In a block it may be a block collection, and where a mapping asks for it a sequence that is
not indented. -/
def node : Nat → Bool → Bool → Reading Node
  | 0, _, _ => refuse
  | fuel + 1, block, loose => do
    match ← peek? with
    | some (.aliasOf name) =>
      skip
      aliased name
    | _ =>
      let (anchor, tag) ← properties
      let given ← match tag with
        | some (handle, suffix) => do pure (some (← tagName handle suffix))
        | none => pure none
      match anchor with
      | none => content fuel block loose given false
      | some name =>
        if ((← get).named.get? name).isSome then refuse
        modify fun p => { p with named := p.named.put name none }
        let n ← content fuel block loose given true
        modify fun p => { p with named := p.named.put name (some n) }
        return n

/-- What follows the anchor and the tag of a node. If there is one of these it may be nothing. -/
def content : Nat → Bool → Bool → Option String → Bool → Reading Node
  | 0, _, _, _, _ => refuse
  | fuel + 1, block, loose, given, anchored => do
    let number ← newNumber
    match ← peek? with
    | some (.scalar text plain) =>
      skip
      return .scalar number (scalarTag given text plain) text
    | some .flowSequenceStart =>
      skip
      return .sequence number (collectionTag given .seq) (← flowItems fuel true)
    | some .flowMappingStart =>
      skip
      return .mapping number (collectionTag given .map) (← flowEntries fuel true)
    | some .blockEntry =>
      if loose then return .sequence number (collectionTag given .seq) (← looseItems fuel)
      else blank number given anchored
    | some .blockSequenceStart =>
      if block then
        skip
        return .sequence number (collectionTag given .seq) (← blockItems fuel)
      else blank number given anchored
    | some .blockMappingStart =>
      if block then
        skip
        return .mapping number (collectionTag given .map) (← blockEntries fuel)
      else blank number given anchored
    | _ => blank number given anchored

/-- A node without content, which only an anchor or a tag makes one. -/
def blank (number : Nat) (given : Option String) (anchored : Bool) : Reading Node :=
  if given.isSome || anchored then return .scalar number (scalarTag given "" true) "" else refuse

/-- The items of a block sequence up to its end. -/
def blockItems : Nat → Reading (List Node)
  | 0 => refuse
  | fuel + 1 => do
    if ← skipIf .blockEntry then
      let item ← if ← seesAny [.blockEntry, .blockEnd] then empty else node fuel true false
      return item :: (← blockItems fuel)
    expect .blockEnd
    return []

/-- The items of a sequence that is not indented, up to what is no item. -/
def looseItems : Nat → Reading (List Node)
  | 0 => refuse
  | fuel + 1 => do
    if ← skipIf .blockEntry then
      let item ← if ← seesAny [.blockEntry, .key, .value, .blockEnd] then empty
        else node fuel true false
      return item :: (← looseItems fuel)
    return []

/-- The entries of a block mapping up to its end. -/
def blockEntries : Nat → Reading (List (Node × Node))
  | 0 => refuse
  | fuel + 1 => do
    if ← skipIf .key then
      let k ← if ← seesAny [.key, .value, .blockEnd] then empty else node fuel true true
      let v ← blockValue fuel
      return (k, v) :: (← blockEntries fuel)
    expect .blockEnd
    return []

def blockValue : Nat → Reading Node
  | 0 => refuse
  | fuel + 1 => do
    if ← skipIf .value then
      if ← seesAny [.key, .value, .blockEnd] then empty else node fuel true true
    else empty

/-- The items of a flow sequence up to its end. An entry with a key is a mapping of its own. -/
def flowItems : Nat → Bool → Reading (List Node)
  | 0, _ => refuse
  | fuel + 1, first => do
    if ← skipIf .flowSequenceEnd then return []
    if !first then expect .flowEntry
    if ← skipIf .key then
      let number ← newNumber
      let k ← if ← seesAny [.value, .flowEntry, .flowSequenceEnd] then empty
        else node fuel false false
      let v ← flowValue fuel .flowSequenceEnd
      return .mapping number .map [(k, v)] :: (← flowItems fuel false)
    if ← skipIf .flowSequenceEnd then return []
    let item ← node fuel false false
    return item :: (← flowItems fuel false)

/-- The value of an entry in a flow collection that ends with a given token. -/
def flowValue : Nat → Token → Reading Node
  | 0, _ => refuse
  | fuel + 1, stop => do
    if ← skipIf .value then
      if ← seesAny [.flowEntry, stop] then empty else node fuel false false
    else empty

/-- The entries of a flow mapping up to its end. -/
def flowEntries : Nat → Bool → Reading (List (Node × Node))
  | 0, _ => refuse
  | fuel + 1, first => do
    if ← skipIf .flowMappingEnd then return []
    if !first then expect .flowEntry
    if ← skipIf .key then
      let k ← if ← seesAny [.value, .flowEntry, .flowMappingEnd] then empty
        else node fuel false false
      let v ← flowValue fuel .flowMappingEnd
      return (k, v) :: (← flowEntries fuel false)
    if ← skipIf .flowMappingEnd then return []
    let k ← node fuel false false
    let v ← empty
    return (k, v) :: (← flowEntries fuel false)

end

/-! ### Documents -/

/-- What the handles of tags stand for unless a directive says otherwise. -/
def commonHandles : Named String := [("!", "!"), ("!!", commonStem)]

/-- Reads directives: at most one version, which has to be 1, and at most one stem for each handle. -/
def directives : List Token → Bool → Named String → Except Fault (List Token × Named String)
  | .directive (.version major) :: rest, versioned, handles =>
    if versioned || major ≠ 1 then .error .badDocument else directives rest true handles
  | .directive (.handle name stem) :: rest, versioned, handles =>
    if (handles.get? name).isSome then .error .badDocument
    else directives rest versioned (handles.put name stem)
  | .directive .other :: rest, versioned, handles => directives rest versioned handles
  | rest, _, handles => .ok (rest, handles ++ commonHandles)

/-- The node of a document that begins with directives or a separator. -/
def explicitDocument (fuel : Nat) : Reading Node := do
  let p ← get
  let (tokens, handles) ← directives p.tokens false []
  set { p with tokens, handles }
  expect .documentStart
  match ← peek? with
  | none | some (.directive _) | some .documentStart | some .documentEnd => empty
  | _ => node fuel true false

/-- The document in the tokens, if there is one, and nothing after it. -/
def document (fuel : Nat) : Reading (Option Node) := do
  let found ← match ← peek? with
    | none => pure none
    | some (.directive _) | some .documentStart => do pure (some (← explicitDocument fuel))
    | some _ => do
      modify fun p => { p with handles := commonHandles }
      pure (some (← node fuel true false))
  if ((← get).tokens.dropWhile (· == .documentEnd)).isEmpty then return found else refuse

end Reading

/-- The node of the document that tokens hold, if they hold one. -/
def Node.ofTokens? (tokens : List Token) : Except Fault (Option Node) :=
  (Reading.document (4 * tokens.length + 8)).run' { tokens }

end Tripwire.Yaml
