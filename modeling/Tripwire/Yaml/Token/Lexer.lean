import Tripwire.Text.Encoding
import Tripwire.Yaml.Token.Scalar

/-!
# The tokens of a text

Tokens are the parts that the text of a document is made of. They are read one at a time. Two things
make this more than cutting text. Indentation shows as tokens of its own, which open and close block
collections. And a key of a mapping is known as one only when the colon after it is met, so each place
where a key might have begun is kept until then, or until its line has ended or it has become too long.
-/

namespace Tripwire.Yaml

/-! ### Tokens -/

/-- An instruction before a document. -/
inductive Directive where
  | version (major : Nat)
  | handle (name stem : String)
  | other
deriving DecidableEq, Repr

/-- A part of a document. -/
inductive Token where
  | directive (d : Directive)
  | documentStart
  | documentEnd
  | blockSequenceStart
  | blockMappingStart
  | blockEnd
  | flowSequenceStart
  | flowSequenceEnd
  | flowMappingStart
  | flowMappingEnd
  | blockEntry
  | flowEntry
  | key
  | value
  /-- A node that was given before under a name. -/
  | aliasOf (name : String)
  | anchor (name : String)
  /-- A tag. Without a handle the suffix is the whole tag. -/
  | tag (handle : Option String) (suffix : String)
  | scalar (text : String) (plain : Bool)
deriving DecidableEq, Repr

/-! ### A reading under way -/

/-- A place where a key may have begun: how many tokens came before it, whether a key has to stand
there, and where it is. -/
structure PossibleKey where
  before : Nat
  required : Bool
  index : Nat
  line : Nat
  column : Nat

/-- A reading of tokens under way. -/
structure Lexer where
  cursor : Cursor
  /-- The tokens so far, the latest first. -/
  tokens : List Token := []
  /-- The column of the innermost block collection, and those of the ones around it. -/
  indent : Int := -1
  indents : List Int := []
  /-- Whether a key may begin at the next token. -/
  mayStartKey : Bool := true
  /-- The possible key of the innermost flow collection, or of the block that is around all of them. -/
  pending : Option PossibleKey := none
  /-- The possible keys of the collections around it; there is one place for each flow collection. -/
  outer : List (Option PossibleKey) := []
  done : Bool := false

namespace Lexer

def inFlow (l : Lexer) : Bool := !l.outer.isEmpty

def emit (l : Lexer) (t : Token) : Lexer := { l with tokens := t :: l.tokens }

def insert (l : Lexer) (before : Nat) (ts : List Token) : Lexer :=
  let later := l.tokens.length - before
  { l with tokens := l.tokens.take later ++ ts.reverse ++ l.tokens.drop later }

def advance (l : Lexer) (n : Nat) : Lexer := { l with cursor := l.cursor.advance n }

/-! ### Possible keys -/

/-- The longest key that is known by the colon after it. -/
def longestKey : Nat := 1024

def isStale (l : Lexer) (k : PossibleKey) : Bool :=
  k.line != l.cursor.line || longestKey < l.cursor.index - k.index

/-- A possible key, unless it can no longer be one; a required key then is missing. -/
def fresh? (l : Lexer) (k : Option PossibleKey) : Except Fault (Option PossibleKey) :=
  match k with
  | none => .ok none
  | some k => if l.isStale k then (if k.required then malformed else .ok none) else .ok (some k)

/-- Gives up the possible keys that can no longer be keys. -/
def dropStale (l : Lexer) : Except Fault Lexer := do
  let pending ← l.fresh? l.pending
  let outer ← l.outer.mapM l.fresh?
  return { l with pending, outer }

def dropPending (l : Lexer) : Except Fault Lexer :=
  match l.pending with
  | some k => if k.required then malformed else .ok { l with pending := none }
  | none => .ok l

/-- Keeps the place as that of a possible key, if a key may begin here. -/
def keepPending (l : Lexer) : Except Fault Lexer := do
  if !l.mayStartKey then return l
  let l ← l.dropPending
  let c := l.cursor
  let required := !l.inFlow && l.indent == (c.column : Int)
  return { l with pending := some ⟨l.tokens.length, required, c.index, c.line, c.column⟩ }

/-! ### Indentation -/

/-- Closes the block collections that are indented further than a column. -/
def unwind (l : Lexer) (column : Int) : Lexer :=
  if l.inFlow then l else go l.indents l
where
  go : List Int → Lexer → Lexer
    | [], l => l
    | i :: rest, l =>
      if column < l.indent then go rest { l.emit .blockEnd with indent := i, indents := rest } else l

/-- Opens a block collection at a column, unless one is open there: the lexer that has it as the
innermost one, or nothing. -/
def open? (l : Lexer) (column : Nat) : Option Lexer :=
  if l.indent < (column : Int) then
    some { l with indent := column, indents := l.indent :: l.indents }
  else none

/-- Opens a block collection at the place, if need be. -/
def openHere (l : Lexer) (start : Token) : Lexer :=
  match l.open? l.cursor.column with
  | some l => l.emit start
  | none => l

/-! ### Between tokens -/

/-- Goes over spaces, comments and breaks. After a break in a block a key may begin. -/
def skipToToken : Nat → Lexer → Lexer
  | 0, l => l
  | fuel + 1, l =>
    let c := l.cursor.skipSpaces.skipComment
    match c.takeBreak? with
    | some (_, c) =>
      skipToToken fuel { l with cursor := c, mayStartKey := l.mayStartKey || !l.inFlow }
    | none => { l with cursor := c }

/-! ### Directives, anchors and tags -/

/-- The handle of a tag: a mark, or a name between two marks. In a directive a mark followed by a space
is one too. -/
def takeHandle (c : Cursor) : Except Fault (Found String) :=
  if !c.at_ '!' then malformed
  else if c.peekAt? 1 == some ' ' then .ok ("!", c.step)
  else
    let (name, after) := c.step.takeWhile isNameChar
    if after.at_ '!' then .ok (String.ofList ('!' :: name ++ ['!']), after.step) else malformed

/-- Characters that may stand in the suffix of a tag. -/
def isUriChar (c : Char) : Bool :=
  c.isAlphanum ||
    c ∈ ['-', ';', '/', '?', ':', '@', '&', '=', '+', '$', ',', '_', '.', '!', '~', '*', '\'', '(',
      ')', '[', ']', '%']

/-- The bytes that escapes with a percent sign write, and the characters after them. -/
def takePercent : Nat → List Char → Option (List UInt8 × List Char)
  | fuel + 1, '%' :: a :: b :: rest => do
    let x ← Json.hexValue? a
    let y ← Json.hexValue? b
    let (bytes, rest) ← takePercent fuel rest
    some (UInt8.ofNat (16 * x + y) :: bytes, rest)
  | _, '%' :: _ => none
  | _, rest => some ([], rest)

def unescapeUri : Nat → List Char → Except Fault (List Char)
  | 0, _ => malformed
  | _ + 1, [] => .ok []
  | fuel + 1, '%' :: rest =>
    match takePercent (rest.length + 1) ('%' :: rest) with
    | some (bytes, after) =>
      match Text.decodeUtf8 bytes with
      | .ok cs => do
        let more ← unescapeUri fuel after
        return cs ++ more
      | .error _ => malformed
    | none => malformed
  | fuel + 1, c :: rest => do
    let more ← unescapeUri fuel rest
    return c :: more

def takeUri (c : Cursor) : Except Fault (Found String) := do
  let (raw, c) := c.takeWhile isUriChar
  if raw.isEmpty then malformed
  let text ← unescapeUri (raw.length + 1) raw
  return (String.ofList text, c)

def takeVersionPart (c : Cursor) : Except Fault (Found Nat) :=
  let (digits, c) := c.takeWhile Decimal.isAsciiDigit
  if digits.isEmpty then malformed else .ok (Decimal.digitsValue digits, c)

/-- A directive, from its percent sign on. -/
def takeDirective (c : Cursor) : Except Fault (Found Directive) := do
  let (name, c) := c.step.takeWhile isNameChar
  if name.isEmpty || !endsField c.peek? then malformed
  let (d, c) ← match String.ofList name with
    | "YAML" => do
      let (major, c) ← takeVersionPart c.skipSpaces
      if !c.at_ '.' then malformed
      let (_, c) ← takeVersionPart c.step
      if !endsField c.peek? then malformed
      pure (Directive.version major, c)
    | "TAG" => do
      let (handle, c) ← takeHandle c.skipSpaces
      if !c.at_ ' ' then malformed
      let (stem, c) ← takeUri c.skipSpaces
      if !endsField c.peek? then malformed
      pure (Directive.handle handle stem, c)
    | _ => pure (Directive.other, c.skipWhile fun ch => !isBreak ch)
  let c := c.skipSpaces.skipComment
  if !endsLine c.peek? then malformed
  return (d, c.skipBreak)

/-- Whether a character may follow the name of an anchor. -/
def endsName (c : Option Char) : Bool :=
  endsWord c || c.any fun ch => ch ∈ ['?', ':', ',', ']', '}', '%', '@', Char.ofNat 0x60]

/-- The name of an anchor or of an alias, from its sign on. -/
def takeName (c : Cursor) : Except Fault (Found String) :=
  let (name, c) := c.step.takeWhile isNameChar
  if name.isEmpty || !endsName c.peek? then malformed else .ok (String.ofList name, c)

/-- A tag, from its mark on: between angle brackets, the mark alone, or a handle and a suffix. -/
def takeTag (c : Cursor) : Except Fault (Found Token) := do
  let (t, c) ←
    if c.peekAt? 1 == some '<' then do
      let (suffix, c) ← takeUri (c.advance 2)
      if !c.at_ '>' then malformed
      pure (Token.tag none suffix, c.step)
    else if endsWord (c.peekAt? 1) then pure (Token.tag none "!", c.step)
    else do
      let word := c.step.rest.takeWhile fun ch => ch != ' ' && !isBreak ch
      let (handle, c) ← if '!' ∈ word then takeHandle c else pure ("!", c.step)
      let (suffix, c) ← takeUri c
      pure (Token.tag (some handle) suffix, c)
  if !endsField c.peek? then malformed
  return (t, c)

/-! ### Tokens -/

/-- Ends the text: all block collections are closed. -/
def finish (l : Lexer) : Except Fault Lexer := do
  let l ← (l.unwind (-1)).dropPending
  return { l with done := true }

/-- Closes all block collections before something that stands between documents. -/
def leaveDocument (l : Lexer) : Except Fault Lexer := do
  let l ← (l.unwind (-1)).dropPending
  return { l with mayStartKey := false }

def separator (l : Lexer) (t : Token) : Except Fault Lexer := do
  let l ← l.leaveDocument
  return (l.advance 3).emit t

def directive (l : Lexer) : Except Fault Lexer := do
  let l ← l.leaveDocument
  let (d, c) ← takeDirective l.cursor
  return { l.emit (.directive d) with cursor := c }

/-- The start of a flow collection. The collection may be a key; so may what comes first in it. -/
def flowStart (l : Lexer) (t : Token) : Except Fault Lexer := do
  let l ← l.keepPending
  let l := (l.advance 1).emit t
  return { l with mayStartKey := true, outer := l.pending :: l.outer, pending := none }

def flowEnd (l : Lexer) (t : Token) : Except Fault Lexer := do
  let l ← l.dropPending
  match l.outer with
  | [] => malformed
  | pending :: outer => return { (l.advance 1).emit t with mayStartKey := false, pending, outer }

def flowEntry (l : Lexer) : Except Fault Lexer := do
  let l ← l.dropPending
  return { (l.advance 1).emit .flowEntry with mayStartKey := true }

def blockEntry (l : Lexer) : Except Fault Lexer := do
  if !l.inFlow && !l.mayStartKey then malformed
  let l := if l.inFlow then l else l.openHere .blockSequenceStart
  let l ← l.dropPending
  return { (l.advance 1).emit .blockEntry with mayStartKey := true }

def keyMark (l : Lexer) : Except Fault Lexer := do
  if !l.inFlow && !l.mayStartKey then malformed
  let l := if l.inFlow then l else l.openHere .blockMappingStart
  let l ← l.dropPending
  return { (l.advance 1).emit .key with mayStartKey := !l.inFlow }

/-- The colon before a value. It makes a key of the possible key before it. -/
def valueMark (l : Lexer) : Except Fault Lexer := do
  match l.pending with
  | some k =>
    let l := { l with pending := none, mayStartKey := false }
    let l := match if l.inFlow then none else l.open? k.column with
      | some l => l.insert k.before [.blockMappingStart, .key]
      | none => l.insert k.before [.key]
    return (l.advance 1).emit .value
  | none =>
    if !l.inFlow && !l.mayStartKey then malformed
    let l := if l.inFlow then l else l.openHere .blockMappingStart
    let l ← l.dropPending
    return { (l.advance 1).emit .value with mayStartKey := !l.inFlow }

/-- A token that may be a key or the beginning of one. -/
def word (l : Lexer) (take : Cursor → Except Fault (Found Token)) : Except Fault Lexer := do
  let l ← l.keepPending
  let (t, c) ← take l.cursor
  return { l.emit t with cursor := c, mayStartKey := false }

def quoted (l : Lexer) (double : Bool) : Except Fault Lexer :=
  l.word fun c => do
    let (text, c) ← takeQuoted double c
    return (.scalar (String.ofList text) false, c)

def block (l : Lexer) (fold : Bool) : Except Fault Lexer := do
  let l ← l.dropPending
  let (text, c) ← takeBlock fold l.indent l.cursor
  return { l.emit (.scalar (String.ofList text) false) with cursor := c, mayStartKey := true }

/-- A plain scalar. When a line ends after it a key may begin. -/
def plain (l : Lexer) : Except Fault Lexer := do
  let l ← l.keepPending
  let c := l.cursor
  let ((text, ended), c) := takePlain l.inFlow (l.indent + 1) (c.rest.length + 1) [] false c
  return { l.emit (.scalar (String.ofList text) true) with cursor := c, mayStartKey := ended }

/-- Whether a plain scalar may begin with a character, given the one after it. -/
def beginsPlain (inFlow : Bool) (ch : Char) (next : Option Char) : Bool :=
  if isBlank ch || isBreak ch then false
  else if ch = '-' then !endsWord next
  else if ch = '?' || ch = ':' then !inFlow && !endsWord next
  else
    !(ch ∈ [',', '[', ']', '{', '}', '#', '&', '*', '!', '|', '>', '\'', '"', '%', '@',
      Char.ofNat 0x60])

/-- Reads the next token, and the tokens that it brings with it. -/
def next (l : Lexer) : Except Fault Lexer := do
  let l ← (skipToToken (l.cursor.rest.length + 1) l).dropStale
  let l := l.unwind l.cursor.column
  let c := l.cursor
  match c.rest with
  | [] => l.finish
  | ch :: rest =>
    let following := rest.head?
    if ch = '%' && c.column = 0 then l.directive
    else if c.column = 0 && c.atMarker '-' then l.separator .documentStart
    else if c.column = 0 && c.atMarker '.' then l.separator .documentEnd
    else if ch = '[' then l.flowStart .flowSequenceStart
    else if ch = '{' then l.flowStart .flowMappingStart
    else if ch = ']' then l.flowEnd .flowSequenceEnd
    else if ch = '}' then l.flowEnd .flowMappingEnd
    else if ch = ',' then l.flowEntry
    else if ch = '-' && endsWord following then l.blockEntry
    else if ch = '?' && (l.inFlow || endsWord following) then l.keyMark
    else if ch = ':' && (l.inFlow || endsWord following) then l.valueMark
    else if ch = '*' then
      l.word fun c => (takeName c).map fun (name, c) => (.aliasOf name, c)
    else if ch = '&' then
      l.word fun c => (takeName c).map fun (name, c) => (.anchor name, c)
    else if ch = '!' then l.word takeTag
    else if ch = '|' && !l.inFlow then l.block false
    else if ch = '>' && !l.inFlow then l.block true
    else if ch = '\'' then l.quoted false
    else if ch = '"' then l.quoted true
    else if beginsPlain l.inFlow ch following then l.plain
    else malformed

def run : Nat → Lexer → Except Fault Lexer
  | 0, _ => malformed
  | fuel + 1, l => if l.done then .ok l else do
    let l ← l.next
    run fuel l

end Lexer

/-- The characters of a text as they count in a document: a mark of byte order at the front does
not. -/
def startOf (cs : List Char) : Cursor :=
  match cs with
  | c :: rest => if c = byteOrderMark then { rest, index := 1 } else { rest := cs }
  | [] => { rest := [] }

def Token.ofText (cs : List Char) : Except Fault (List Token) := do
  if !cs.all isPrintable then malformed
  let l ← Lexer.run (cs.length + 2) { cursor := startOf cs }
  return l.tokens.reverse

end Tripwire.Yaml
