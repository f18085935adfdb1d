import Tripwire.Fault
import Tripwire.Json.Reader
import Tripwire.Yaml.Cursor

/-!
# The text of scalars

A scalar is written plain, between quotes, or as a block of lines. A single break inside plain or
quoted text is a space; further breaks stay. Fuel is the number of characters left.
-/

namespace Tripwire.Yaml

/-- What was read, and the place after it. -/
abbrev Found (α : Type) := α × Cursor

def malformed {α : Type} : Except Fault α := .error .badDocument

/-- The text for a run of breaks: a single line feed is a space, one more break stands for itself. -/
def folded (first : Char) (others : List Char) : List Char :=
  if first ≠ '\n' then first :: others
  else if others.isEmpty then [' '] else others

/-! ### Plain scalars -/

/-- Whether a plain scalar stops before a character, given the one after it. -/
def stopsPlain (flow : Bool) (c : Char) (next : Option Char) : Bool :=
  isBlank c || isBreak c ||
    (c == ':' && (endsWord next || (flow && next.any fun n => n ∈ [',', '[', ']', '{', '}']))) ||
    (flow && c ∈ [',', '?', '[', ']', '{', '}'])

/-- The characters up to a blank or to what stops a plain scalar. -/
def plainRun (flow : Bool) : List Char → List Char
  | [] => []
  | c :: rest => if stopsPlain flow c rest.head? then [] else c :: plainRun flow rest

/-- The breaks and spaces at the start of lines, up to something else or to a separator of documents,
for which there is no text. -/
def plainBreaks : Nat → List Char → Cursor → Option (List Char) × Cursor
  | 0, before, c => (some before.reverse, c)
  | fuel + 1, before, c =>
    if c.at_ ' ' then plainBreaks fuel before c.step
    else
      match c.takeBreak? with
      | none => (some before.reverse, c)
      | some (b, c) => if c.atSeparator then (none, c) else plainBreaks fuel (b :: before) c

/-- The text between two runs of a plain scalar, the place after it, and whether a line ended. There
is no text where the scalar ends. -/
def plainSpaces (c : Cursor) : List Char × Cursor × Bool :=
  let (spaces, c) := c.takeWhile (· == ' ')
  match c.takeBreak? with
  | none => (spaces, c, false)
  | some (b, c) =>
    if c.atSeparator then ([], c, true)
    else
      match plainBreaks (c.rest.length + 1) [] c with
      | (some others, c) => (folded b others, c, true)
      | (none, c) => ([], c, true)

/-- A plain scalar, with whether a line ended after it. Outside flow collections its further lines are
indented by at least `indent`. -/
def takePlain (flow : Bool) (indent : Int) : Nat → List Char → Bool → Cursor → Found (List Char × Bool)
  | 0, before, ended, c => ((before, ended), c)
  | fuel + 1, before, ended, c =>
    if c.at_ '#' then ((before, ended), c)
    else
      let run := plainRun flow c.rest
      if run.isEmpty then ((before, ended), c)
      else
        let text := before ++ run
        let (spaces, c, ended) := plainSpaces (c.advance run.length)
        if spaces.isEmpty || c.at_ '#' || (!flow && (c.column : Int) < indent) then ((text, ended), c)
        else
          let ((more, ended), c) := takePlain flow indent fuel spaces ended c
          if more.length = spaces.length then ((text, ended), c) else ((text ++ more, ended), c)

/-! ### Quoted scalars -/

/-- The character that a letter after a backslash stands for. -/
def escaped? : Char → Option Char
  | '0' => some (Char.ofNat 0)
  | 'a' => some '\x07'
  | 'b' => some '\x08'
  | 't' | '\t' => some '\t'
  | 'n' => some '\n'
  | 'v' => some '\x0b'
  | 'f' => some '\x0c'
  | 'r' => some '\r'
  | 'e' => some '\x1b'
  | ' ' => some ' '
  | '"' => some '"'
  | '\\' => some '\\'
  | '/' => some '/'
  | 'N' => some (Char.ofNat 0x85)
  | '_' => some (Char.ofNat 0xa0)
  | 'L' => some (Char.ofNat 0x2028)
  | 'P' => some (Char.ofNat 0x2029)
  | _ => none

/-- The number of hexadecimal digits after a letter that follows a backslash. -/
def escapeWidth? : Char → Option Nat
  | 'x' => some 2
  | 'u' => some 4
  | 'U' => some 8
  | _ => none

def hexNumber? (cs : List Char) : Option Nat :=
  cs.foldlM (fun n c => (Json.hexValue? c).map fun d => 16 * n + d) 0

/-- The character of a code point. A text holds characters only, so half a pair of surrogates is not
kept: it becomes the replacement character. -/
def pointChar (n : Nat) : Except Fault Char :=
  if n < 0x110000 then .ok (if h : n.isValidChar then Char.ofNatAux n h else Char.ofNat 0xfffd)
  else if n < 0x80000000 then .error .noCodePoint
  else .error .wholeTooWide

/-- The breaks at the start of lines inside quotes. No separator of documents may be there. -/
def quotedBreaks : Nat → List Char → Cursor → Except Fault (Found (List Char))
  | 0, _, _ => malformed
  | fuel + 1, before, c =>
    if c.atSeparator then malformed
    else
      let c := c.skipWhile isBlank
      match c.takeBreak? with
      | some (b, c) => quotedBreaks fuel (b :: before) c
      | none => .ok (before.reverse, c)

def quotedSpaces (c : Cursor) : Except Fault (Found (List Char)) := do
  let (blanks, c) := c.takeWhile isBlank
  match c.takeBreak? with
  | some (b, c) =>
    let (others, c) ← quotedBreaks (c.rest.length + 1) [] c
    return (folded b others, c)
  | none => if c.rest.isEmpty then malformed else return (blanks, c)

/-- An escape, after its backslash. -/
def takeEscape (c : Cursor) : Except Fault (Found (List Char)) := do
  match c.peek? with
  | none => malformed
  | some ch =>
    match escaped? ch, escapeWidth? ch, c.takeBreak? with
    | some e, _, _ => return ([e], c.step)
    | none, some width, _ =>
      let c := c.step
      let digits := c.rest.take width
      match hexNumber? digits with
      | some n =>
        if digits.length = width then
          let e ← pointChar n
          return ([e], c.advance width)
        else malformed
      | none => malformed
    | none, none, some (_, c) => quotedBreaks (c.rest.length + 1) [] c
    | none, none, none => malformed

/-- Characters inside quotes up to a blank, a break or the closing quote, those before being given in
reverse order. -/
def quotedRun (double : Bool) : Nat → List Char → Cursor → Except Fault (Found (List Char))
  | 0, _, _ => malformed
  | fuel + 1, before, c =>
    match c.rest with
    | [] => .ok (before.reverse, c)
    | ch :: rest =>
      if isBlank ch || isBreak ch then .ok (before.reverse, c)
      else if ch = '\'' && !double then
        if rest.head? = some '\'' then quotedRun double fuel ('\'' :: before) (c.advance 2)
        else .ok (before.reverse, c)
      else if ch = '"' && double then .ok (before.reverse, c)
      else if ch = '\\' && double then do
        let (text, c) ← takeEscape c.step
        quotedRun double fuel (text.reverse ++ before) c
      else quotedRun double fuel (ch :: before) c.step

/-- The text inside quotes from a place on, up to the closing quote, which is passed over too. -/
def quotedText (double : Bool) : Nat → Cursor → Except Fault (Found (List Char))
  | 0, _ => malformed
  | fuel + 1, c => do
    let (run, c) ← quotedRun double (c.rest.length + 1) [] c
    if c.at_ (if double then '"' else '\'') then return (run, c.step)
    let (spaces, c) ← quotedSpaces c
    let (more, c) ← quotedText double fuel c
    return (run ++ spaces ++ more, c)

/-- A quoted scalar, from its opening quote on. -/
def takeQuoted (double : Bool) (c : Cursor) : Except Fault (Found (List Char)) :=
  quotedText double (c.rest.length + 1) c.step

/-! ### Block scalars -/

/-- What is done with the breaks at the end of a block: all are dropped, one is kept, all are kept. -/
inductive Chomping where
  | strip
  | clip
  | keep
deriving DecidableEq, Repr

def chomping? : Option Char → Option Chomping
  | some '+' => some .keep
  | some '-' => some .strip
  | _ => none

/-- The digit that gives a block's indentation, and the place after it. Zero is none. -/
def takeIncrement (c : Cursor) : Except Fault (Found (Option Nat)) :=
  match c.peek? with
  | some ch =>
    if '0' ≤ ch && ch ≤ '9' then
      if ch = '0' then malformed else .ok (some (ch.toNat - 48), c.step)
    else .ok (none, c)
  | none => .ok (none, c)

/-- The signs in a block's first line. -/
def takeHeader (c : Cursor) : Except Fault (Found (Chomping × Option Nat)) := do
  let (chomping, increment, c) ← match chomping? c.peek? with
    | some chomping => do
      let (increment, c) ← takeIncrement c.step
      pure (chomping, increment, c)
    | none => do
      let (increment, c) ← takeIncrement c
      match increment, chomping? c.peek? with
      | some n, some chomping => pure (chomping, some n, c.step)
      | increment, _ => pure (.clip, increment, c)
  if !endsField c.peek? then malformed
  let c := c.skipSpaces.skipComment
  if !endsLine c.peek? then malformed
  return ((chomping, increment), c.skipBreak)

/-- Goes over spaces while the column is less than `indent`. -/
def skipIndent (indent : Nat) : Nat → Cursor → Cursor
  | 0, c => c
  | fuel + 1, c => if c.column < indent && c.at_ ' ' then skipIndent indent fuel c.step else c

/-- The breaks of empty lines in a block, and the place after the indentation that follows them. -/
def blockBreaks (indent : Nat) : Nat → List Char → Cursor → Found (List Char)
  | 0, before, c => (before.reverse, c)
  | fuel + 1, before, c =>
    let c := skipIndent indent (c.rest.length + 1) c
    match c.takeBreak? with
    | some (b, c) => blockBreaks indent fuel (b :: before) c
    | none => (before.reverse, c)

/-- The breaks of empty lines at the start of a block, and the largest column that spaces reach. -/
def blockStart : Nat → List Char → Nat → Cursor → Found (List Char × Nat)
  | 0, before, widest, c => ((before.reverse, widest), c)
  | fuel + 1, before, widest, c =>
    if c.at_ ' ' then blockStart fuel before (max widest c.step.column) c.step
    else
      match c.takeBreak? with
      | some (b, c) => blockStart fuel (b :: before) widest c
      | none => ((before.reverse, widest), c)

/-- The lines of a block from a place on, where `breaks` were before it: the text, the last break and
the breaks after it. -/
def blockLines (fold : Bool) (indent : Nat) :
    Nat → List Char → Cursor → Found (List Char × List Char × List Char)
  | 0, breaks, c => (([], [], breaks), c)
  | fuel + 1, breaks, c =>
    if c.column = indent && !c.rest.isEmpty then
      let textFirst := !c.peek?.any isBlank
      let (line, c) := c.takeWhile fun ch => !isBreak ch
      let (last, c) : List Char × Cursor := match c.takeBreak? with
        | some (b, c) => ([b], c)
        | none => ([], c)
      let (others, c) := blockBreaks indent (c.rest.length + 1) [] c
      if c.column = indent && !c.rest.isEmpty then
        let joint :=
          if fold && last == ['\n'] && textFirst && !c.peek?.any isBlank then
            (if others.isEmpty then [' '] else [])
          else last
        let ((more, tail), c) := blockLines fold indent fuel others c
        ((breaks ++ line ++ joint ++ more, tail), c)
      else ((breaks ++ line, last, others), c)
    else (([], [], breaks), c)

/-- A block scalar, from its sign on. Its lines are indented by more than `indent`. -/
def takeBlock (fold : Bool) (indent : Int) (c : Cursor) : Except Fault (Found (List Char)) := do
  let ((chomping, increment), c) ← takeHeader c.step
  let least := (max 1 (indent + 1)).toNat
  let ((breaks, width), c) := match increment with
    | none =>
      let ((breaks, widest), c) := blockStart (c.rest.length + 1) [] 0 c
      ((breaks, max least widest), c)
    | some n =>
      let width := least + n - 1
      let (breaks, c) := blockBreaks width (c.rest.length + 1) [] c
      ((breaks, width), c)
  let ((text, last, others), c) := blockLines fold width (c.rest.length + 1) breaks c
  let tail := match chomping with
    | .strip => []
    | .clip => last
    | .keep => last ++ others
  return (text ++ tail, c)

end Tripwire.Yaml
