import Tripwire.Decimal.Reader
import Tripwire.Pattern.Source
import Tripwire.Text.CharName
import Tripwire.Text.Identifier

/-!
# Reading patterns

From the text of a pattern to its items. The reader keeps the groups that were opened so far, with
their names and, once they are closed, their widths; a reference to a group that is still open is
refused, and so is one inside a look-behind to a group of the same look-behind.
-/

namespace Tripwire.Pattern

/-- What the reader has to remember. -/
structure Reading where
  flags : Flags := {}
  /-- The widths of the groups, in order; an open group has none yet. -/
  widths : List (Option (Nat × Nat)) := []
  names : List (List Char × Nat) := []
  /-- The number of groups at the outermost look-behind that is being read. -/
  behind : Option Nat := none
  /-- The groups that conditions ask for by number. -/
  asked : List Nat := []

namespace Reading

/-- The number of groups, counting the whole pattern as group zero. -/
def groups (r : Reading) : Nat := r.widths.length + 1

def isClosed (r : Reading) (group : Nat) : Bool :=
  match group with
  | 0 => false
  | i + 1 => ((r.widths[i]?).getD none).isSome

def widthOf (r : Reading) (group : Nat) : Nat × Nat :=
  match group with
  | 0 => (0, 0)
  | i + 1 => ((r.widths[i]?).getD none).getD (0, 0)

/-- Refuses a reference from inside a look-behind to one of its own groups. -/
def checkBehind (r : Reading) (group : Nat) : Except Error Unit :=
  match r.behind with
  | none => .ok ()
  | some limit => if r.isClosed group && group < limit then .ok () else .error .malformed

def openGroup (r : Reading) (name : Option (List Char)) : Except Error (Nat × Reading) :=
  let index := r.groups
  let r := { r with widths := r.widths ++ [none] }
  match name with
  | none => .ok (index, r)
  | some n =>
    if (r.names.lookup n).isSome then .error .malformed
    else .ok (index, { r with names := (n, index) :: r.names })

def closeGroup (r : Reading) (group : Nat) (body : List Item) : Reading :=
  let width := Item.widthOfAll r.widthOf body
  { r with widths := r.widths.set (group - 1) (some width) }

end Reading

/-- A step of the reader. -/
abbrev Read (α : Type) := Source → Reading → Except Error (α × Source × Reading)

/-! ### Characters and escapes -/

def maxRepeat : Nat := 4294967295

def maxGroups : Nat := 1073741823

def isOctalDigit (c : Char) : Bool := '0' ≤ c && c ≤ '7'

/-- The value of a hexadecimal digit of ASCII. -/
def hexValue? (c : Char) : Option Nat :=
  if '0' ≤ c && c ≤ '9' then some (c.toNat - 48)
  else if 'a' ≤ c && c ≤ 'f' then some (c.toNat - 87)
  else if 'A' ≤ c && c ≤ 'F' then some (c.toNat - 55)
  else none

def numberIn (base : Nat) (cs : List Char) : Nat :=
  cs.foldl (fun n c => base * n + (hexValue? c).getD 0) 0

/-- The characters that one letter after a backslash stands for, in and out of sets. -/
def controlEscape? : Char → Option Nat
  | 'a' => some 7
  | 'b' => some 8
  | 'f' => some 12
  | 'n' => some 10
  | 'r' => some 13
  | 't' => some 9
  | 'v' => some 11
  | '\\' => some 92
  | _ => none

/-- The classes that one letter after a backslash stands for. -/
def categoryEscape? : Char → Option SetItem
  | 'd' => some (.category .digit false)
  | 'D' => some (.category .digit true)
  | 's' => some (.category .space false)
  | 'S' => some (.category .space true)
  | 'w' => some (.category .word false)
  | 'W' => some (.category .word true)
  | _ => none

/-- The places that one letter after a backslash stands for. -/
def placeEscape? : Char → Option Place
  | 'A' => some .textStart
  | 'b' => some .boundary
  | 'B' => some .notBoundary
  | 'Z' => some .textStop
  | _ => none

/-- The number of hexadecimal digits that follow the letters `x`, `u` and `U`. -/
def hexEscapeWidth? : Char → Option Nat
  | 'x' => some 2
  | 'u' => some 4
  | 'U' => some 8
  | _ => none

/-- Reads an escape of a fixed number of hexadecimal digits. -/
def readHexEscape (width : Nat) (s : Source) : Except Error (Nat × Source) := do
  let (ds, s) ← s.takeWhile (fun c => (hexValue? c).isSome) width
  let n := numberIn 16 ds
  if ds.length = width ∧ n < 0x110000 then return (n, s) else .error .malformed

def readNamedEscape (s : Source) : Except Error (Nat × Source) := do
  let (opened, s) ← s.take? '{'
  if !opened then .error .malformed
  else
    let (name, s) ← s.takeNonempty '}'
    match Text.charNamed? (String.ofList name) with
    | some n => return (n, s)
    | none => .error .malformed

/-- Reads an escape of up to two more octal digits. -/
def readOctalEscape (first : Char) (s : Source) : Except Error (Nat × Source) := do
  let (ds, s) ← s.takeWhile isOctalDigit 2
  return (numberIn 8 (first :: ds), s)

/-- What an escape stands for inside a set, the backslash and the letter being taken already. -/
def readSetEscape (c : Char) (s : Source) : Except Error (SetItem × Source) :=
  let literal (n : Nat) : SetItem := .char n
  match controlEscape? c, categoryEscape? c, hexEscapeWidth? c with
  | some n, _, _ => .ok (literal n, s)
  | _, some item, _ => .ok (item, s)
  | _, _, some width => do
    let (n, s) ← readHexEscape width s
    return (literal n, s)
  | none, none, none =>
    if c = 'N' then do
      let (n, s) ← readNamedEscape s
      return (literal n, s)
    else if isOctalDigit c then do
      let (n, s) ← readOctalEscape c s
      if n ≤ 0o377 then return (literal n, s) else .error .malformed
    else if c.isAlphanum then .error .malformed
    else .ok (literal c.toNat, s)

def readBackref (group : Nat) : Read Item := fun s r =>
  if r.isClosed group then do
    r.checkBehind group
    return (.backref group, s, r)
  else .error .malformed

/-- An escape that begins with a digit other than zero: three octal digits are a character, otherwise
one or two digits are a back reference. -/
def readDigitEscape (c : Char) : Read Item := fun s r => do
  let (more, s) ← s.takeWhile Decimal.isAsciiDigit 1
  match more with
  | [] => readBackref (numberIn 10 [c]) s r
  | d :: _ =>
    if isOctalDigit c && isOctalDigit d then
      let (last, s) ← s.takeWhile isOctalDigit 1
      match last with
      | e :: _ =>
        let n := numberIn 8 [c, d, e]
        if n ≤ 0o377 then return (.literal n, s, r) else .error .malformed
      | [] => readBackref (numberIn 10 [c, d]) s r
    else readBackref (numberIn 10 [c, d]) s r

/-- What an escape stands for outside of sets, the backslash and the letter being taken already. -/
def readEscape (c : Char) : Read Item := fun s r =>
  match placeEscape? c, categoryEscape? c, controlEscape? c, hexEscapeWidth? c with
  | some p, _, _, _ => .ok (.place p, s, r)
  | _, some item, _, _ => .ok (.set false [item], s, r)
  | _, _, some n, _ => .ok (.literal n, s, r)
  | _, _, _, some width => do
    let (n, s) ← readHexEscape width s
    return (.literal n, s, r)
  | none, none, none, none =>
    if c = '0' then do
      let (n, s) ← readOctalEscape c s
      return (.literal n, s, r)
    else if c = 'N' then do
      let (n, s) ← readNamedEscape s
      return (.literal n, s, r)
    else if Decimal.isAsciiDigit c then readDigitEscape c s r
    else if c.isAlphanum then .error .malformed
    else .ok (.literal c.toNat, s, r)

/-! ### Sets -/

/-- One end of a range or a member of a set on its own. -/
def readSetMember (symbol : Symbol) (s : Source) : Except Error (SetItem × Source) :=
  match symbol with
  | .plain c => .ok (.char c.toNat, s)
  | .escape c => readSetEscape c s

/-- The range between two members, both of which have to be single characters in order. -/
def rangeOf? : SetItem → SetItem → Option SetItem
  | .char lo, .char hi => if lo ≤ hi then some (.range lo hi) else none
  | _, _ => none

/-- The members of a set up to its closing bracket. -/
def readMembers : Nat → List SetItem → Source → Except Error (List SetItem × Source)
  | 0, _, _ => .error .malformed
  | fuel + 1, members, s =>
    match s.next with
    | none => .error .malformed
    | some symbol => do
      let s ← s.advance
      if symbol = .plain ']' ∧ members ≠ [] then return (members, s)
      let (first, s) ← readSetMember symbol s
      let (dash, s) ← s.take? '-'
      if dash then
        match s.next with
        | none => .error .malformed
        | some symbol' =>
          let s ← s.advance
          if symbol' = .plain ']' then return (members ++ [first, .char 45], s)
          let (last, s) ← readSetMember symbol' s
          match rangeOf? first last with
          | some range => readMembers fuel (members ++ [range]) s
          | none => .error .malformed
      else readMembers fuel (members ++ [first]) s

/-- The set with the given members, once each. A single character is an item of its own. -/
def setOf (negated : Bool) (members : List SetItem) : Item :=
  match members.eraseDups with
  | [.char c] => if negated then .notLiteral c else .literal c
  | unique => .set negated unique

/-- A set, the opening bracket being taken already. -/
def readSet (s : Source) : Except Error (Item × Source) := do
  let (negated, s) ← s.take? '^'
  let (members, s) ← readMembers (s.budget + 1) [] s
  return (setOf negated members, s)

/-! ### Repetitions -/

/-- The bounds of a repetition. -/
structure Bounds where
  min : Nat
  max : Option Nat

/-- The bounds in braces, the opening brace being taken already. Nothing is taken unless the braces
hold bounds. -/
def readBounds (s : Source) : Except Error (Option Bounds × Source) := do
  let start := s
  let (lo, s) ← s.takeWhile Decimal.isAsciiDigit s.budget
  let (comma, s) ← s.take? ','
  let (hi, s) ← if comma then s.takeWhile Decimal.isAsciiDigit s.budget else .ok (lo, s)
  let (closed, s) ← s.take? '}'
  if !closed then return (none, start)
  if Decimal.digitLimit < lo.length then .error (.tooManyDigits lo.length)
  let min := numberIn 10 lo
  let max := numberIn 10 hi
  if maxRepeat ≤ min then .error .repetitionTooLarge
  else if Decimal.digitLimit < hi.length then .error (.tooManyDigits hi.length)
  else if hi.isEmpty then return (some ⟨min, none⟩, s)
  else if maxRepeat ≤ max then .error .repetitionTooLarge
  else if max < min then .error .malformed
  else return (some ⟨min, some max⟩, s)

/-- What is repeated: a plain group gives its content. -/
def repeatedBody : Item → List Item
  | .group none add del body => if add = {} ∧ del = {} then body else [.group none add del body]
  | item => [item]

def Item.isRepeatable : Item → Bool
  | .place _ | .repeat _ _ _ _ => false
  | _ => true

/-- Repeats the last item. The items are in reverse order. -/
def readRepeat (bounds : Bounds) (items : List Item) (s : Source) : Except Error (List Item × Source) :=
  match items with
  | [] => .error .malformed
  | last :: before =>
    if !last.isRepeatable then .error .malformed
    else do
      let (lazy, s) ← s.take? '?'
      let (possessive, s) ← if lazy then .ok (false, s) else s.take? '+'
      let greed : Greed := if lazy then .lazy else if possessive then .possessive else .greedy
      return (.repeat greed bounds.min bounds.max (repeatedBody last) :: before, s)

/-! ### Flags -/

def flagOf? : Char → Option Flags
  | 'i' => some { ignoreCase := true }
  | 'm' => some { multiline := true }
  | 's' => some { dotAll := true }
  | 'x' => some { verbose := true }
  | 'a' => some { ascii := true }
  | 't' => some { template := true }
  | 'u' => some { unicode := true }
  | _ => none

/-- The flags that are turned on, up to the symbol that ends them, which is taken too. The letter `L`
is a flag that no text pattern may have. -/
def readFlagsOn : Nat → Char → Flags → Source → Except Error (Flags × Char × Source)
  | 0, _, _, _ => .error .malformed
  | fuel + 1, c, flags, s =>
    match flagOf? c with
    | none => .error .malformed
    | some flag =>
      let flags := flags.union flag
      if flag.choosesAlphabet && flags.ascii && flags.unicode then .error .malformed
      else
        match s.next with
        | some (.plain c) => do
          let s ← s.advance
          if c = ')' ∨ c = '-' ∨ c = ':' then return (flags, c, s)
          readFlagsOn fuel c flags s
        | _ => .error .malformed

/-- The flags that are turned off, up to the colon, which is taken too. -/
def readFlagsOff : Nat → Char → Flags → Source → Except Error (Flags × Source)
  | 0, _, _, _ => .error .malformed
  | fuel + 1, c, flags, s =>
    match flagOf? c with
    | none => .error .malformed
    | some flag =>
      if flag.choosesAlphabet then .error .malformed
      else
        let flags := flags.union flag
        match s.next with
        | some (.plain c) => do
          let s ← s.advance
          if c = ':' then return (flags, s)
          readFlagsOff fuel c flags s
        | _ => .error .malformed

/-- Flags after `(?`: for the whole pattern, or for a group. -/
inductive FlagScope where
  | whole (add : Flags)
  | group (add del : Flags)

/-- Reads flags, their first symbol being taken already. -/
def readFlags (first : Char) (s : Source) : Except Error (FlagScope × Source) := do
  let (add, stop, s) ←
    if first = '-' then .ok ({}, '-', s) else readFlagsOn (s.budget + 1) first {} s
  if stop = ')' then return (.whole add, s)
  if add.template then .error .malformed
  let (del, s) ←
    if stop = '-' then
      match s.next with
      | some (.plain c) => do
        let s ← s.advance
        readFlagsOff (s.budget + 1) c {} s
      | _ => .error .malformed
    else .ok ({}, s)
  if del.template || add.meets del then .error .malformed
  return (.group add del, s)

/-! ### Groups -/

/-- The kinds of groups, as their first symbols tell. -/
inductive Opening where
  | capture (name : Option (List Char))
  | plain (add del : Flags)
  | atomic
  | look (behind negated : Bool)
  | conditional (group : Nat)
  | backref (group : Nat)
  | comment
  | flags (add : Flags)

/-- The group that a condition asks for: a name, or a number that may be that of a later group. -/
def readCondition (name : List Char) : Read Nat := fun s r => do
  let (group, r) ←
    if Text.isIdentifier name then
      match r.names.lookup name with
      | some group => .ok (group, r)
      | none => .error .malformed
    else
      match Decimal.readWhole (String.ofList name) with
      | .value (.ofNat (n + 1)) =>
        if n + 1 < maxGroups then .ok (n + 1, { r with asked := (n + 1) :: r.asked })
        else .error .malformed
      | _ => .error .malformed
  r.checkBehind group
  return (group, s, r)

/-- Passes over a comment and the bracket that closes it. -/
def skipComment : Nat → Source → Except Error Source
  | 0, _ => .error .malformed
  | fuel + 1, s =>
    match s.next with
    | none => .error .malformed
    | some symbol => do
      let s ← s.advance
      if symbol = .plain ')' then return s else skipComment fuel s

/-- What follows `(?P`. -/
def readNamed : Read Opening := fun s r => do
  let (named, s) ← s.take? '<'
  if named then
    let (name, s) ← s.takeNonempty '>'
    if Text.isIdentifier name then return (.capture (some name), s, r) else .error .malformed
  else
    let (refers, s) ← s.take? '='
    if !refers then .error .malformed
    else
      let (name, s) ← s.takeNonempty ')'
      match r.names.lookup name with
      | some group =>
        if r.isClosed group then
          r.checkBehind group
          return (.backref group, s, r)
        else .error .malformed
      | none => .error .malformed

/-- The first symbols of a group, the opening bracket being taken already. -/
def readOpening : Read Opening := fun s r => do
  let (special, s) ← s.take? '?'
  if !special then return (.capture none, s, r)
  match s.next with
  | some (.plain c) =>
    let s ← s.advance
    if c = 'P' then readNamed s r
    else if c = ':' then return (.plain {} {}, s, r)
    else if c = '#' then
      let s ← skipComment (s.budget + 1) s
      return (.comment, s, r)
    else if c = '=' then return (.look false false, s, r)
    else if c = '!' then return (.look false true, s, r)
    else if c = '<' then
      let (positive, s) ← s.take? '='
      if positive then return (.look true false, s, r)
      let (negative, s) ← s.take? '!'
      if negative then return (.look true true, s, r) else .error .malformed
    else if c = '(' then
      let (name, s) ← s.takeNonempty ')'
      let (group, s, r) ← readCondition name s r
      return (.conditional group, s, r)
    else if c = '>' then return (.atomic, s, r)
    else if (flagOf? c).isSome || c = '-' then
      match ← readFlags c s with
      | (.whole add, s) => return (.flags add, s, r)
      | (.group add del, s) => return (.plain add del, s, r)
    else .error .malformed
  | _ => .error .malformed

def closeBracket (s : Source) : Except Error Source :=
  if s.sees ')' then s.advance else .error .malformed

/-! ### Sequences and choices -/

/-- Plain groups in a sequence give way to their contents. -/
def unwrap (items : List Item) : List Item :=
  items.flatMap fun
    | .group none add del body => if add = {} ∧ del = {} then body else [.group none add del body]
    | item => [item]

/-- Takes a common first item off all alternatives, as often as there is one. -/
def commonStart : Nat → List (List Item) → List Item × List (List Item)
  | 0, alternatives => ([], alternatives)
  | fuel + 1, alternatives =>
    match alternatives with
    | (first :: _) :: _ =>
      if alternatives.all fun items => (items.head?.map first.sameLeaf).getD false then
        let (start, rest) := commonStart fuel (alternatives.map List.tail)
        (first :: start, rest)
      else ([], alternatives)
    | _ => ([], alternatives)

/-- The members of a set that an alternative stands for, if it is a single character or set. -/
def membersOf? : List Item → Option (List SetItem)
  | [.literal c] => some [.char c]
  | [.set false members] => some members
  | _ => none

/-- A choice between alternatives. A single one is itself; a common start stands before the choice;
single characters and sets together are one set. -/
def choice (alternatives : List (List Item)) : List Item :=
  match alternatives with
  | [items] => items
  | _ =>
    let budget := alternatives.flatten.length
    let (start, rest) := commonStart budget alternatives
    match rest.mapM membersOf? with
    | some members => start ++ [.set false members.flatten.eraseDups]
    | none => start ++ [.branch rest]

/-- Whether a character is passed over between the items of a verbose pattern. -/
def isVerboseBlank (c : Char) : Bool := c == ' ' || (9 ≤ c.toNat && c.toNat ≤ 13)

def skipLine : Nat → Source → Except Error Source
  | 0, s => .ok s
  | fuel + 1, s =>
    match s.next with
    | none => .ok s
    | some symbol => do
      let s ← s.advance
      if symbol = .plain '\n' then return s else skipLine fuel s

mutual

/-- Reads alternatives up to a closing bracket or the end. Only the first alternative of the whole
pattern may set flags for all of it. -/
def readChoice (top : Bool) : Nat → Bool → List (List Item) → Read (List Item)
  | 0, _, _ => fun _ _ => .error .malformed
  | fuel + 1, verbose, before => fun s r => do
    let (items, s, r) ← readSequence (top && before.isEmpty) fuel verbose [] s r
    let alternatives := before ++ [items]
    let (more, s) ← s.take? '|'
    if more then
      readChoice top fuel (if top then r.flags.verbose else verbose) alternatives s r
    else return (choice alternatives, s, r)

/-- Reads the items of a sequence; those before, in reverse order, are given. -/
def readSequence (first : Bool) : Nat → Bool → List Item → Read (List Item)
  | 0, _, _ => fun _ _ => .error .malformed
  | fuel + 1, verbose, items => fun s r =>
    match s.next with
    | none => .ok (unwrap items.reverse, s, r)
    | some (.escape c) => do
      let s ← s.advance
      let (item, s, r) ← readEscape c s r
      readSequence first fuel verbose (item :: items) s r
    | some (.plain c) =>
      if c = '|' ∨ c = ')' then .ok (unwrap items.reverse, s, r)
      else do
        let s ← s.advance
        if verbose && isVerboseBlank c then readSequence first fuel verbose items s r
        else if verbose && c = '#' then
          let s ← skipLine (s.budget + 1) s
          readSequence first fuel verbose items s r
        else if c = '[' then
          let (item, s) ← readSet s
          readSequence first fuel verbose (item :: items) s r
        else if c = '?' then
          let (items, s) ← readRepeat ⟨0, some 1⟩ items s
          readSequence first fuel verbose items s r
        else if c = '*' then
          let (items, s) ← readRepeat ⟨0, none⟩ items s
          readSequence first fuel verbose items s r
        else if c = '+' then
          let (items, s) ← readRepeat ⟨1, none⟩ items s
          readSequence first fuel verbose items s r
        else if c = '{' then
          if s.sees '}' then readSequence first fuel verbose (.literal c.toNat :: items) s r
          else
            match ← readBounds s with
            | (none, s) => readSequence first fuel verbose (.literal c.toNat :: items) s r
            | (some bounds, s) =>
              let (items, s) ← readRepeat bounds items s
              readSequence first fuel verbose items s r
        else if c = '.' then readSequence first fuel verbose (.any :: items) s r
        else if c = '^' then readSequence first fuel verbose (.place .start :: items) s r
        else if c = '$' then readSequence first fuel verbose (.place .stop :: items) s r
        else if c = '(' then
          match ← readOpening s r with
          | (.comment, s, r) => readSequence first fuel verbose items s r
          | (.backref group, s, r) => readSequence first fuel verbose (.backref group :: items) s r
          | (.flags add, s, r) =>
            let r := { r with flags := r.flags.union add }
            if first && items.isEmpty then readSequence first fuel r.flags.verbose items s r
            else .error .malformed
          | (.look behind negated, s, r) =>
            let outer := r.behind
            let r := if behind then { r with behind := some (outer.getD r.groups) } else r
            let (body, s, r) ← readChoice false fuel verbose [] s r
            let r := if behind then { r with behind := outer } else r
            let s ← closeBracket s
            readSequence first fuel verbose (.look behind negated body :: items) s r
          | (.conditional group, s, r) =>
            let (yes, s, r) ← readSequence false fuel verbose [] s r
            let (more, s) ← s.take? '|'
            let (no, s, r) ← if more then readSequence false fuel verbose [] s r else .ok ([], s, r)
            let s ← closeBracket s
            readSequence first fuel verbose (.conditional group yes no :: items) s r
          | (.atomic, s, r) =>
            let (body, s, r) ← readChoice false fuel verbose [] s r
            let s ← closeBracket s
            readSequence first fuel verbose (.atomic body :: items) s r
          | (.plain add del, s, r) =>
            let (body, s, r) ←
              readChoice false fuel ((verbose || add.verbose) && !del.verbose) [] s r
            let s ← closeBracket s
            readSequence first fuel verbose (.group none add del body :: items) s r
          | (.capture name, s, r) =>
            let (index, r) ← r.openGroup name
            let (body, s, r) ← readChoice false fuel verbose [] s r
            let s ← closeBracket s
            let r := r.closeGroup index body
            readSequence first fuel verbose (.group (some index) {} {} body :: items) s r
        else readSequence first fuel verbose (.literal c.toNat :: items) s r

end

/-- A pattern that was read: its items, its flags and the widths of its groups. -/
structure Parsed where
  items : List Item
  flags : Flags
  groups : Nat
  widthOf : Nat → Nat × Nat

def parse (text : String) : Except Error Parsed := do
  let s ← Source.ofChars text.toList
  let (items, s, r) ← readChoice true (4 * text.length + 8) false [] s {}
  if r.flags.ascii && r.flags.unicode then .error .alphabetsConflict
  else if s.next.isSome then .error .malformed
  else if r.asked.any (r.groups ≤ ·) then .error .malformed
  else
    let flags := if r.flags.ascii then r.flags else { r.flags with unicode := true }
    return { items, flags, groups := r.groups, widthOf := r.widthOf }

end Tripwire.Pattern
