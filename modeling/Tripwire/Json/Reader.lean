import Tripwire.Decimal.Reader
import Tripwire.Text.Encoding
import Tripwire.Text.Split
import Tripwire.Value.Basic

/-!
# JSON texts

From the text of a JSON document to its value. Besides the standard the words `NaN`, `Infinity` and
`-Infinity` are numbers. Of several entries with one key the last counts. A number with a fraction or
an exponent is a double, any other a whole number. `list_events` of `failfast.events.cluster` reads the
bodies of responses so (line 59).
-/

namespace Tripwire.Json

/-- Why a text is no JSON document. -/
inductive Error where
  | malformed
  | tooManyDigits (digits : Nat)
deriving DecidableEq, Repr

/-- What a reader found, and the characters after it. -/
abbrev Found (α : Type) := α × List Char

def isSpace (c : Char) : Bool := c == ' ' || c == '\t' || c == '\n' || c == '\r'

def skipSpace (cs : List Char) : List Char := cs.dropWhile isSpace

def hexValue? (c : Char) : Option Nat :=
  if '0' ≤ c && c ≤ '9' then some (c.toNat - 48)
  else if 'a' ≤ c && c ≤ 'f' then some (c.toNat - 87)
  else if 'A' ≤ c && c ≤ 'F' then some (c.toNat - 55)
  else none

def readHex4? : List Char → Option (Nat × List Char)
  | a :: b :: c :: d :: rest => do
    let a ← hexValue? a
    let b ← hexValue? b
    let c ← hexValue? c
    let d ← hexValue? d
    some (((a * 16 + b) * 16 + c) * 16 + d, rest)
  | _ => none

/-- The character that one letter after a backslash stands for. -/
def escape? : Char → Option Char
  | '"' => some '"'
  | '\\' => some '\\'
  | '/' => some '/'
  | 'b' => some '\x08'
  | 'f' => some '\x0c'
  | 'n' => some '\n'
  | 'r' => some '\r'
  | 't' => some '\t'
  | _ => none

/-- The code points of a text up to the closing quote, the opening one being taken already. Those
before are given in reverse order; the fuel is the number of characters. -/
def readPoints : Nat → List Nat → List Char → Except Error (Found (List Nat))
  | 0, _, _ => .error .malformed
  | _ + 1, _, [] => .error .malformed
  | fuel + 1, before, c :: rest =>
    if c = '"' then .ok (before.reverse, rest)
    else if c = '\\' then
      match rest with
      | 'u' :: rest =>
        match readHex4? rest with
        | some (n, rest) => readPoints fuel (n :: before) rest
        | none => .error .malformed
      | e :: rest =>
        match escape? e with
        | some d => readPoints fuel (d.toNat :: before) rest
        | none => .error .malformed
      | [] => .error .malformed
    else if c.toNat < 32 then .error .malformed
    else readPoints fuel (c.toNat :: before) rest

/-- A text, the opening quote being taken already. -/
def readText (cs : List Char) : Except Error (Found String) := do
  let (points, rest) ← readPoints (cs.length + 1) [] cs
  return (String.ofList (Text.ofPoints (Text.joinSurrogates points)), rest)

/-- The digits after a mark such as a point, if there are any. -/
def digitsAfter (cs : List Char) : List Char × List Char :=
  (cs.takeWhile Decimal.isAsciiDigit, cs.dropWhile Decimal.isAsciiDigit)

/-- The fraction of a number: a point and digits, if both are there. -/
def takeFraction (cs : List Char) : List Char × List Char :=
  match cs with
  | '.' :: rest =>
    let (ds, after) := digitsAfter rest
    if ds.isEmpty then ([], cs) else (ds, after)
  | _ => ([], cs)

/-- The exponent of a number: a letter, an optional sign and digits, if they are all there. -/
def takeExponent (cs : List Char) : Option Int × List Char :=
  match cs with
  | c :: rest =>
    if c = 'e' ∨ c = 'E' then
      let (negative, rest) := Decimal.takeSign rest
      let (ds, after) := digitsAfter rest
      if ds.isEmpty then (none, cs)
      else
        let n : Int := Decimal.digitsValue ds
        (some (if negative then -n else n), after)
    else (none, cs)
  | [] => (none, cs)

/-- The digits before the point: a single zero, or digits that begin with another one. -/
def takeWhole (cs : List Char) : List Char × List Char :=
  match cs with
  | '0' :: rest => (['0'], rest)
  | _ => digitsAfter cs

def readNumber (cs : List Char) : Except Error (Found Value) :=
  let (negative, body) := match cs with
    | '-' :: rest => (true, rest)
    | _ => (false, cs)
  let (whole, rest) := takeWhole body
  if whole.isEmpty then .error .malformed
  else
    let (fraction, rest) := takeFraction rest
    let (exponent, rest) := takeExponent rest
    if fraction.isEmpty && exponent.isNone then
      if Decimal.digitLimit < whole.length then .error (.tooManyDigits whole.length)
      else
        let n : Int := Decimal.digitsValue whole
        .ok (.int (if negative then -n else n), rest)
    else
      let x := Decimal.nearestDouble (Decimal.digitsValue (whole ++ fraction))
        (exponent.getD 0 - fraction.length)
      .ok (.float (if negative then -x else x), rest)

def words : List (List Char × Value) :=
  [("null".toList, .null), ("true".toList, .bool true), ("false".toList, .bool false),
    ("NaN".toList, .float (Float.ofBits 0x7ff8000000000000)),
    ("Infinity".toList, .float (Float.ofBits 0x7ff0000000000000)),
    ("-Infinity".toList, .float (Float.ofBits 0xfff0000000000000))]

def readAtom (cs : List Char) : Except Error (Found Value) :=
  match words.findSome? fun (word, v) => (Text.dropMark? word cs).map fun rest => (v, rest) with
  | some found => .ok found
  | none => readNumber cs

mutual

def readValue : Nat → List Char → Except Error (Found Value)
  | 0, _ => .error .malformed
  | fuel + 1, cs =>
    match cs with
    | '"' :: rest => do
      let (s, rest) ← readText rest
      return (.text s, rest)
    | '[' :: rest =>
      match skipSpace rest with
      | ']' :: rest => .ok (.list [], rest)
      | rest => do
        let (items, rest) ← readItems fuel [] rest
        return (.list items, rest)
    | '{' :: rest =>
      match skipSpace rest with
      | '}' :: rest => .ok (.map [] none, rest)
      | rest => do
        let (entries, rest) ← readEntries fuel [] rest
        return (.map entries none, rest)
    | cs => readAtom cs

/-- Reads the items of a list up to its end, those before being given in reverse order. -/
def readItems : Nat → List Value → List Char → Except Error (Found (List Value))
  | 0, _, _ => .error .malformed
  | fuel + 1, before, cs => do
    let (v, rest) ← readValue fuel cs
    match skipSpace rest with
    | ',' :: rest => readItems fuel (v :: before) (skipSpace rest)
    | ']' :: rest => return ((v :: before).reverse, rest)
    | _ => .error .malformed

/-- Reads the entries of a mapping up to its end. -/
def readEntries : Nat → Entries → List Char → Except Error (Found Entries)
  | 0, _, _ => .error .malformed
  | fuel + 1, before, cs =>
    match cs with
    | '"' :: rest => do
      let (key, rest) ← readText rest
      match skipSpace rest with
      | ':' :: rest =>
        let (v, rest) ← readValue fuel (skipSpace rest)
        let entries := before.put (.text key) v
        match skipSpace rest with
        | ',' :: rest => readEntries fuel entries (skipSpace rest)
        | '}' :: rest => return (entries, rest)
        | _ => .error .malformed
      | _ => .error .malformed
    | _ => .error .malformed

end

def readDocument (cs : List Char) : Except Error Value := do
  let cs := skipSpace cs
  let (v, rest) ← readValue (2 * cs.length + 2) cs
  if (skipSpace rest).isEmpty then return v else .error .malformed

end Tripwire.Json
