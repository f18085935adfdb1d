import Tripwire.Decimal.Reader
import Tripwire.Text.Split
import Tripwire.Time.Moment
import Tripwire.Yaml.Node

/-!
# What plain text stands for

A plain scalar without a tag is null, a truth value, a number or a timestamp if it has the form of one,
and text otherwise.
-/

namespace Tripwire.Yaml

open Decimal (isAsciiDigit)

def isDigitOrLow (c : Char) : Bool := isAsciiDigit c || c == '_'

def dropSign (cs : List Char) : List Char := (Decimal.takeSign cs).2

/-- Whether a test holds for all of some characters, of which there is at least one. -/
def someAll (p : Char → Bool) (cs : List Char) : Bool := !cs.isEmpty && cs.all p

def isDigitRun (cs : List Char) : Bool := cs.head?.any isAsciiDigit && cs.all isDigitOrLow

def isSixtieth (cs : List Char) : Bool :=
  match cs with
  | [a] => isAsciiDigit a
  | [a, b] => '0' ≤ a && a ≤ '5' && isAsciiDigit b
  | _ => false

/-- Whether text without its sign is a whole number: binary, octal, decimal, hexadecimal, or decimal
parts of sixty between colons. -/
def isWholeBody (cs : List Char) : Bool :=
  let lowOr (p : Char → Bool) (c : Char) : Bool := p c || c == '_'
  match cs with
  | '0' :: 'b' :: ds => someAll (lowOr fun c => c == '0' || c == '1') ds
  | '0' :: 'x' :: ds =>
    someAll (lowOr fun c => isAsciiDigit c || ('a' ≤ c && c ≤ 'f') || ('A' ≤ c && c ≤ 'F')) ds
  | ['0'] => true
  | '0' :: ds => someAll (lowOr fun c => '0' ≤ c && c ≤ '7') ds
  | cs =>
    match Text.pieces ':' [] cs with
    | first :: parts => isDigitRun first && parts.all isSixtieth
    | [] => false

/-- Whether text is an exponent: a letter, a sign and digits. -/
def isExponent (cs : List Char) : Bool :=
  match cs with
  | [] => true
  | e :: sign :: ds =>
    (e == 'e' || e == 'E') && (sign == '+' || sign == '-') && someAll isAsciiDigit ds
  | _ => false

/-- Whether text without its sign is a real number that begins with a digit: digits and a point, then
digits and an exponent if any; or parts of sixty with a point after the last. -/
def isRealBody (cs : List Char) : Bool :=
  let whole := cs.takeWhile (· ≠ '.')
  match cs.dropWhile (· ≠ '.') with
  | _ :: rest =>
    (isDigitRun whole && isExponent (rest.dropWhile isDigitOrLow)) ||
      (rest.all isDigitOrLow &&
        match Text.pieces ':' [] whole with
        | first :: part :: parts => isDigitRun first && (part :: parts).all isSixtieth
        | _ => false)
  | [] => false

/-- Whether text is a real number. One that begins with its point has no sign, unless it is
infinity. -/
def isReal (cs : List Char) : Bool :=
  match cs with
  | '.' :: rest =>
    (isDigitRun (rest.takeWhile isDigitOrLow) && isExponent (rest.dropWhile isDigitOrLow)) ||
      String.ofList rest ∈ ["inf", "Inf", "INF", "nan", "NaN", "NAN"]
  | cs =>
    isRealBody (dropSign cs) || (dropSign cs).head? == some '.' &&
      String.ofList (dropSign cs).tail ∈ ["inf", "Inf", "INF"]

/-! ### Timestamps -/

/-- The fields of a timestamp as written. A timestamp without a time is a date. -/
structure Stamp where
  year : Nat
  month : Nat
  day : Nat
  time : Option (Nat × Nat × Nat) := none
  /-- The digits of the fraction of a second. -/
  fraction : List Char := []
  /-- Hours and minutes of the offset and whether it is west; nothing for universal time. -/
  offset : Option (Option (Bool × Nat × Nat)) := none
  /-- Whether month and day have two digits each. -/
  wide : Bool

/-- Reads `least` to two digits. -/
def takeDigits (least : Nat) (cs : List Char) : Option (Nat × List Char) :=
  let ds := (cs.take 2).takeWhile isAsciiDigit
  if ds.length < least then none else some (Decimal.digitsValue ds, cs.drop ds.length)

def skipChar (c : Char) : List Char → Option (List Char)
  | d :: rest => if c = d then some rest else none
  | [] => none

def readOffset? (cs : List Char) : Option (Option (Option (Bool × Nat × Nat))) :=
  match cs.dropWhile fun c => c == ' ' || c == '\t' with
  | [] => if cs.isEmpty then some none else none
  | ['Z'] => some (some none)
  | sign :: rest =>
    if sign = '+' ∨ sign = '-' then do
      let (hours, rest) ← takeDigits 1 rest
      if rest.isEmpty then some (some (some (sign == '-', hours, 0)))
      else
        let rest ← skipChar ':' rest
        let (minutes, rest) ← takeDigits 2 rest
        if rest.isEmpty then some (some (some (sign == '-', hours, minutes))) else none
    else none

/-- Reads a timestamp: a date, and unless that is all a time with a fraction and an offset if any. -/
def readStamp? (cs : List Char) : Option Stamp := do
  let years := cs.take 4
  if years.length < 4 || !years.all isAsciiDigit then none
  let rest ← skipChar '-' (cs.drop 4)
  let (month, afterMonth) ← takeDigits 1 rest
  let afterHyphen ← skipChar '-' afterMonth
  let (day, afterDay) ← takeDigits 1 afterHyphen
  let wide := rest.length - afterMonth.length == 2 && afterHyphen.length - afterDay.length == 2
  let stamp : Stamp := { year := Decimal.digitsValue years, month, day, wide }
  match afterDay with
  | [] => some stamp
  | c :: rest =>
    let rest ←
      if c = 'T' ∨ c = 't' then some rest
      else if c = ' ' ∨ c = '\t' then some (rest.dropWhile fun c => c == ' ' || c == '\t')
      else none
    let (hour, rest) ← takeDigits 1 rest
    let rest ← skipChar ':' rest
    let (minute, rest) ← takeDigits 2 rest
    let rest ← skipChar ':' rest
    let (second, rest) ← takeDigits 2 rest
    let (fraction, rest) := match rest with
      | '.' :: more => (more.takeWhile isAsciiDigit, more.dropWhile isAsciiDigit)
      | rest => ([], rest)
    let offset ← readOffset? rest
    some { stamp with time := some (hour, minute, second), fraction, offset }

/-- Whether plain text is a timestamp. A date alone has two digits for the month and for the day. -/
def isTimestamp (cs : List Char) : Bool :=
  match readStamp? cs with
  | some s => s.time.isSome || s.wide
  | none => false

/-! ### Tags -/

def nullWords : List String := ["", "~", "null", "Null", "NULL"]

def truthWords : List String :=
  ["yes", "Yes", "YES", "no", "No", "NO", "true", "True", "TRUE", "false", "False", "FALSE", "on",
    "On", "ON", "off", "Off", "OFF"]

/-- The tag that plain text has without being given one. -/
def Tag.ofPlain (s : String) : Tag :=
  let cs := s.toList
  if s ∈ nullWords then .null
  else if s ∈ truthWords then .bool
  else if s = "<<" then .merge
  else if s = "=" then .value
  else if isReal cs then .float
  else if isWholeBody (dropSign cs) then .int
  else if isTimestamp cs then .timestamp
  else .str

end Tripwire.Yaml
