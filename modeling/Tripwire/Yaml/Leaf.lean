import Tripwire.Text.Lettercase
import Tripwire.Value.Number
import Tripwire.Value.Text
import Tripwire.Yaml.Node.Implicit

/-!
# The values of scalars

How the text of a scalar is read under its tag. A tag that was given by hand may stand on any text, so
each reader refuses what it cannot read.
-/

namespace Tripwire.Yaml

open Time (Clock Date Moment Offset)

/-! ### Numbers -/

/-- The value of a digit in bases up to 36. -/
def baseDigit? (base : Nat) (c : Char) : Option Nat :=
  let n := c.toNat
  let d? :=
    if '0' ≤ c && c ≤ '9' then some (n - 48)
    else if 'a' ≤ c && c ≤ 'z' then some (n - 87)
    else if 'A' ≤ c && c ≤ 'Z' then some (n - 55)
    else none
  d?.filter (· < base)

/-- The letter that may stand after a zero before digits of a base. -/
def baseLetter (base : Nat) : List Char :=
  match base with
  | 2 => ['b', 'B']
  | 8 => ['o', 'O']
  | _ => ['x', 'X']

/-- The whole number that text writes in base 2, 8 or 16. -/
def readInBase? (base : Nat) (s : String) : Option Int := do
  let (negative, body) := Decimal.takeSign (Decimal.plainChars s)
  let digits := match body with
    | '0' :: letter :: rest => if letter ∈ baseLetter base then rest else body
    | _ => body
  if digits.isEmpty then none
  let n ← digits.foldlM (fun n c => (baseDigit? base c).map fun d => base * n + d) 0
  some (if negative then -(n : Int) else n)

/-- A whole number in base 2, 8 or 16. -/
def wholeInBase (base : Nat) (cs : List Char) : Except Fault Int :=
  let s := String.ofList cs
  match readInBase? base s with
  | some n => .ok n
  | none => .error (.badWhole base (Text.quoted s))

def wholeInTen (cs : List Char) : Except Fault Int := (Value.text (String.ofList cs)).toWhole

def realOf (cs : List Char) : Except Fault Float := (Value.text (String.ofList cs)).toReal

/-- The sign of a number's text without low lines, and what follows it. -/
def signed (cs : List Char) : Except Fault (Bool × List Char) :=
  match cs.filter (· ≠ '_') with
  | [] => .error .emptyNumber
  | cs => .ok (Decimal.takeSign cs)

/-- A whole number: binary, octal, decimal, hexadecimal, or decimal parts of sixty. -/
def wholeValue (s : String) : Except Fault Int := do
  let (negative, body) ← signed s.toList
  let magnitude ← match body with
    | [] => .error .emptyNumber
    | ['0'] => .ok 0
    | '0' :: 'b' :: digits => wholeInBase 2 digits
    | '0' :: 'x' :: digits => wholeInBase 16 digits
    | '0' :: _ => wholeInBase 8 body
    | _ =>
      if ':' ∈ body then do
        let parts ← (Text.pieces ':' [] body).mapM wholeInTen
        pure (parts.foldl (fun n part => 60 * n + part) 0)
      else wholeInTen body
  return if negative then -magnitude else magnitude

/-- The sum of parts of sixty, the last one first. -/
def sixtieths : List Float → Nat → Float → Float
  | [], _, sum => sum
  | part :: rest, base, sum => sixtieths rest (base * 60) (sum + part * Float.ofNat base)

/-- A real number, a word for infinity or for no number, or parts of sixty. -/
def realValue (s : String) : Except Fault Float := do
  let (negative, body) ← signed (Text.lowercase s).toList
  let text := String.ofList body
  let flip (x : Float) : Float := if negative then -x else x
  if text = ".inf" then return flip (Float.ofBits 0x7ff0000000000000)
  else if text = ".nan" then return Float.ofBits 0x7ff8000000000000
  else if ':' ∈ body then
    let parts ← (Text.pieces ':' [] body).mapM realOf
    return flip (sixtieths parts.reverse 1 0.0)
  else
    let x ← realOf body
    return flip x

/-! ### Timestamps -/

def dateFault : Time.DateError → Fault
  | .year given => .field (.year given)
  | .month => .field .month
  | .day => .field .day

/-- The fault of bad fields of a time of day. -/
def clockFault : Time.ClockError → Fault
  | .hour => .field .hour
  | .minute => .field .minute
  | .second => .field .second
  | .microsecond => .field .second

def offsetOf (west : Bool) (hours minutes : Nat) : Except Fault Offset :=
  let micros : Int := ((hours * 60 + minutes) * 60000000 : Nat)
  let micros := if west then -micros else micros
  match Offset.ofMicros? micros with
  | some o => .ok o
  | none => .error (.field (.offset (spanText micros)))

/-- The microseconds that the digits of a fraction stand for. Those after the sixth are left out. -/
def fractionMicros (ds : List Char) : Nat :=
  let kept := ds.take 6
  Decimal.digitsValue kept * Nat.pow 10 (6 - kept.length)

/-- A date, or a moment if there is a time. -/
def timestampValue (s : String) : Except Fault Value := do
  match readStamp? s.toList with
  | none => .error .notATimestamp
  | some stamp =>
    match stamp.time with
    | none =>
      let date ← (Date.ofFields stamp.year stamp.month stamp.day).mapError dateFault
      return .date date
    | some (hour, minute, second) =>
      let offset ← match stamp.offset with
        | none => pure none
        | some none => pure (some Offset.utc)
        | some (some (west, hours, minutes)) => (offsetOf west hours minutes).map some
      let date ← (Date.ofFields stamp.year stamp.month stamp.day).mapError dateFault
      let clock ← (Clock.ofFields hour minute second (fractionMicros stamp.fraction)).mapError
        clockFault
      return .moment ⟨date, clock, offset⟩

/-! ### Bytes -/

/-- The value of a digit in base 64. -/
def digit64? (c : Char) : Option Nat :=
  let n := c.toNat
  if 'A' ≤ c && c ≤ 'Z' then some (n - 65)
  else if 'a' ≤ c && c ≤ 'z' then some (n - 71)
  else if '0' ≤ c && c ≤ '9' then some (n + 4)
  else if c = '+' then some 62
  else if c = '/' then some 63
  else none

/-- The bytes that digits in base 64 write. `place` digits of a group of four are read, `left` is what
the last of them leaves over, `pads` counts the signs that fill a group up. Other characters are passed
over; a group that is not filled up is refused. -/
def bytes64? (place left pads : Nat) : List Char → Option (List UInt8)
  | [] => if place = 0 then some [] else none
  | c :: rest =>
    if c = '=' then
      if 2 ≤ place && 4 ≤ place + pads + 1 then some []
      else bytes64? place left (if 2 ≤ place then pads + 1 else pads) rest
    else
      match digit64? c with
      | none => bytes64? place left pads rest
      | some d =>
        match place with
        | 0 => bytes64? 1 d 0 rest
        | 1 => (bytes64? 2 (d % 16) 0 rest).map (UInt8.ofNat (left * 4 + d / 16) :: ·)
        | 2 => (bytes64? 3 (d % 4) 0 rest).map (UInt8.ofNat (left * 16 + d / 4) :: ·)
        | _ => (bytes64? 0 0 0 rest).map (UInt8.ofNat (left * 64 + d) :: ·)

/-- Bytes written in base 64. -/
def bytesValue (s : String) : Except Fault Value :=
  if s.toList.all fun c => c.toNat < 128 then
    match bytes64? 0 0 0 s.toList with
    | some bs => .ok (.bytes bs)
    | none => .error .badDocument
  else .error .badDocument

/-! ### Scalars -/

/-- The words for truth values, in lower case. -/
def truthValue? (word : String) : Option Bool :=
  if word ∈ ["yes", "true", "on"] then some true
  else if word ∈ ["no", "false", "off"] then some false
  else none

/-- The value of a scalar's text under a tag. A tag of collections has none. -/
def scalarValue (tag : Tag) (s : String) : Except Fault Value :=
  match tag with
  | .null => .ok .null
  | .bool =>
    match truthValue? (Text.lowercase s) with
    | some b => .ok (.bool b)
    | none => .error (.unknownWord (Text.quoted (Text.lowercase s)))
  | .int => (wholeValue s).map .int
  | .float => (realValue s).map .float
  | .timestamp => timestampValue s
  | .binary => bytesValue s
  | .str => .ok (.text s)
  | .seq | .map | .merge | .value | .other _ => .error .badDocument

end Tripwire.Yaml
