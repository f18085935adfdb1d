import Tripwire.Decimal.Reader
import Tripwire.Fault
import Tripwire.Text.Quoted

/-!
# Values as numbers

How a value is taken for a whole number or for a real number. Texts and byte strings are read, a real
number loses its fraction when a whole one is wanted, and null, dates, lists and mappings are no
numbers.
-/

namespace Tripwire

/-- The whole number between zero and a double that is nearest to it. -/
def truncate (x : Float) : Except Fault Int :=
  match Decimal.Double.ofFloat x with
  | .nan => .error .nanToWhole
  | .infinite _ => .error .infinityToWhole
  | .finite negative mantissa exponent =>
    let magnitude : Int := (mantissa * Nat.pow 2 exponent.toNat / Nat.pow 2 (-exponent).toNat : Nat)
    .ok (if negative then -magnitude else magnitude)

/-- The whole number in a text; `shown` is how the text is quoted when it is none. -/
def wholeOf (shown : String) (reading : Decimal.WholeReading) : Except Fault Int :=
  match reading with
  | .value n => .ok n
  | .tooLong digits => .error (.tooManyDigitsToRead digits)
  | .malformed => .error (.badWhole 10 shown)

/-- Byte strings are read as ASCII. -/
def bytesChars (bs : List UInt8) : List Char :=
  Text.trimBy (fun c => c == ' ' || (9 ≤ c.toNat && c.toNat ≤ 13)) (bs.map fun b => Char.ofNat b.toNat)

namespace Value

def toWhole : Value → Except Fault Int
  | bool b => .ok (if b then 1 else 0)
  | int n => .ok n
  | float x => truncate x
  | text s => wholeOf (Text.quoted s) (Decimal.readWhole s)
  | bytes bs => wholeOf (Text.quotedBytes bs) (Decimal.readWholeChars (bytesChars bs))
  | v => .error (.noWhole v.kind)

def toReal : Value → Except Fault Float
  | bool b => .ok (if b then 1.0 else 0.0)
  | int n =>
    match Decimal.wholeToDouble? n with
    | some x => .ok x
    | none => .error .wholeTooLarge
  | float x => .ok x
  | text s =>
    match Decimal.readReal? s with
    | some x => .ok x
    | none => .error (.badReal (Text.quoted s))
  | bytes bs =>
    match Decimal.readRealChars? (bytesChars bs) with
    | some x => .ok x
    | none => .error (.badReal (Text.quotedBytes bs))
  | v => .error (.noReal v.kind)

end Value

end Tripwire
