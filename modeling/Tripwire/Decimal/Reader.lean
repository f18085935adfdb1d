import Tripwire.Text.Ranges

/-!
# Reading numbers from text

A whole number is an optional sign and digits; a real number may also have a point, an exponent, or
be one of the words for infinity and "not a number". Blanks around the number are dropped, single low
lines may stand between digits, and the digits of every script count.
-/

namespace Tripwire.Decimal

/-- The blanks that may stand around a number: the six of ASCII and all blanks beyond ASCII. -/
def isPadding (c : Char) : Bool :=
  if c.toNat < 127 then c == ' ' || (9 ≤ c.toNat && c.toNat ≤ 13) else Text.isBlank c

/-- The digits of every script become ASCII digits; other characters beyond ASCII stand for nothing. -/
def plainChar (c : Char) : Char :=
  if c.toNat < 127 then c
  else match Text.digitValue? c with
    | some d => Char.ofNat (48 + d)
    | none => '?'

/-- The text of a number without the blanks around it, in ASCII. -/
def plainChars (s : String) : List Char := (Text.trimBy isPadding s.toList).map plainChar

/-- The sign at the front (`true` for minus) and what follows it. -/
def takeSign : List Char → Bool × List Char
  | '-' :: rest => (true, rest)
  | '+' :: rest => (false, rest)
  | cs => (false, cs)

/-- The number written by ASCII digits, the most significant first. -/
def digitsValue (cs : List Char) : Nat :=
  cs.foldl (fun n c => 10 * n + (Text.asciiDigit? c).getD 0) 0

def isAsciiDigit (c : Char) : Bool := '0' ≤ c && c ≤ '9'

/-- Drops the low lines of a run of digits, or refuses it: a low line stands between two digits. -/
def joinDigits? : List Char → Option (List Char)
  | [] => none
  | [c] => if isAsciiDigit c then some [c] else none
  | c :: '_' :: rest => if isAsciiDigit c then (joinDigits? rest).map (c :: ·) else none
  | c :: rest => if isAsciiDigit c then (joinDigits? rest).map (c :: ·) else none

/-- Reads a whole number. The digits are counted before anything else is judged, so the result is
the number, or the count of digits when it passes `limit`, or nothing. -/
inductive WholeReading where
  | value (n : Int)
  | tooLong (digits : Nat)
  | malformed
deriving DecidableEq, Repr

/-- The longest decimal that is read or written as a whole number. -/
def digitLimit : Nat := 4300

/-- Reads a whole number from text in ASCII. -/
def readWholeChars (cs : List Char) : WholeReading :=
  let (negative, body) := takeSign cs
  let run := body.takeWhile fun c => isAsciiDigit c || c == '_'
  let count := (run.filter isAsciiDigit).length
  match joinDigits? body with
  | some ds =>
    if digitLimit < count then .tooLong count
    else .value (if negative then -(digitsValue ds : Int) else digitsValue ds)
  | none =>
    if digitLimit < count && (joinDigits? run).isSome then .tooLong count else .malformed

def readWhole (s : String) : WholeReading := readWholeChars (plainChars s)

/-- The double nearest to `digits * 10 ^ exponent`. Beyond the range of doubles the magnitude is
settled by the exponent of the first digit. -/
def nearestDouble (digits : Nat) (exponent : Int) : Float :=
  if digits = 0 then 0.0
  else
    let top : Int := (toString digits).length + exponent
    if 400 < top then Float.ofBits 0x7ff0000000000000
    else if top < -400 then 0.0
    else if 0 ≤ exponent then Float.ofScientific digits false exponent.toNat
    else Float.ofScientific digits true (-exponent).toNat

/-- Drops single low lines that stand between digits; any other low line makes the text unreadable. -/
def dropLowLines? : Char → List Char → Option (List Char)
  | _, [] => some []
  | prev, '_' :: rest =>
    match rest with
    | next :: _ =>
      if isAsciiDigit prev && isAsciiDigit next then dropLowLines? '_' rest else none
    | [] => none
  | _, c :: rest => (dropLowLines? c rest).map (c :: ·)

/-- The words for infinity and for "not a number", in lower case. -/
def specialReal? (cs : List Char) : Option Float :=
  let word := String.ofList (cs.map Char.toLower)
  if word = "inf" ∨ word = "infinity" then some (Float.ofBits 0x7ff0000000000000)
  else if word = "nan" then some (Float.ofBits 0x7ff8000000000000)
  else none

/-- The exponent at the end of a real number: nothing, or `e`, an optional sign and digits. -/
def readExponent? : List Char → Option Int
  | [] => some 0
  | c :: rest =>
    if c == 'e' || c == 'E' then
      let (negative, ds) := takeSign rest
      if ds.isEmpty || !ds.all isAsciiDigit then none
      else
        let n : Int := digitsValue ds
        some (if negative then -n else n)
    else none

/-- Reads the magnitude of a real number: digits, a point and digits, then an exponent. At least one
digit stands before or after the point. -/
def readMagnitude? (cs : List Char) : Option Float :=
  let whole := cs.takeWhile isAsciiDigit
  let rest := cs.dropWhile isAsciiDigit
  let (fraction, rest) := match rest with
    | '.' :: r => (r.takeWhile isAsciiDigit, r.dropWhile isAsciiDigit)
    | r => ([], r)
  if whole.isEmpty && fraction.isEmpty then none
  else
    (readExponent? rest).map fun e => nearestDouble (digitsValue (whole ++ fraction)) (e - fraction.length)

/-- Reads a real number from text in ASCII. -/
def readRealChars? (cs : List Char) : Option Float :=
  match dropLowLines? '_' cs with
  | none => none
  | some plain =>
    let (negative, body) := takeSign plain
    let magnitude := match specialReal? body with
      | some x => some x
      | none => readMagnitude? body
    magnitude.map fun x => if negative then -x else x

def readReal? (s : String) : Option Float := readRealChars? (plainChars s)

end Tripwire.Decimal
