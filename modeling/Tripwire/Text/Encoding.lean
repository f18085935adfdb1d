/-!
# Bytes as text

Decoding of UTF-8, UTF-16 and UTF-32. UTF-8 is decoded strictly, and a failure tells where and why.
The other reader takes any of the encodings and is lenient with surrogates: one without a partner
becomes the replacement character.
-/

namespace Tripwire.Text

/-- Why bytes are not UTF-8. -/
inductive Utf8Error where
  | badStart
  | badContinuation
  | cutShort
deriving DecidableEq, Repr

def Utf8Error.reason : Utf8Error → String
  | badStart => "invalid start byte"
  | badContinuation => "invalid continuation byte"
  | cutShort => "unexpected end of data"

def isContinuation (b : UInt8) : Bool := 0x80 ≤ b && b ≤ 0xbf

def payload (b : UInt8) : Nat := b.toNat % 64

/-- One character at the front of some bytes: the character and the bytes after it, or the reason of
the failure and the number of bytes that it spans. Surrogates are let through on request. -/
def takeUtf8 (surrogates : Bool) : List UInt8 → Except (Utf8Error × Nat) (Nat × List UInt8)
  | [] => .error (.cutShort, 0)
  | a :: rest =>
    if a < 0x80 then .ok (a.toNat, rest)
    else if a < 0xc2 then .error (.badStart, 1)
    else if a < 0xe0 then
      match rest with
      | [] => .error (.cutShort, 1)
      | b :: rest =>
        if isContinuation b then .ok (a.toNat % 32 * 64 + payload b, rest)
        else .error (.badContinuation, 1)
    else if a < 0xf0 then
      match rest with
      | [] => .error (.cutShort, 1)
      | b :: rest =>
        if !isContinuation b || (a = 0xe0 && b < 0xa0) || (a = 0xed && 0xa0 ≤ b && !surrogates) then
          .error (.badContinuation, 1)
        else
          match rest with
          | [] => .error (.cutShort, 2)
          | c :: rest =>
            if isContinuation c then .ok ((a.toNat % 16 * 64 + payload b) * 64 + payload c, rest)
            else .error (.badContinuation, 2)
    else if a < 0xf5 then
      match rest with
      | [] => .error (.cutShort, 1)
      | b :: rest =>
        if !isContinuation b || (a = 0xf0 && b < 0x90) || (a = 0xf4 && 0x90 ≤ b) then
          .error (.badContinuation, 1)
        else
          match rest with
          | [] => .error (.cutShort, 2)
          | c :: rest =>
            if !isContinuation c then .error (.badContinuation, 2)
            else
              match rest with
              | [] => .error (.cutShort, 3)
              | d :: rest =>
                if isContinuation d then
                  .ok (((a.toNat % 8 * 64 + payload b) * 64 + payload c) * 64 + payload d, rest)
                else .error (.badContinuation, 3)
    else .error (.badStart, 1)

/-- A failure to decode: the reason, the first byte and the number of bytes that it spans, with their
place. -/
structure DecodingFault where
  error : Utf8Error
  first : UInt8
  position : Nat
  span : Nat
deriving DecidableEq, Repr

/-- The text of a failure to decode. A character that the end of the bytes cuts short is looked at on
its own, so its place is zero. -/
def DecodingFault.message (f : DecodingFault) : String :=
  let position := if f.error = .cutShort then 0 else f.position
  let hex (n : Nat) : Char := if n < 10 then Char.ofNat (48 + n) else Char.ofNat (87 + n)
  if f.span ≤ 1 then
    "'utf-8' codec can't decode byte 0x" ++
      String.ofList [hex (f.first.toNat / 16), hex (f.first.toNat % 16)] ++
      " in position " ++ toString position ++ ": " ++ f.error.reason
  else
    "'utf-8' codec can't decode bytes in position " ++ toString position ++ "-" ++
      toString (position + f.span - 1) ++ ": " ++ f.error.reason

/-- The code points in UTF-8, decoded strictly from a place on; those before are given in reverse
order. The fuel is the number of bytes. -/
def utf8Points (surrogates : Bool) :
    Nat → Nat → List Nat → List UInt8 → Except DecodingFault (List Nat)
  | _, _, before, [] => .ok before.reverse
  | 0, _, before, _ => .ok before.reverse
  | fuel + 1, position, before, bytes@(first :: _) =>
    match takeUtf8 surrogates bytes with
    | .ok (n, rest) =>
      let width := if n < 0x80 then 1 else if n < 0x800 then 2 else if n < 0x10000 then 3 else 4
      utf8Points surrogates fuel (position + width) (n :: before) rest
    | .error (error, span) => .error { error, first, position, span }

/-- The characters of code points. A text holds characters only, so what is none, such as half a pair
of surrogates, is not kept: it becomes the replacement character. -/
def ofPoints (points : List Nat) : List Char :=
  points.map fun n =>
    if n.isValidChar then Char.ofNat n else '\ufffd'

/-- The characters in UTF-8, decoded strictly. -/
def decodeUtf8 (bytes : List UInt8) : Except DecodingFault (List Char) :=
  (utf8Points false bytes.length 0 [] bytes).map ofPoints

/-- The bytes of a code point in UTF-8. -/
def utf8Bytes (c : Char) : List UInt8 :=
  let n := c.toNat
  let byte (k : Nat) : UInt8 := UInt8.ofNat k
  if n < 0x80 then [byte n]
  else if n < 0x800 then [byte (0xc0 + n / 64), byte (0x80 + n % 64)]
  else if n < 0x10000 then
    [byte (0xe0 + n / 4096), byte (0x80 + n / 64 % 64), byte (0x80 + n % 64)]
  else
    [byte (0xf0 + n / 262144), byte (0x80 + n / 4096 % 64), byte (0x80 + n / 64 % 64),
      byte (0x80 + n % 64)]

/-- The bytes of a text in UTF-8. -/
def encodeUtf8 (s : String) : List UInt8 := s.toList.flatMap utf8Bytes

/-- Whether the more significant byte comes first. -/
inductive ByteOrder where
  | big
  | little
deriving DecidableEq, Repr

/-- The two-byte units of bytes, unless one is cut short. -/
def units16? (order : ByteOrder) : List UInt8 → Option (List Nat)
  | [] => some []
  | [_] => none
  | a :: b :: rest =>
    let unit := match order with
      | .big => a.toNat * 256 + b.toNat
      | .little => b.toNat * 256 + a.toNat
    (units16? order rest).map (unit :: ·)

/-- The four-byte units of bytes, unless one is cut short. -/
def units32? (order : ByteOrder) : List UInt8 → Option (List Nat)
  | [] => some []
  | a :: b :: c :: d :: rest =>
    let unit := match order with
      | .big => ((a.toNat * 256 + b.toNat) * 256 + c.toNat) * 256 + d.toNat
      | .little => ((d.toNat * 256 + c.toNat) * 256 + b.toNat) * 256 + a.toNat
    (units32? order rest).map (unit :: ·)
  | _ => none

/-- Joins a high surrogate with the low surrogate after it. -/
def joinSurrogates : List Nat → List Nat
  | a :: b :: rest =>
    if 0xd800 ≤ a && a < 0xdc00 && 0xdc00 ≤ b && b < 0xe000 then
      (0x10000 + (a - 0xd800) * 1024 + (b - 0xdc00)) :: joinSurrogates rest
    else a :: joinSurrogates (b :: rest)
  | short => short

/-- The characters in UTF-16. -/
def decodeUtf16? (order : ByteOrder) (bytes : List UInt8) : Option (List Char) :=
  (units16? order bytes).map fun units => ofPoints (joinSurrogates units)

/-- The characters in UTF-32. -/
def decodeUtf32? (order : ByteOrder) (bytes : List UInt8) : Option (List Char) := do
  let units ← units32? order bytes
  if units.all (· < 0x110000) then some (ofPoints units) else none

/-- The characters of bytes in whichever of the encodings they are. A mark at the front tells it; so
do the zeros among the first four bytes, when the text begins with characters of ASCII. -/
def decodeAny? (bytes : List UInt8) : Option (List Char) :=
  let utf8 (bs : List UInt8) : Option (List Char) :=
    ((utf8Points true bs.length 0 [] bs).map ofPoints).toOption
  match bytes with
  | 0 :: 0 :: 0xfe :: 0xff :: rest => decodeUtf32? .big rest
  | 0xff :: 0xfe :: 0 :: 0 :: rest => decodeUtf32? .little rest
  | 0xfe :: 0xff :: rest => decodeUtf16? .big rest
  | 0xff :: 0xfe :: rest => decodeUtf16? .little rest
  | 0xef :: 0xbb :: 0xbf :: rest => utf8 rest
  | a :: b :: c :: d :: _ =>
    if a = 0 then (if b = 0 then decodeUtf32? .big bytes else decodeUtf16? .big bytes)
    else if b = 0 then
      (if c = 0 && d = 0 then decodeUtf32? .little bytes else decodeUtf16? .little bytes)
    else utf8 bytes
  | [a, b] =>
    if a = 0 then decodeUtf16? .big bytes
    else if b = 0 then decodeUtf16? .little bytes
    else utf8 bytes
  | _ => utf8 bytes

end Tripwire.Text
