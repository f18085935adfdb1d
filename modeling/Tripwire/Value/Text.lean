import Tripwire.Decimal.Notation
import Tripwire.Decimal.Reader
import Tripwire.Fault
import Tripwire.Text.Quoted
import Tripwire.Time.Iso

/-!
# Values as text

The text of a value: a text is itself, a date or a moment is in its printed form, and inside lists
and mappings texts are quoted and dates are spelled out by their fields. Whole numbers beyond the
limit of digits have no text.
-/

namespace Tripwire

open Time (Date Moment Clock Offset)

/-- The text of a whole number, unless it has too many digits. -/
def wholeText (n : Int) : Except Fault String :=
  if Nat.pow 10 Decimal.digitLimit ≤ n.natAbs then .error .tooManyDigitsToWrite else .ok (toString n)

def callText (name : String) (args : List String) : String :=
  name ++ "(" ++ ", ".intercalate args ++ ")"

/-- A span of time spelled out by days, seconds and microseconds, those that are zero left out. -/
def spanText (micros : Int) : String :=
  let days := micros / (Time.dayMicros : Int)
  let rest := micros % (Time.dayMicros : Int)
  let seconds := rest / 1000000
  let fraction := rest % 1000000
  let args := (if days = 0 then [] else ["days=" ++ toString days]) ++
    (if seconds = 0 then [] else ["seconds=" ++ toString seconds]) ++
    (if fraction = 0 then [] else ["microseconds=" ++ toString fraction])
  callText "datetime.timedelta" (if args.isEmpty then ["0"] else args)

def offsetText (o : Offset) : String :=
  if o.micros = 0 then "datetime.timezone.utc" else callText "datetime.timezone" [spanText o.micros]

def dateFields (d : Date) : String :=
  callText "datetime.date" [toString d.year, toString d.month, toString d.day]

/-- A moment spelled out by its fields; seconds and microseconds are left out when nothing but zeros
would follow. -/
def momentFields (m : Moment) : String :=
  let c := m.clock
  let small := if c.microsecond ≠ 0 then [toString c.second, toString c.microsecond]
    else if c.second ≠ 0 then [toString c.second] else []
  callText "datetime.datetime"
    ([toString m.date.year, toString m.date.month, toString m.date.day, toString c.hour,
      toString c.minute] ++ small ++
      (match m.offset with | some o => ["tzinfo=" ++ offsetText o] | none => []))

namespace Value

mutual

/-- The text of a value as it stands inside a list or a mapping. -/
def inner : Value → Except Fault String
  | null => .ok "None"
  | bool b => .ok (if b then "True" else "False")
  | int n => wholeText n
  | float x => .ok (Decimal.floatText x)
  | text s => .ok (Text.quoted s)
  | bytes bs => .ok (Text.quotedBytes bs)
  | date d => .ok (dateFields d)
  | moment m => .ok (momentFields m)
  | list items => do
    let texts ← innerItems items
    return "[" ++ ", ".intercalate texts ++ "]"
  | map entries _ => do
    let texts ← innerEntries entries
    return "\x7b" ++ ", ".intercalate texts ++ "\x7d"

def innerItems : List Value → Except Fault (List String)
  | [] => .ok []
  | v :: rest => do
    let t ← inner v
    let ts ← innerItems rest
    return t :: ts

/-- The texts of the entries of a mapping, each a key, a colon and a value. -/
def innerEntries : List (Value × Value) → Except Fault (List String)
  | [] => .ok []
  | (k, v) :: rest => do
    let tk ← inner k
    let tv ← inner v
    let ts ← innerEntries rest
    return (tk ++ ": " ++ tv) :: ts

end

def toText : Value → Except Fault String
  | text s => .ok s
  | date d => .ok d.iso
  | moment m => .ok (m.isoWith " ")
  | v => inner v

end Value

end Tripwire
