import Tripwire.Act
import Tripwire.Time.Moment
import Tripwire.Value.Number
import Tripwire.Value.Text

/-!
# Events

An event is something that a cluster reports about one of its objects. On the wire it comes as a mapping
of texts, timestamps and a count. The reader is lenient with the leaves: null is the empty text and any
other value its text, a timestamp that cannot be read is absent, and a count that is no whole number is
one.

Components `failfast.events.base` and `failfast.events.parse`, sections 3 and 6 of the specification;
the lines that are named are those of the latter.
-/

namespace Tripwire

open Time (Moment)

/-- The object that an event is about (`ObjectReference`). -/
structure ObjectReference where
  kind : String := ""
  name : String := ""
  space : String := ""
deriving DecidableEq

/-- An event of a cluster (`Event`). -/
structure Event where
  object : ObjectReference := {}
  reason : String := ""
  message : String := ""
  type : String := ""
  lastSeen : Option Moment := none
  name : String := ""
  space : String := ""
  count : Int := 1
  firstSeen : Option Moment := none
  component : String := ""
deriving DecidableEq

/-! ### Events on the wire -/

variable {W : Type}

/-- The value under a key; only mappings have keys. -/
def Value.lookup (v : Value) (key : String) : Except Fault Value :=
  match v with
  | .map entries _ => .ok ((Entries.get? entries (.text key)).getD .null)
  | v => .error (.notMapping v.kind)

/-- The first value if it counts as present, otherwise an empty mapping. -/
def Value.orEmptyMap (v : Value) : Value := if v.isTruthy then v else .map [] none

/-- The text in a leaf (`_text`, lines 61-64). -/
def Value.leafText : Value → Except Fault String
  | .null => .ok ""
  | v => v.toText

/-- The moment in a timestamp's text. A final `Z` stands for universal time, which is also meant when
there is no offset. -/
def readTimestamp? (s : String) : Option Moment :=
  let text := if s.endsWith "Z" then (s.dropEnd 1).toString ++ "+00:00" else s
  (Time.readMoment? text).map Moment.aware

/-- The moment in a leaf. Only a text can hold one; a text that does not is reported (`parse_timestamp`,
lines 39-52). -/
def Value.timestamp (v : Value) : Act W (Option Moment) :=
  match v with
  | .text s =>
    if s = "" then pure none
    else
      match readTimestamp? s with
      | some m => pure (some m)
      | none => do
        Act.note .warning ("Ignoring unparseable event timestamp " ++ Text.quoted s)
        return none
  | _ => pure none

/-- The count in a leaf: an infinite one is an error, anything else that is no number counts as one
(`_count`, lines 67-71). -/
def Value.count (v : Value) : Except Fault Int :=
  match v.toWhole with
  | .ok n => .ok n
  | .error .infinityToWhole => .error .infinityToWhole
  | .error _ => .ok 1

/-- The text of an instant in universal time, with a final `Z` (`to_iso`, lines 55-58). -/
def isoUtc (m : Moment) : Except Fault String :=
  match m.toUtc? with
  | some u => .ok (u.date.iso ++ "T" ++ u.clock.iso ++ "Z")
  | none => .error .dateOutOfRange

def Value.textAt (v : Value) (key : String) : Except Fault String := do
  let leaf ← v.lookup key
  leaf.leafText

/-- The event that an entry describes (`parse_event`, lines 13-32). -/
def Event.ofEntry (entry : Value) : Act W Event := do
  let involved ← Act.ofExcept (entry.lookup "involvedObject")
  let involved := involved.orEmptyMap
  let metadata ← Act.ofExcept (entry.lookup "metadata")
  let metadata := metadata.orEmptyMap
  let source ← Act.ofExcept (entry.lookup "source")
  let source := source.orEmptyMap
  let kind ← Act.ofExcept (involved.textAt "kind")
  let objectName ← Act.ofExcept (involved.textAt "name")
  let objectSpace ← Act.ofExcept (involved.textAt "namespace")
  let reason ← Act.ofExcept (entry.textAt "reason")
  let message ← Act.ofExcept (entry.textAt "message")
  let type ← Act.ofExcept (entry.textAt "type")
  let last ← Act.ofExcept (entry.lookup "lastTimestamp")
  let lastSeen ← last.timestamp
  let name ← Act.ofExcept (metadata.textAt "name")
  let space ← Act.ofExcept (metadata.textAt "namespace")
  let count ← Act.ofExcept (entry.lookup "count")
  let count ← Act.ofExcept count.count
  let first ← Act.ofExcept (entry.lookup "firstTimestamp")
  let firstSeen ← first.timestamp
  let component ← Act.ofExcept (source.textAt "component")
  return {
    object := { kind, name := objectName, space := objectSpace }
    reason, message, type, lastSeen, name, space, count, firstSeen, component }

/-- The items of a value that can be gone through: those of a list, the keys of a mapping, the
characters of a text, the numbers of a byte string. -/
def Value.items : Value → Except Fault (List Value)
  | .list items => .ok items
  | .map entries _ => .ok (Entries.keys entries)
  | .text s => .ok (s.toList.map fun c => .text (String.singleton c))
  | .bytes bs => .ok (bs.map fun b => .int b.toNat)
  | v => .error (.notIterable v.kind)

/-- The events that the entries of a listing describe, in order (`parse_events`, lines 35-36). -/
def Event.ofEntries (entries : Value) : Act W (List Event) := do
  let items ← Act.ofExcept entries.items
  items.mapM Event.ofEntry

end Tripwire
