import Tripwire.Event.Selector
import Tripwire.Event.Wire

/-!
# Criteria

What an event check asks for. Each field that is set narrows the events; a field that is set to nothing
lets no event through. `Criteria.explain` is the report on the events that matched.

Component `failfast.builder`, sections 3 and 4.2 of the specification; the lines that are named are that
component's.
-/

namespace Tripwire

open Time (Moment)

/-- Conditions on events, one for each field that is set (`EventCriteria`, lines 18-25). -/
structure Criteria where
  names : Option (List String) := none
  reasons : Option (List String) := none
  messages : Option (List String) := none
  types : Option (List String) := none
  kinds : Option (List String) := none
  after : Option Moment := none
deriving DecidableEq

/-- The events for which a selector holds, in order; the first event on which it fails ends the
selection. -/
def Selector.filter (s : Selector) : List Event → Except Fault (List Event)
  | [] => .ok []
  | e :: rest => do
    let accepted ← s e
    let others ← s.filter rest
    return if accepted then e :: others else others

namespace Criteria

/-- The selectors of the fields that are set, in the order in which they are asked (`predicate`, lines
27-41). -/
def selectors (c : Criteria) : List Selector :=
  (c.names.map Selector.byObjectName).toList ++ (c.after.map Selector.after).toList ++
    (c.reasons.map Selector.byReason).toList ++ (c.messages.map Selector.byMessage).toList ++
    (c.types.map Selector.byType).toList ++ (c.kinds.map Selector.byObjectKind).toList

def selector (c : Criteria) : Selector := Selector.allOf c.selectors

/-- The events that satisfy the criteria, in order (lines 43-45). -/
def matching (c : Criteria) (events : List Event) : Except Fault (List Event) :=
  c.selector.filter events

def bracketed (values : List String) : String := "[" ++ ", ".intercalate values ++ "]"

/-- The lines for the fields that are set (lines 47-61). -/
def describe (c : Criteria) : Except Fault (List String) := do
  let line (label : String) (values : Option (List String)) : List String :=
    (values.map fun vs => label ++ ": " ++ bracketed vs).toList
  let bound ← match c.after with
    | some m => do
      let text ← isoUtc m
      pure ["after: " ++ text]
    | none => pure []
  return line "obj kinds" c.kinds ++ line "obj names" c.names ++ line "event reasons" c.reasons ++
    line "messages" c.messages ++ line "event types" c.types ++ bound

def eventLine (e : Event) : Except Fault String := do
  let seen ← match e.lastSeen with
    | some m => isoUtc m
    | none => .ok "None"
  return "\t" ++ seen ++ "\t" ++ e.object.kind ++ "/" ++ e.object.name ++ "\t" ++ e.message

/-- The report on events that meet a condition: a heading, the events, and the criteria
(`failure_reason`, lines 183-191). -/
def report (c : Criteria) (events : List Event) (condition : String) : Except Fault String := do
  let lines ← events.mapM eventLine
  let fields ← c.describe
  let all := ("Following events match condition: <" ++ condition ++ ">") :: lines ++ ["Filter:"] ++
    fields.map ("\t " ++ ·)
  return "\n".intercalate all ++ "\n"

def atLeastOne : String := "at least one exists"

def fires (c : Criteria) (events : List Event) : Except Fault Bool := do
  let found ← c.matching events
  return !found.isEmpty

def explain (c : Criteria) (events : List Event) : Except Fault String := do
  let found ← c.matching events
  c.report found atLeastOne

end Criteria

end Tripwire
