import Tripwire.Check.Basic
import Tripwire.Criteria

/-!
# Registries

A registry holds the sources of events and the checks registered so far. An event check is configured
as a draft, field by field, and registered with the criteria that the draft has at that time. A guard
is built from the checks that are registered at that time.

Components `failfast.builder` and `failfast.events.aggregate`, sections 4.2, 4.3 and 4.5 of the
specification; the lines that are named are those of the former.
-/

namespace Tripwire

open Time (Moment)

variable {W : Type}

/-- Where events come from (`BaseEventSource`). -/
abbrev Source (W : Type) := Act W (List Event)

/-- The events of all sources, in the order of the sources. One that fails ends the collection
(`collect_events`). -/
def collect (sources : List (Source W)) : Act W (List Event) := do
  let lists ← sources.mapM id
  let events := lists.flatten
  Act.note .debug ("Collected " ++ toString events.length ++ " events")
  return events

/-- The check that fires when some event of the sources meets the criteria (lines 127-131). -/
def Criteria.check (c : Criteria) (sources : List (Source W)) : Check W :=
  Check.of (collect sources) (fun events => Act.ofExcept (c.fires events))
    (fun events => Act.ofExcept (c.explain events))

/-! ### Drafts -/

/-- A field of the criteria that holds a list. -/
inductive CriteriaField where
  | names
  | reasons
  | messages
  | types
  | kinds
deriving DecidableEq, Repr

def CriteriaField.label : CriteriaField → String
  | names => "names"
  | reasons => "reasons"
  | messages => "messages"
  | types => "types"
  | kinds => "kinds"

/-- The criteria with one field set to a list; what the field held before is gone. -/
def Criteria.set (c : Criteria) (field : CriteriaField) (values : List String) : Criteria :=
  match field with
  | .names => { c with names := some values }
  | .reasons => { c with reasons := some values }
  | .messages => { c with messages := some values }
  | .types => { c with types := some values }
  | .kinds => { c with kinds := some values }

/-- Sets a field of a draft. A field without values is reported, since no event meets it (`_values`,
lines 135-138). -/
def Criteria.configure (c : Criteria) (field : CriteriaField) (values : List String) :
    Act W Criteria := do
  if values.isEmpty then
    Act.note .warning
      ("Event filter on " ++ field.label ++ " configured without values; it matches nothing")
  return c.set field values

/-! ### Registries -/

/-- Sources and checks (`FailFastBuilder`, lines 163-180). -/
structure Registry (W : Type) where
  sources : List (Source W)
  checks : List (Check W) := []

namespace Registry

def addCheck (r : Registry W) (c : Check W) : Registry W := { r with checks := r.checks ++ [c] }

/-- Registers the check for criteria (`require_at_least_one_match`, lines 122-133). -/
def register (r : Registry W) (c : Criteria) : Registry W := r.addCheck (c.check r.sources)

/-- The guard made of the checks that are registered now (lines 179-180). -/
def build (r : Registry W) : Guard W := { checks := r.checks }

end Registry

end Tripwire
