import Tripwire.Check.Registry
import Tripwire.Named

/-!
# Sessions

A session is what someone does with one registry: open drafts, configure them, register checks, build
guards and call them, in any order. Drafts and guards have names. A step changes the session and the
world and has an answer. Drafts stand for the `EventCheckBuilder` of `failfast.builder`, whose setters
(lines 82-110) are the steps `configure` and `bound`.
-/

namespace Tripwire

open Time (Moment)

variable {W : Type}

/-- A registry with the drafts that were opened on it and the guards that were built from it. -/
structure Session (W : Type) where
  registry : Registry W
  drafts : Named Criteria := []
  guards : Named (Guard W) := []

/-- One thing that is done in a session. -/
inductive Step (W : Type) where
  /-- Opens a draft that asks for nothing yet. -/
  | openDraft (draft : String)
  | configure (draft : String) (field : CriteriaField) (values : List String)
  | bound (draft : String) (moment : Moment)
  /-- Shows the criteria of a draft. -/
  | criteria (draft : String)
  | register (draft : String)
  | addCheck (check : Check W)
  | build (guard : String)
  | call (guard : String)
  | collect
  /-- Something happens outside. -/
  | happen (act : Act W Unit)

/-- What a step answers. -/
inductive Answer where
  | nothing
  | done
  | fired (b : Bool)
  | criteria (c : Criteria)
  | events (es : List Event)

namespace Session

def draft (σ : Session W) (name : String) : Criteria := (σ.drafts.get? name).getD {}

def guard (σ : Session W) (name : String) : Guard W := (σ.guards.get? name).getD { checks := [] }

/-- Does one step: its answer, the session after it, and the stage after it. -/
def step (σ : Session W) (stage : Stage W) :
    Step W → Except Fault Answer × Session W × Stage W
  | .openDraft name => (.ok .nothing, { σ with drafts := σ.drafts.put name {} }, stage)
  | .configure name field values =>
    match ((σ.draft name).configure field values).on stage with
    | (.ok c, stage) => (.ok .done, { σ with drafts := σ.drafts.put name c }, stage)
    | (.error f, stage) => (.error f, σ, stage)
  | .bound name moment =>
    (.ok .done, { σ with drafts := σ.drafts.put name { σ.draft name with after := some moment } },
      stage)
  | .criteria name => (.ok (.criteria (σ.draft name)), σ, stage)
  | .register name => (.ok .done, { σ with registry := σ.registry.register (σ.draft name) }, stage)
  | .addCheck check => (.ok .done, { σ with registry := σ.registry.addCheck check }, stage)
  | .build name => (.ok .nothing, { σ with guards := σ.guards.put name σ.registry.build }, stage)
  | .call name =>
    let (result, g, stage) := (σ.guard name).call stage
    (result.map .fired, { σ with guards := σ.guards.put name g }, stage)
  | .collect =>
    let (result, stage) := (Tripwire.collect σ.registry.sources).on stage
    (result.map .events, σ, stage)
  | .happen act =>
    let (result, stage) := act.on stage
    (result.map fun _ => .nothing, σ, stage)

/-- Does steps one after another: the answer of each, the session and the stage at the end. -/
def run (σ : Session W) (stage : Stage W) :
    List (Step W) → List (Except Fault Answer) × Session W × Stage W
  | [] => ([], σ, stage)
  | s :: rest =>
    let (answer, σ, stage) := σ.step stage s
    let (answers, σ, stage) := σ.run stage rest
    (answer :: answers, σ, stage)

end Session

end Tripwire
