import Tripwire.Act

/-!
# Checks

A check takes a snapshot of what it watches; the snapshot can then be asked whether the check fires on
it and why. A guard is made from checks. Each call visits them in order up to the first that fires,
and the guard keeps that check's reason until its next call.

Components `failfast.checks` and `failfast.builder`, sections 4.4 and 4.5 of the specification; the
lines that are named are those of the latter.
-/

namespace Tripwire

variable {W S : Type}

/-- What a check saw, to be judged. Only a snapshot that was accepted is asked for a reason. -/
structure Snapshot (W : Type) where
  evaluate : Act W Bool
  explain : Act W String

/-- Something to be watched; taking the snapshot may take long and may fail (`Check`). -/
structure Check (W : Type) where
  fetch : Act W (Snapshot W)

namespace Check

/-- The check with given ways to fetch, to judge and to explain. -/
def of (fetch : Act W S) (evaluate : S → Act W Bool) (explain : S → Act W String) : Check W where
  fetch := do
    let seen ← fetch
    return { evaluate := evaluate seen, explain := explain seen }

/-- Visits checks in order. The first that fires ends the visit with its reason, on the snapshot on
which it fired (lines 151-157). -/
def sweep : List (Check W) → Act W (Option String)
  | [] => pure none
  | c :: rest => do
    let snapshot ← c.fetch
    let fired ← snapshot.evaluate
    if fired then
      let reason ← snapshot.explain
      Act.note .info "Fail-fast check triggered"
      return some reason
    sweep rest

end Check

/-- Checks that are called together, and the reason that the last call gave (`FailFastCheck`, lines
141-160). -/
structure Guard (W : Type) where
  checks : List (Check W)
  reason : String := ""

namespace Guard

/-- The guard after a call with the given result: its reason is that of the check that fired, and
empty when none did or the call failed. -/
def keep (g : Guard W) (result : Except Fault (Option String)) : Guard W :=
  { g with
    reason := match result with
      | .ok (some reason) => reason
      | _ => "" }

/-- Calls a guard on a stage: whether some check fired, the guard with its new reason, and the stage
after the call (lines 149-157). -/
def call (g : Guard W) (s : Stage W) : Except Fault Bool × Guard W × Stage W :=
  let (result, s) := (Check.sweep g.checks).on s
  (result.map Option.isSome, g.keep result, s)

end Guard

end Tripwire
