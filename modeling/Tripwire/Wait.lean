import Tripwire.Act
import Tripwire.Decimal.Notation
import Tripwire.Decimal.Number

/-!
# Waiting

A wait goes on tick by tick until a condition holds, a guard fires, or the deadline has passed. Each
tick calls the guard, then the condition, then reads the clock, then sleeps; the first of the four that
decides the wait ends it. The deadline is the first reading of the clock plus the timeout.

Component `failfast.waiting`, section 4.7 of the specification; the lines that are named are that
component's.
-/

namespace Tripwire

open Decimal (Number)

variable {W : Type}

/-- How to wait. The guard, if there is one, gives the reason when it fires (`Waiter`, lines 20-39). -/
structure Waiter (W : Type) where
  timeout : Number
  interval : Number
  guard : Option (Act W (Option String)) := none
  clock : Act W Number
  sleep : Number → Act W Unit

namespace Waiter

def timeoutText (timeout : Number) (description : String) : Except Fault String :=
  match timeout.toDouble? with
  | some x => .ok ("Timeout waiting for " ++ description ++ " after " ++ Decimal.floatOneDecimal x ++ "s")
  | none => .error .wholeTooLarge

def deadline (w : Waiter W) : Act W Number := do
  let start ← w.clock
  match start.add? w.timeout with
  | some d => return d
  | none => Act.fail .wholeTooLarge

/-- Calls the guard, if there is one; when it fires the wait fails with its reason (lines 44-46). -/
def callGuard (w : Waiter W) (description : String) : Act W Unit :=
  match w.guard with
  | none => pure ()
  | some guard => do
    match ← guard with
    | none => return ()
    | some reason =>
      Act.note .info ("Stopped waiting for " ++ description ++ ": fail-fast check triggered")
      Act.fail (.tripped reason)

/-- One tick: whether the condition holds (lines 44-51). -/
def tick (w : Waiter W) (condition : Act W Bool) (description : String) (deadline : Number) :
    Act W Bool := do
  w.callGuard description
  let holds ← condition
  if holds then return true
  let now ← w.clock
  if now.atLeast deadline then
    let text ← Act.ofExcept (timeoutText w.timeout description)
    Act.fail (.timedOut text)
  w.sleep w.interval
  return false

/-- At most so many ticks: whether the condition came to hold. It did not when all the ticks went by
without one that decided the wait. -/
def ticks (w : Waiter W) (condition : Act W Bool) (description : String) (deadline : Number) :
    Nat → Act W Bool
  | 0 => pure false
  | n + 1 => do
    let holds ← w.tick condition description deadline
    if holds then return true
    w.ticks condition description deadline n

/-- Waits for a condition, for at most so many ticks (`wait_for`, lines 41-51). -/
def waitFor (w : Waiter W) (condition : Act W Bool) (description : String) (limit : Nat) :
    Act W Bool := do
  let deadline ← w.deadline
  w.ticks condition description deadline limit

end Waiter

end Tripwire
