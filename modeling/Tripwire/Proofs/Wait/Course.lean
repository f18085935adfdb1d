import Tripwire.Wait

/-!
# The course of a wait

A wait calls its guard, its condition, its clock and its sleep. Each call is kept with what it gave;
what it gave either lets the wait go on or ends it. The course of a wait against a plan, the kinds of
the calls it is to make, is that the calls follow the plan until one of them ends the wait.
-/

namespace Tripwire

open Decimal (Number)

variable {W : Type}

namespace Waiter

/-- What a wait may call. -/
inductive Callee where
  | guard
  | condition
  | clock
  | sleep
deriving DecidableEq

/-- A call and what it gave. -/
inductive Call where
  | guard (gave : Except Fault (Option String))
  | condition (gave : Except Fault Bool)
  | clock (gave : Except Fault Number)
  | sleep (gave : Except Fault Unit)

def Call.callee : Call → Callee
  | guard _ => .guard
  | condition _ => .condition
  | clock _ => .clock
  | sleep _ => .sleep

/-- How a call ends the wait: by returning, or by failing. A call that lets it go on has no verdict. -/
def Call.verdict? (text : String) (deadline : Number) : Call → Option (Except Fault Unit)
  | guard (.ok none) => none
  | guard (.ok (some reason)) => some (.error (.tripped reason))
  | guard (.error f) => some (.error f)
  | condition (.ok holds) => if holds then some (.ok ()) else none
  | condition (.error f) => some (.error f)
  | clock (.ok now) => if now.atLeast deadline then some (.error (.timedOut text)) else none
  | clock (.error f) => some (.error f)
  | sleep (.ok _) => none
  | sleep (.error f) => some (.error f)

/-- The stage once the wait is over: a guard that fired leaves a record. -/
def Call.closing (description : String) : Call → Stage W → Stage W
  | guard (.ok (some _)), s =>
    { s with journal := s.journal ++
        [⟨.info, "Stopped waiting for " ++ description ++ ": fail-fast check triggered"⟩] }
  | _, s => s

def tickPlan (w : Waiter W) : List Callee :=
  match w.guard with
  | none => [.condition, .clock, .sleep]
  | some _ => [.guard, .condition, .clock, .sleep]

/-- That a call made on one stage leaves the other. -/
inductive Makes (w : Waiter W) (condition : Act W Bool) : Stage W → Call → Stage W → Prop where
  | guard {s t : Stage W} {act : Act W (Option String)} {gave : Except Fault (Option String)}
      (there : w.guard = some act) (made : act.on s = (gave, t)) :
      Makes w condition s (.guard gave) t
  | condition {s t : Stage W} {gave : Except Fault Bool} (made : condition.on s = (gave, t)) :
      Makes w condition s (.condition gave) t
  | clock {s t : Stage W} {gave : Except Fault Number} (made : w.clock.on s = (gave, t)) :
      Makes w condition s (.clock gave) t
  | sleep {s t : Stage W} {gave : Except Fault Unit} (made : (w.sleep w.interval).on s = (gave, t)) :
      Makes w condition s (.sleep gave) t

/-- Calls made one after the other, each on the stage that the one before left. -/
inductive Calls (w : Waiter W) (condition : Act W Bool) : Stage W → List Call → Stage W → Prop where
  | nil {s : Stage W} : Calls w condition s [] s
  | cons {s t u : Stage W} {call : Call} {calls : List Call} (head : Makes w condition s call t)
      (tail : Calls w condition t calls u) : Calls w condition s (call :: calls) u

/-- Calls that follow a plan to its end, or up to the call that ends the wait. -/
inductive Course (w : Waiter W) (condition : Act W Bool) (text : String) (deadline : Number) :
    List Callee → Stage W → List Call → Option Call → Stage W → Prop where
  | done {s : Stage W} : Course w condition text deadline [] s [] none s
  | pass {plan : List Callee} {s t u : Stage W} {call : Call} {calls : List Call}
      {last : Option Call} (head : Makes w condition s call t)
      (goesOn : call.verdict? text deadline = none)
      (tail : Course w condition text deadline plan t calls last u) :
      Course w condition text deadline (call.callee :: plan) s (call :: calls) last u
  | ends {plan : List Callee} {s t : Stage W} {call : Call} {verdict : Except Fault Unit}
      (head : Makes w condition s call t) (decisive : call.verdict? text deadline = some verdict) :
      Course w condition text deadline (call.callee :: plan) s [call] (some call) t

variable {w : Waiter W} {condition : Act W Bool} {text : String} {deadline : Number}
  {plan rest : List Callee} {s t u : Stage W} {calls more : List Call} {last : Option Call}

namespace Course

theorem append (h : Course w condition text deadline plan s calls none t)
    (h' : Course w condition text deadline rest t more last u) :
    Course w condition text deadline (plan ++ rest) s (calls ++ more) last u := by
  generalize hl : (none : Option Call) = l at h
  induction h with
  | done => exact h'
  | pass head goesOn _ ih => exact .pass head goesOn (ih h' hl)
  | ends => simp at hl

theorem ended {call : Call} (h : Course w condition text deadline plan s calls (some call) t)
    (rest : List Callee) : Course w condition text deadline (plan ++ rest) s calls (some call) t := by
  generalize hl : some call = l at h ⊢
  induction h with
  | done => simp at hl
  | pass head goesOn _ ih => exact .pass head goesOn (ih hl)
  | ends head decisive => exact .ends head decisive

theorem calls_made (h : Course w condition text deadline plan s calls last t) :
    w.Calls condition s calls t := by
  induction h with
  | done => exact .nil
  | pass head _ _ ih => exact .cons head ih
  | ends head _ => exact .cons head .nil

theorem order (h : Course w condition text deadline plan s calls last t) :
    calls.map Call.callee <+: plan := by
  induction h with
  | done => simp
  | pass _ _ _ ih => simpa using ih
  | ends _ _ => simp

theorem goes_on_before_last (h : Course w condition text deadline plan s calls last t) :
    ∀ call ∈ calls.dropLast, call.verdict? text deadline = none := by
  induction h with
  | done => simp
  | @pass _ _ _ _ call calls _ _ goesOn _ ih =>
    cases calls with
    | nil => simp
    | cons next calls => exact List.forall_mem_cons.2 ⟨goesOn, ih⟩
  | ends _ _ => simp

theorem of_none (h : Course w condition text deadline plan s calls none t) :
    calls.length = plan.length ∧ ∀ call ∈ calls, call.verdict? text deadline = none := by
  generalize hl : (none : Option Call) = l at h
  induction h with
  | done => simp
  | pass _ goesOn _ ih =>
    obtain ⟨hlen, hall⟩ := ih hl
    exact ⟨by simp [hlen], List.forall_mem_cons.2 ⟨goesOn, hall⟩⟩
  | ends => simp at hl

theorem of_some {call : Call} (h : Course w condition text deadline plan s calls (some call) t) :
    calls.getLast? = some call ∧ ∃ verdict, call.verdict? text deadline = some verdict := by
  generalize hl : some call = l at h
  induction h with
  | done => simp at hl
  | @pass _ _ _ _ _ calls _ _ _ _ ih =>
    obtain ⟨hlast, hv⟩ := ih hl
    cases calls with
    | nil => simp [← hl] at hlast
    | cons next calls => exact ⟨by rw [List.getLast?_cons_cons]; exact hlast, hv⟩
  | ends _ decisive =>
    obtain rfl := Option.some.inj hl
    exact ⟨rfl, _, decisive⟩

end Course

end Waiter

end Tripwire
