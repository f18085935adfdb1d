import Tripwire.Proofs.Wait.Course

/-!
# The calls of a wait

Each tick takes the course of its plan, and the ticks of a wait take the courses of their plans one
after the other. From this it follows which calls a wait makes, in which order, and what it comes to.
-/

namespace Tripwire

open Decimal (Number)

variable {W : Type}

namespace Waiter

/-- What a tick does once its guard let it go on. -/
def afterGuard (w : Waiter W) (condition : Act W Bool) (description : String) (deadline : Number) :
    Act W Bool := do
  let holds ← condition
  if holds then return true
  let now ← w.clock
  if now.atLeast deadline then
    let text ← Act.ofExcept (timeoutText w.timeout description)
    Act.fail (.timedOut text)
  w.sleep w.interval
  return false

/-- What calls came to: whether the condition holds, and the stage. -/
def outcome (description text : String) (deadline : Number) (last : Option Call) (t : Stage W) :
    Except Fault Bool × Stage W :=
  match last with
  | none => (.ok false, t)
  | some call =>
    (((call.verdict? text deadline).getD (.ok ())).map fun _ => true, call.closing description t)

/-- What so many ticks are to call. -/
def plan (w : Waiter W) (limit : Nat) : List Callee := (List.replicate limit w.tickPlan).flatten

theorem length_plan (w : Waiter W) (limit : Nat) :
    (w.plan limit).length = limit * w.tickPlan.length := by
  simp [plan]

theorem tick_eq (w : Waiter W) (condition : Act W Bool) (description : String)
    (deadline : Number) : w.tick condition description deadline =
      w.callGuard description >>= fun _ => w.afterGuard condition description deadline := rfl

section Ticks

variable {w : Waiter W} {description text : String} (condition : Act W Bool) (deadline : Number)
  (s : Stage W)

theorem afterGuard_course (ht : timeoutText w.timeout description = .ok text) :
    ∃ calls last t,
      w.Course condition text deadline [.condition, .clock, .sleep] s calls last t ∧
      (w.afterGuard condition description deadline).on s =
        outcome description text deadline last t := by
  -- Each call either ends the course, or the next one is made on the stage that it left.
  rcases hc : condition.on s with ⟨gave, s₁⟩
  cases gave with
  | error f => exact ⟨_, _, _, .ends (.condition hc) rfl, Act.on_bind_error hc⟩
  | ok holds =>
    rw [afterGuard, Act.on_bind_ok hc]
    cases holds with
    | true => exact ⟨_, _, _, .ends (.condition hc) rfl, rfl⟩
    | false =>
      simp only [Bool.false_eq_true, ↓reduceIte]
      rcases hn : w.clock.on s₁ with ⟨gave, s₂⟩
      cases gave with
      | error f =>
        exact ⟨_, _, _, .pass (.condition hc) rfl (.ends (.clock hn) rfl), Act.on_bind_error hn⟩
      | ok now =>
        rw [Act.on_bind_ok hn]
        cases hd : now.atLeast deadline with
        | true =>
          refine ⟨_, _, _, .pass (.condition hc) rfl (.ends (.clock hn) (if_pos hd)), ?_⟩
          rw [ht]
          simp only [outcome, Call.verdict?, hd]
          rfl
        | false =>
          have hgo : (Call.clock (.ok now)).verdict? text deadline = none := if_neg (by simp [hd])
          rcases hs : (w.sleep w.interval).on s₂ with ⟨gave, s₃⟩
          cases gave with
          | error f =>
            refine ⟨_, _, _, .pass (.condition hc) rfl (.pass (.clock hn) hgo
              (.ends (.sleep hs) rfl)), ?_⟩
            exact Act.on_bind_error hs
          | ok _ =>
            refine ⟨_, _, _, .pass (.condition hc) rfl (.pass (.clock hn) hgo
              (.pass (.sleep hs) rfl .done)), ?_⟩
            exact Act.on_bind_ok hs

theorem tick_course (ht : timeoutText w.timeout description = .ok text) :
    ∃ calls last t, w.Course condition text deadline w.tickPlan s calls last t ∧
      (w.tick condition description deadline).on s =
        outcome description text deadline last t := by
  rw [tick_eq]
  cases hg : w.guard with
  | none =>
    obtain ⟨calls, last, t, hcourse, hon⟩ := afterGuard_course condition deadline s ht
    refine ⟨calls, last, t, ?_, ?_⟩
    · rw [tickPlan, hg]
      exact hcourse
    · rw [callGuard, hg]
      exact hon
  | some guard =>
    rw [tickPlan, hg, callGuard, hg]
    rcases hr : guard.on s with ⟨gave, s₁⟩
    cases gave with
    | error f =>
      refine ⟨_, _, _, .ends (.guard hg hr) rfl, ?_⟩
      exact Act.on_bind_error (Act.on_bind_error hr)
    | ok reason =>
      rw [Act.on_bind, Act.on_bind_ok hr]
      cases reason with
      | some reason => exact ⟨_, _, _, .ends (.guard hg hr) rfl, rfl⟩
      | none =>
        obtain ⟨calls, last, t, hcourse, hon⟩ := afterGuard_course condition deadline s₁ ht
        exact ⟨_, _, _, .pass (.guard hg hr) rfl hcourse, hon⟩

theorem ticks_course (ht : timeoutText w.timeout description = .ok text) (limit : Nat) :
    ∃ calls last t, w.Course condition text deadline (w.plan limit) s calls last t ∧
      (w.ticks condition description deadline limit).on s =
        outcome description text deadline last t := by
  induction limit generalizing s with
  | zero => exact ⟨_, _, _, .done, rfl⟩
  | succ limit ih =>
    obtain ⟨calls, last, t, hcourse, hon⟩ := tick_course condition deadline s ht
    have hplan : w.plan (limit + 1) = w.tickPlan ++ w.plan limit := by
      simp [plan, List.replicate_succ]
    rw [hplan, ticks, Act.on_bind, hon]
    cases last with
    | none =>
      obtain ⟨more, last, u, hrest, hrestOn⟩ := ih t
      exact ⟨_, _, _, hcourse.append hrest, hrestOn⟩
    | some call =>
      -- The wait is over, and the plans of the ticks that follow are never begun.
      refine ⟨_, _, _, hcourse.ended _, ?_⟩
      obtain ⟨-, verdict, hv⟩ := hcourse.of_some
      simp only [outcome, hv]
      cases verdict with
      | error f => rfl
      | ok _ => rfl

end Ticks

theorem ticks_add {w : Waiter W} {condition : Act W Bool} {description : String}
    {deadline : Number} {s : Stage W} {limit : Nat} {result : Except Fault Bool} {u : Stage W}
    (h : (w.ticks condition description deadline limit).on s = (result, u))
    (hr : result ≠ .ok false) (more : Nat) :
    (w.ticks condition description deadline (limit + more)).on s = (result, u) := by
  induction limit generalizing s with
  | zero =>
    obtain ⟨rfl, -⟩ := Prod.mk.inj h
    exact absurd rfl hr
  | succ limit ih =>
    rw [Nat.succ_add]
    rw [ticks, Act.on_bind] at h ⊢
    rcases htick : (w.tick condition description deadline).on s with ⟨r, t⟩
    rw [htick] at h
    cases r with
    | error f => exact h
    | ok holds =>
      cases holds with
      | true => exact h
      | false => exact ih h

/-- The calls of a wait from the stage on which its deadline was set, and what they come to. -/
structure CallsOf (w : Waiter W) (condition : Act W Bool) (description text : String)
    (deadline : Number) (limit : Nat) (s : Stage W) (calls : List Call)
    (result : Except Fault Bool) (u : Stage W) : Prop where
  /-- What is called, in order, is the beginning of what the ticks are to call. -/
  order : calls.map Call.callee <+: w.plan limit
  /-- Every call before the last let the wait go on. -/
  goesOn : ∀ call ∈ calls.dropLast, call.verdict? text deadline = none
  /-- A tick is reached if the ticks before it made all their calls and these let the wait go on. -/
  reached : ∀ n, n * w.tickPlan.length < calls.length ↔
    n < limit ∧ n * w.tickPlan.length ≤ calls.length ∧
      ∀ call ∈ calls.take (n * w.tickPlan.length), call.verdict? text deadline = none
  /-- The last call ended the wait, unless all the ticks went by without a call that did. -/
  ending : ∃ t, w.Calls condition s calls t ∧
    ((∃ call verdict, calls.getLast? = some call ∧ call.verdict? text deadline = some verdict ∧
        result = verdict.map (fun _ => true) ∧ u = call.closing description t) ∨
      (calls.length = limit * w.tickPlan.length ∧
        (∀ call ∈ calls, call.verdict? text deadline = none) ∧ result = .ok false ∧ u = t))

namespace Course

variable {w : Waiter W} {condition : Act W Bool} {text : String} {deadline : Number}
  {s t : Stage W} {calls : List Call} {last : Option Call} {limit : Nat}

theorem length_le {plan : List Callee} (h : w.Course condition text deadline plan s calls last t) :
    calls.length ≤ plan.length := by
  have hle := h.order.length_le
  rwa [List.length_map] at hle

/-- A course stops short of its plan only at a call that ends the wait. -/
theorem length_eq {plan : List Callee} (h : w.Course condition text deadline plan s calls last t)
    (hall : ∀ call ∈ calls, call.verdict? text deadline = none) : calls.length = plan.length := by
  cases last with
  | none => exact h.of_none.1
  | some call =>
    obtain ⟨hlast, verdict, hv⟩ := h.of_some
    have hgo := hall call (List.mem_of_getLast? hlast)
    simp [hgo] at hv

theorem reached (h : w.Course condition text deadline (w.plan limit) s calls last t) (n : Nat) :
    n * w.tickPlan.length < calls.length ↔
      n < limit ∧ n * w.tickPlan.length ≤ calls.length ∧
        ∀ call ∈ calls.take (n * w.tickPlan.length), call.verdict? text deadline = none := by
  have hle := h.length_le
  rw [length_plan] at hle
  constructor
  · intro hlt
    have hn : n < limit := Nat.lt_of_mul_lt_mul_right (Nat.lt_of_lt_of_le hlt hle)
    refine ⟨hn, Nat.le_of_lt hlt, fun call hcall => h.goes_on_before_last call ?_⟩
    rw [List.dropLast_eq_take]
    exact List.take_subset_take_left calls (by omega) hcall
  · rintro ⟨hn, hmade, hgo⟩
    rcases Nat.lt_or_eq_of_le hmade with hlt | heq
    · exact hlt
    -- A course whose calls all let it go on has come to the end of its plan, past this tick.
    · rw [heq, List.take_length] at hgo
      have hlen := h.length_eq hgo
      have hpos : 0 < w.tickPlan.length := by
        rw [tickPlan]
        split <;> simp
      have hmul := Nat.mul_lt_mul_of_pos_right hn hpos
      rw [length_plan] at hlen
      omega

theorem callsOf {description : String} {result : Except Fault Bool} {u : Stage W}
    (h : w.Course condition text deadline (w.plan limit) s calls last t)
    (hon : outcome description text deadline last t = (result, u)) :
    w.CallsOf condition description text deadline limit s calls result u := by
  refine ⟨h.order, h.goes_on_before_last, h.reached, t, h.calls_made, ?_⟩
  cases last with
  | none =>
    obtain ⟨hlen, hall⟩ := h.of_none
    obtain ⟨rfl, rfl⟩ := Prod.mk.inj hon
    exact Or.inr ⟨hlen.trans (length_plan w limit), hall, rfl, rfl⟩
  | some call =>
    obtain ⟨hlast, verdict, hv⟩ := h.of_some
    rw [outcome, hv] at hon
    obtain ⟨rfl, rfl⟩ := Prod.mk.inj hon
    exact Or.inl ⟨call, verdict, hlast, hv, rfl, rfl⟩

end Course

theorem timeoutText_of_double {timeout : Number} {x : Float} (hx : timeout.toDouble? = some x)
    (description : String) : timeoutText timeout description =
      .ok ("Timeout waiting for " ++ description ++ " after " ++ Decimal.floatOneDecimal x ++ "s") := by
  rw [timeoutText, hx]

/-- A wait sets its deadline from the first reading of the clock, and then makes its calls in the order
of the ticks until one of them ends it. -/
theorem wait_ends_at_first_decisive_call (w : Waiter W) (condition : Act W Bool)
    (description : String) (limit : Nat) (s : Stage W) {x : Float}
    (hx : w.timeout.toDouble? = some x) :
    (∃ f t, w.clock.on s = (.error f, t) ∧
      (w.waitFor condition description limit).on s = (.error f, t)) ∨
    (∃ start t, w.clock.on s = (.ok start, t) ∧ start.add? w.timeout = none ∧
      (w.waitFor condition description limit).on s = (.error .wholeTooLarge, t)) ∨
    ∃ start t deadline calls result u, w.clock.on s = (.ok start, t) ∧
      start.add? w.timeout = some deadline ∧
      (w.waitFor condition description limit).on s = (result, u) ∧
      w.CallsOf condition description
        ("Timeout waiting for " ++ description ++ " after " ++ Decimal.floatOneDecimal x ++ "s")
        deadline limit t calls result u ∧
      (result ≠ .ok false → ∀ more,
        (w.waitFor condition description (limit + more)).on s = (result, u)) := by
  rcases hclock : w.clock.on s with ⟨gave, t⟩
  cases gave with
  | error f =>
    refine Or.inl ⟨f, t, rfl, ?_⟩
    exact Act.on_bind_error (Act.on_bind_error hclock)
  | ok start =>
    right
    cases hadd : start.add? w.timeout with
    | none =>
      refine Or.inl ⟨start, t, rfl, hadd, ?_⟩
      have hdeadline : w.deadline.on s = (.error .wholeTooLarge, t) := by
        rw [Waiter.deadline, Act.on_bind_ok hclock, hadd]
        rfl
      exact Act.on_bind_error hdeadline
    | some deadline =>
      have hdeadline : w.deadline.on s = (.ok deadline, t) := by
        rw [Waiter.deadline, Act.on_bind_ok hclock, hadd]
        rfl
      have hwait (n : Nat) : (w.waitFor condition description n).on s =
          (w.ticks condition description deadline n).on t := Act.on_bind_ok hdeadline
      obtain ⟨calls, last, t', hcourse, hon⟩ :=
        ticks_course condition deadline t (timeoutText_of_double hx description) limit
      rcases hticks : (w.ticks condition description deadline limit).on t with ⟨result, u⟩
      refine Or.inr ⟨start, t, deadline, calls, result, u, rfl, hadd, (hwait limit).trans hticks,
        hcourse.callsOf (hon.symm.trans hticks), fun hr more => ?_⟩
      rw [hwait]
      exact ticks_add hticks hr more

/-- A guard that fires goes before a condition that holds and a deadline that has passed. -/
theorem firing_guard_goes_first :
    ∃ w : Waiter Unit, ∃ s x u, w.timeout.toDouble? = some x ∧
      (w.waitFor (pure true) "pods" 3).on s = (.error (.tripped "crash loop"), u) ∧
      ∃ calls, w.CallsOf (pure true) "pods"
        ("Timeout waiting for " ++ "pods" ++ " after " ++ Decimal.floatOneDecimal x ++ "s")
        (.whole 7) 3 s calls (.error (.tripped "crash loop")) u := by
  let w : Waiter Unit :=
    { timeout := .whole 0, interval := .whole 1, guard := some (pure (some "crash loop")),
      clock := pure (.whole 7), sleep := fun _ => pure () }
  have hx : w.timeout.toDouble? = some 0 := by decide
  let s : Stage Unit := { world := () }
  refine ⟨w, s, 0, _, hx, rfl, ?_⟩
  rcases wait_ends_at_first_decisive_call w (pure true) "pods" 3 s hx with
    ⟨f, t, hclock, -⟩ | ⟨start, t, hclock, hadd, -⟩ |
    ⟨start, t, deadline, calls, result, u, hclock, hadd, hwait, hcalls, -⟩
  · cases hclock
  · cases hclock
    cases hadd
  · cases hclock
    cases hadd
    cases hwait
    exact ⟨calls, hcalls⟩

end Waiter

end Tripwire
