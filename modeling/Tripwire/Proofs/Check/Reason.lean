import Tripwire.Proofs.Check.Visit
import Tripwire.Proofs.Wait.Failing

/-!
# Reasons

The reason that a guard keeps is that of its last call, whatever the calls before gave: the reason of
the first check that fired, on the snapshot on which it fired, and none when no check fired or one
failed. A wait that the guard ends fails with the reason of the call in its last tick.
-/

namespace Tripwire

variable {W : Type}

namespace Guard

/-- The guard after calls on the given stages. -/
def after (g : Guard W) (stages : List (Stage W)) : Guard W :=
  stages.foldl (fun g s => (g.call s).2.1) g

theorem checks_after (g : Guard W) (stages : List (Stage W)) :
    (g.after stages).checks = g.checks := by
  induction stages generalizing g with
  | nil => rfl
  | cons s rest ih =>
    have hstep : (g.call s).2.1.checks = g.checks := rfl
    exact (ih (g.call s).2.1).trans hstep

theorem keep_result (g : Guard W) (ending : Check.Ending W) :
    g.keep ending.result = ⟨g.checks, ending.reason⟩ := by
  cases ending with
  | quiet => rfl
  | notFetched f => rfl
  | notJudged seen f => rfl
  | notExplained seen f => rfl
  | fired seen reason => rfl

theorem call_of_sweep {g : Guard W} {s t : Stage W} {ending : Check.Ending W}
    (h : (Check.sweep g.checks).on s = (ending.result, t)) :
    g.call s = (ending.result.map Option.isSome, ⟨g.checks, ending.reason⟩, t) := by
  rw [call, h]
  show (ending.result.map Option.isSome, g.keep ending.result, t) = _
  rw [keep_result]

theorem call_after_eq (g : Guard W) (earlier : List (Stage W)) (s : Stage W) :
    ∃ passed ending t, Check.Visit g.checks s passed ending t ∧
      (Check.sweep g.checks).on s = (ending.result, ending.closing t) ∧
      (g.after earlier).call s =
        (ending.result.map Option.isSome, ⟨g.checks, ending.reason⟩, ending.closing t) := by
  obtain ⟨passed, ending, t, hvisit, hon⟩ := Check.sweep_visit g.checks s
  have hchecks := g.checks_after earlier
  have hcall : (g.after earlier).call s = (ending.result.map Option.isSome,
      ⟨(g.after earlier).checks, ending.reason⟩, ending.closing t) := by
    apply call_of_sweep
    rw [hchecks, hon]
  rw [hchecks] at hcall
  exact ⟨passed, ending, t, hvisit, hon, hcall⟩

end Guard

/-- The wait that asks a guard at the beginning of each tick. -/
def Waiter.guardedBy (w : Waiter W) (g : Guard W) : Waiter W :=
  { w with guard := some (Check.sweep g.checks) }

namespace Guard

/-- That a wait reaches a tick in which the guard fires with a reason, which ends the wait. -/
def Ends (g : Guard W) (w : Waiter W) (condition : Act W Bool) (description : String) (limit : Nat)
    (reason : String) (s u : Stage W) : Prop :=
  ∃ deadline s₁ n t passed seen t',
    (w.guardedBy g).deadline.on s = (.ok deadline, s₁) ∧ n < limit ∧
    (w.guardedBy g).Reaches condition description deadline n s₁ t ∧
    Check.Visit g.checks t passed (.fired seen reason) t' ∧
    g.call t = (.ok true, ⟨g.checks, reason⟩, (Check.Ending.fired seen reason).closing t') ∧
    u = (Waiter.Call.guard (.ok (some reason))).closing description
      ((Check.Ending.fired seen reason).closing t')

/-- That something else which the wait called on its way failed with the reason itself. -/
def Suffers (g : Guard W) (w : Waiter W) (condition : Act W Bool) (description : String)
    (limit : Nat) (reason : String) (s u : Stage W) : Prop :=
  (w.guardedBy g).Breaks condition (.tripped reason) s u ∨
  ∃ deadline s₁ n t, (w.guardedBy g).deadline.on s = (.ok deadline, s₁) ∧ n < limit ∧
    (w.guardedBy g).Reaches condition description deadline n s₁ t ∧
    (w.guardedBy g).Breaks condition (.tripped reason) t u

theorem visit_of_trips {g : Guard W} {w : Waiter W} {description reason : String} {t u : Stage W}
    (h : (w.guardedBy g).Trips description reason t u) :
    ∃ passed seen t', Check.Visit g.checks t passed (.fired seen reason) t' ∧
      g.call t = (.ok true, ⟨g.checks, reason⟩, (Check.Ending.fired seen reason).closing t') ∧
      u = (Waiter.Call.guard (.ok (some reason))).closing description
        ((Check.Ending.fired seen reason).closing t') := by
  obtain ⟨guard, t', hguard, hon, hu⟩ := h
  obtain rfl : Check.sweep g.checks = guard := Option.some.inj hguard
  obtain ⟨passed, ending, t₁, hvisit, hsweep, hcall⟩ := g.call_after_eq [] t
  obtain ⟨hresult, rfl⟩ := Prod.mk.inj (hon.symm.trans hsweep)
  -- Only a visit that ends with a check that fired comes to a reason.
  cases ending with
  | quiet => cases hresult
  | notFetched f => cases hresult
  | notJudged seen f => cases hresult
  | notExplained seen f => cases hresult
  | fired seen found =>
    cases hresult
    exact ⟨passed, seen, t₁, hvisit, hcall, hu⟩

/-- Each call of a guard is a visit to its checks, after which it keeps the reason of that visit; and a
wait that fails with a reason has it from the visit of its last tick. -/
theorem reason_is_of_last_visit (g : Guard W) (earlier : List (Stage W)) (s : Stage W) :
    (∃ passed ending t, Check.Visit g.checks s passed ending t ∧
      (g.after earlier).call s =
        (ending.result.map Option.isSome, ⟨g.checks, ending.reason⟩, ending.closing t)) ∧
    ∀ (w : Waiter W) (condition : Act W Bool) (description : String) (limit : Nat)
      (reason : String) (u : Stage W),
      ((w.guardedBy g).waitFor condition description limit).on s = (.error (.tripped reason), u) →
      g.Ends w condition description limit reason s u ∨
        g.Suffers w condition description limit reason s u := by
  constructor
  · obtain ⟨passed, ending, t, hvisit, -, hcall⟩ := g.call_after_eq earlier s
    exact ⟨passed, ending, t, hvisit, hcall⟩
  · intro w condition description limit reason u h
    rcases Waiter.waitFor_tripped h with hbreaks | ⟨deadline, s₁, n, t, hd, hn, hreach, hlast⟩
    · exact Or.inr (Or.inl hbreaks)
    · rcases hlast with htrips | hbreaks
      · obtain ⟨passed, seen, t', hvisit, hcall, hu⟩ := visit_of_trips htrips
        exact Or.inl ⟨deadline, s₁, n, t, passed, seen, t', hd, hn, hreach, hvisit, hcall, hu⟩
      · exact Or.inr (Or.inr ⟨deadline, s₁, n, t, hd, hn, hreach, hbreaks⟩)

/-- A check that does not fire goes before one that does, and the condition holds as well. -/
theorem second_check_ends_wait :
    ∃ (g : Guard Unit) (w : Waiter Unit) (s u : Stage Unit), g.checks.length = 2 ∧
      ((w.guardedBy g).waitFor (pure true) "pods" 2).on s = (.error (.tripped "crash loop"), u) ∧
      g.Ends w (pure true) "pods" 2 "crash loop" s u := by
  let quiet : Check Unit := Check.of (pure "fine") (fun _ => pure false) pure
  let loud : Check Unit := Check.of (pure "crash loop") (fun _ => pure true) pure
  let g : Guard Unit := { checks := [quiet, loud] }
  let w : Waiter Unit :=
    { timeout := .whole 0, interval := .whole 1, clock := pure (.whole 7), sleep := fun _ => pure () }
  let s : Stage Unit := { world := () }
  -- Nothing that this wait calls fails.
  have hsound : ∀ {t u : Stage Unit} {call : Waiter.Call},
      (w.guardedBy g).Makes (pure true) t call u → call.fault? = none := by
    intro t u call h
    cases h with
    | guard there made =>
      cases there
      cases made
      rfl
    | condition made =>
      cases made
      rfl
    | clock made =>
      cases made
      rfl
    | sleep made =>
      cases made
      rfl
  have hwhole : ∀ (f : Fault) (t u : Stage Unit), ¬(w.guardedBy g).Breaks (pure true) f t u := by
    rintro f t u ⟨calls, last, hcalls, hlast⟩
    obtain ⟨t', hmade⟩ := hcalls.last_made
    rw [hsound hmade] at hlast
    cases hlast
  rcases (reason_is_of_last_visit g [] s).2 w (pure true) "pods" 2 "crash loop" _ rfl with
    hends | hbreaks | ⟨deadline, s₁, n, t, -, -, -, hbreaks⟩
  · exact ⟨g, w, s, _, rfl, rfl, hends⟩
  · exact absurd hbreaks (hwhole _ _ _)
  · exact absurd hbreaks (hwhole _ _ _)

end Guard

end Tripwire
