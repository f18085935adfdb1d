import Tripwire.Proofs.Wait.Ticks

/-!
# Failing waits

A wait that fails does so in one tick, which the ticks before it let it reach. In that tick either the
guard fired, or the time was over, or something that the tick called failed itself.
-/

namespace Tripwire

open Decimal (Number)

variable {W : Type}

namespace Waiter

/-- That a wait gets from one stage to the beginning of its tick of a number on the other. -/
inductive Reaches (w : Waiter W) (condition : Act W Bool) (description : String)
    (deadline : Number) : Nat → Stage W → Stage W → Prop where
  | first {s : Stage W} : Reaches w condition description deadline 0 s s
  | next {n : Nat} {s t u : Stage W}
      (passed : (w.tick condition description deadline).on s = (.ok false, t))
      (rest : Reaches w condition description deadline n t u) :
      Reaches w condition description deadline (n + 1) s u

def Call.fault? : Call → Option Fault
  | guard (.error f) | condition (.error f) | clock (.error f) | sleep (.error f) => some f
  | _ => none

/-- That calls made one after the other lead to a last one that fails, with the given fault. -/
def Breaks (w : Waiter W) (condition : Act W Bool) (f : Fault) (s u : Stage W) : Prop :=
  ∃ calls last, w.Calls condition s (calls ++ [last]) u ∧ last.fault? = some f

/-- That the guard fires in its call on a stage, which ends the wait. -/
def Trips (w : Waiter W) (description reason : String) (s u : Stage W) : Prop :=
  ∃ guard t, w.guard = some guard ∧ guard.on s = (.ok (some reason), t) ∧
    u = (Call.guard (.ok (some reason))).closing description t

variable {w : Waiter W} {condition : Act W Bool} {description : String} {deadline : Number}
  {f : Fault} {reason : String} {s u : Stage W}

theorem callGuard_error (h : (w.callGuard description).on s = (.error f, u)) :
    (∃ reason, f = .tripped reason ∧ w.Trips description reason s u) ∨ w.Breaks condition f s u := by
  cases hg : w.guard with
  | none =>
    rw [callGuard, hg] at h
    cases h
  | some guard =>
    rw [callGuard, hg] at h
    rcases Act.on_bind_eq_error h with hr | ⟨found, t, hr, h⟩
    · exact Or.inr ⟨[], _, .cons (.guard hg hr) .nil, rfl⟩
    · cases found with
      | none => cases h
      | some reason =>
        cases h
        exact Or.inl ⟨reason, rfl, guard, t, hg, hr, rfl⟩

theorem callGuard_ok (condition : Act W Bool)
    (h : (w.callGuard description).on s = (.ok (), u)) :
    ∃ calls, w.Calls condition s calls u := by
  cases hg : w.guard with
  | none =>
    rw [callGuard, hg] at h
    cases h
    exact ⟨[], .nil⟩
  | some guard =>
    rw [callGuard, hg] at h
    obtain ⟨found, t, hr, h⟩ := Act.on_bind_eq_ok h
    cases found with
    | none =>
      cases h
      exact ⟨_, .cons (.guard hg hr) .nil⟩
    | some reason => cases h

theorem timeoutText_ne_tripped {timeout : Number} :
    timeoutText timeout description ≠ .error (.tripped reason) := by
  rw [timeoutText]
  cases timeout.toDouble? with
  | none => simp
  | some x => simp

theorem afterGuard_tripped
    (h : (w.afterGuard condition description deadline).on s = (.error (.tripped reason), u)) :
    w.Breaks condition (.tripped reason) s u := by
  rw [afterGuard] at h
  rcases Act.on_bind_eq_error h with hc | ⟨holds, s₁, hc, h⟩
  · exact ⟨[], _, .cons (.condition hc) .nil, rfl⟩
  · cases holds with
    | true => cases h
    | false =>
      simp only [Bool.false_eq_true, ↓reduceIte] at h
      rcases Act.on_bind_eq_error h with hn | ⟨now, s₂, hn, h⟩
      · exact ⟨[_], _, .cons (.condition hc) (.cons (.clock hn) .nil), rfl⟩
      · cases hd : now.atLeast deadline with
        | true =>
          -- A wait whose time is over fails with a text about that, or because there is none.
          simp only [hd, ↓reduceIte] at h
          cases ht : timeoutText w.timeout description with
          | error f =>
            rw [ht] at h
            cases h
            exact absurd ht timeoutText_ne_tripped
          | ok text =>
            rw [ht] at h
            cases h
        | false =>
          simp only [hd, Bool.false_eq_true, ↓reduceIte] at h
          rcases Act.on_bind_eq_error h with hs | ⟨_, s₃, -, h⟩
          · exact ⟨[_, _], _, .cons (.condition hc) (.cons (.clock hn) (.cons (.sleep hs) .nil)), rfl⟩
          · cases h

theorem Calls.append {as bs : List Call} {t : Stage W} (h : w.Calls condition s as t)
    (h' : w.Calls condition t bs u) : w.Calls condition s (as ++ bs) u := by
  induction h with
  | nil => exact h'
  | cons head _ ih => exact .cons head (ih h')

theorem Calls.last_made {calls : List Call} {last : Call}
    (h : w.Calls condition s (calls ++ [last]) u) : ∃ t, w.Makes condition t last u := by
  induction calls generalizing s with
  | nil =>
    cases h with
    | cons head tail =>
      cases tail
      exact ⟨s, head⟩
  | cons call calls ih =>
    cases h with
    | cons _ tail => exact ih tail

theorem tick_tripped
    (h : (w.tick condition description deadline).on s = (.error (.tripped reason), u)) :
    w.Trips description reason s u ∨ w.Breaks condition (.tripped reason) s u := by
  rw [tick_eq] at h
  rcases Act.on_bind_eq_error h with hg | ⟨_, t, hg, h⟩
  · rcases callGuard_error hg with ⟨reason', hreason, htrips⟩ | hbreaks
    · cases hreason
      exact Or.inl htrips
    · exact Or.inr hbreaks
  · obtain ⟨before, hbefore⟩ := callGuard_ok condition hg
    obtain ⟨calls, last, hcalls, hlast⟩ := afterGuard_tripped h
    refine Or.inr ⟨before ++ calls, last, ?_, hlast⟩
    rw [List.append_assoc]
    exact hbefore.append hcalls

theorem ticks_error {limit : Nat}
    (h : (w.ticks condition description deadline limit).on s = (.error f, u)) :
    ∃ n t, n < limit ∧ w.Reaches condition description deadline n s t ∧
      (w.tick condition description deadline).on t = (.error f, u) := by
  induction limit generalizing s with
  | zero => cases h
  | succ limit ih =>
    rw [ticks] at h
    rcases Act.on_bind_eq_error h with htick | ⟨holds, t, htick, h⟩
    · exact ⟨0, s, Nat.zero_lt_succ limit, .first, htick⟩
    · cases holds with
      | true => cases h
      | false =>
        obtain ⟨n, t', hn, hreach, hlast⟩ := ih h
        exact ⟨n + 1, t', Nat.succ_lt_succ hn, .next htick hreach, hlast⟩

/-- A wait that fails with a reason has it from its guard, which fired in the last tick, unless
something that it called failed so itself. -/
theorem waitFor_tripped {limit : Nat}
    (h : (w.waitFor condition description limit).on s = (.error (.tripped reason), u)) :
    w.Breaks condition (.tripped reason) s u ∨
    ∃ deadline s₁ n t, w.deadline.on s = (.ok deadline, s₁) ∧ n < limit ∧
      w.Reaches condition description deadline n s₁ t ∧
      (w.Trips description reason t u ∨ w.Breaks condition (.tripped reason) t u) := by
  rw [waitFor] at h
  rcases Act.on_bind_eq_error h with hd | ⟨deadline, s₁, hd, h⟩
  · left
    rw [Waiter.deadline] at hd
    rcases Act.on_bind_eq_error hd with hc | ⟨start, s₂, -, hd⟩
    · exact ⟨[], _, .cons (.clock hc) .nil, rfl⟩
    · cases hadd : start.add? w.timeout with
      | none =>
        rw [hadd] at hd
        cases hd
      | some d =>
        rw [hadd] at hd
        cases hd
  · obtain ⟨n, t, hn, hreach, hlast⟩ := ticks_error h
    exact Or.inr ⟨deadline, s₁, n, t, hd, hn, hreach, tick_tripped hlast⟩

end Waiter

end Tripwire
