import Mathlib.Data.Rat.Floor
import Tripwire.Proofs.Wait.Ticks

/-!
# Waits for nothing

A wait whose guard never fires and whose condition never holds goes on until its time is over. If all
times are whole and only the wait's own sleep moves the clock, the wait sleeps as often as its interval
has to be laid end to end to cover the timeout, and not at all when the timeout is not above zero.
-/

namespace Tripwire

open Decimal (Number)

variable {W : Type}

/-- How many intervals cover a timeout. -/
def coverings (timeout interval : Int) : Nat := ⌈(timeout : ℚ) / interval⌉.toNat

theorem lt_coverings_iff {timeout interval : Int} (h : 0 < interval) (n : Nat) :
    n < coverings timeout interval ↔ n * interval < timeout := by
  have hpos : (0 : ℚ) < interval := Int.cast_pos.2 h
  rw [coverings, Int.lt_toNat, Int.lt_ceil, lt_div_iff₀ hpos]
  norm_cast

namespace Waiter

theorem count_plan (w : Waiter W) (limit : Nat) (callee : Callee) :
    (w.plan limit).count callee = limit * w.tickPlan.count callee := by
  simp [plan, List.count_flatten]

/-- That a waiter has a guard which never fires and a condition which never holds, and that its clock
shows the time of the world, a whole number that nothing moves on but its sleep, by as much as it is
told to. -/
structure Idle (w : Waiter W) (condition : Act W Bool) (time : W → Int) : Prop where
  guard : ∃ guard, w.guard = some guard ∧
    ∀ s, ∃ t, guard.on s = (.ok none, t) ∧ time t.world = time s.world
  condition : ∀ s, ∃ t, condition.on s = (.ok false, t) ∧ time t.world = time s.world
  clock : ∀ s, ∃ t, w.clock.on s = (.ok (.whole (time s.world)), t) ∧ time t.world = time s.world
  sleep : ∀ (duration : Int) s, ∃ t, (w.sleep (.whole duration)).on s = (.ok (), t) ∧
    time t.world = time s.world + duration

section Idle

variable {w : Waiter W} {condition : Act W Bool} {time : W → Int} {interval : Int}
  (h : w.Idle condition time) {description text : String}
include h

theorem Idle.tickPlan_eq : w.tickPlan = [.guard, .condition, .clock, .sleep] := by
  obtain ⟨guard, hguard, -⟩ := h.guard
  rw [tickPlan, hguard]

theorem Idle.reads_clock (description : String) (s : Stage W) : ∃ guard s₁ s₂ s₃,
    w.guard = some guard ∧ guard.on s = (.ok none, s₁) ∧
    (w.callGuard description).on s = (.ok (), s₁) ∧ condition.on s₁ = (.ok false, s₂) ∧
    w.clock.on s₂ = (.ok (.whole (time s.world)), s₃) ∧ time s₃.world = time s.world := by
  obtain ⟨guard, hguard, hquiet⟩ := h.guard
  obtain ⟨s₁, hg, h₁⟩ := hquiet s
  obtain ⟨s₂, hc, h₂⟩ := h.condition s₁
  obtain ⟨s₃, hn, h₃⟩ := h.clock s₂
  have hsame : time s₂.world = time s.world := h₂.trans h₁
  rw [hsame] at hn h₃
  refine ⟨guard, s₁, s₂, s₃, hguard, hg, ?_, hc, hn, h₃⟩
  rw [callGuard, hguard, Act.on_bind_ok hg]
  rfl

theorem Idle.tick_before (description text : String) (hi : w.interval = .whole interval)
    {deadline : Int} {s : Stage W} (hs : time s.world < deadline) :
    ∃ calls t, w.Course condition text (.whole deadline) w.tickPlan s calls none t ∧
      (w.tick condition description (.whole deadline)).on s = (.ok false, t) ∧
      time t.world = time s.world + interval := by
  obtain ⟨guard, s₁, s₂, s₃, hguard, hg, hcall, hc, hn, h₃⟩ := h.reads_clock description s
  obtain ⟨s₄, hp, h₄⟩ := h.sleep interval s₃
  rw [← hi] at hp
  have hearly : (Number.whole (time s.world)).atLeast (.whole deadline) = false := by
    rw [Decimal.Number.atLeast_whole, decide_eq_false_iff_not]
    omega
  have hgo : (Call.clock (.ok (.whole (time s.world)))).verdict? text (.whole deadline) = none :=
    if_neg (by simp [hearly])
  have hcourse : w.Course condition text (.whole deadline) [.guard, .condition, .clock, .sleep] s
      [.guard (.ok none), .condition (.ok false), .clock (.ok (.whole (time s.world))),
        .sleep (.ok ())] none s₄ :=
    .pass (.guard hguard hg) rfl (.pass (.condition hc) rfl (.pass (.clock hn) hgo
      (.pass (.sleep hp) rfl .done)))
  rw [← h.tickPlan_eq] at hcourse
  refine ⟨_, s₄, hcourse, ?_, by omega⟩
  rw [tick_eq, Act.on_bind_ok hcall, afterGuard, Act.on_bind_ok hc]
  simp only [Bool.false_eq_true, ↓reduceIte]
  rw [Act.on_bind_ok hn, hearly]
  exact Act.on_bind_ok hp

theorem Idle.tick_past (ht : timeoutText w.timeout description = .ok text) {deadline : Int}
    {s : Stage W} (hs : deadline ≤ time s.world) :
    ∃ calls last t, w.Course condition text (.whole deadline) w.tickPlan s calls (some last) t ∧
      calls.map Call.callee = [.guard, .condition, .clock] ∧
      (w.tick condition description (.whole deadline)).on s = (.error (.timedOut text), t) ∧
      outcome description text (.whole deadline) (some last) t = (.error (.timedOut text), t) ∧
      time t.world = time s.world := by
  obtain ⟨guard, s₁, s₂, s₃, hguard, hg, hcall, hc, hn, h₃⟩ := h.reads_clock description s
  have hlate : (Number.whole (time s.world)).atLeast (.whole deadline) = true := by
    rw [Decimal.Number.atLeast_whole, decide_eq_true_iff]
    exact hs
  have hover : (Call.clock (.ok (.whole (time s.world)))).verdict? text (.whole deadline) =
      some (.error (.timedOut text)) := if_pos hlate
  have hcourse : w.Course condition text (.whole deadline) [.guard, .condition, .clock, .sleep] s
      [.guard (.ok none), .condition (.ok false), .clock (.ok (.whole (time s.world)))]
      (some (.clock (.ok (.whole (time s.world))))) s₃ :=
    .pass (.guard hguard hg) rfl (.pass (.condition hc) rfl (.ends (.clock hn) hover))
  rw [← h.tickPlan_eq] at hcourse
  refine ⟨_, _, s₃, hcourse, rfl, ?_, ?_, h₃⟩
  · rw [tick_eq, Act.on_bind_ok hcall, afterGuard, Act.on_bind_ok hc]
    simp only [Bool.false_eq_true, ↓reduceIte]
    rw [Act.on_bind_ok hn, hlate, ht]
    rfl
  · rw [outcome, hover]
    rfl

/-- A wait goes through as many ticks as there are readings before the deadline, and one more. -/
theorem Idle.ticks_run (hi : w.interval = .whole interval)
    (ht : timeoutText w.timeout description = .ok text) {deadline : Int} {n : Nat} {s : Stage W}
    (hbefore : ∀ m : Nat, m < n → time s.world + m * interval < deadline)
    (hpast : deadline ≤ time s.world + n * interval) (more : Nat) :
    ∃ calls last t,
      w.Course condition text (.whole deadline) (w.plan (n + 1 + more)) s calls (some last) t ∧
      calls.map Call.callee = w.plan n ++ [.guard, .condition, .clock] ∧
      (w.ticks condition description (.whole deadline) (n + 1 + more)).on s =
        (.error (.timedOut text), t) ∧
      outcome description text (.whole deadline) (some last) t = (.error (.timedOut text), t) ∧
      time t.world = time s.world + n * interval := by
  induction n generalizing s with
  | zero =>
    have hs : deadline ≤ time s.world := by simpa using hpast
    obtain ⟨calls, last, t, hcourse, horder, hon, hout, htime⟩ :=
      h.tick_past ht hs
    have hplan : w.plan (0 + 1 + more) = w.tickPlan ++ w.plan more := by
      rw [Nat.zero_add, Nat.add_comm, plan, List.replicate_succ, List.flatten_cons, plan]
    refine ⟨calls, last, t, ?_, horder, ?_, hout, by simpa using htime⟩
    · rw [hplan]
      exact hcourse.ended _
    · rw [Nat.zero_add, Nat.add_comm, ticks]
      exact Act.on_bind_error hon
  | succ n ih =>
    have hs : time s.world < deadline := by simpa using hbefore 0 (Nat.succ_pos n)
    obtain ⟨first, s₁, hfirst, htick, hmoved⟩ := h.tick_before description text hi hs
    have hbefore₁ (m : Nat) (hm : m < n) : time s₁.world + m * interval < deadline := by
      have hnext := hbefore (m + 1) (Nat.succ_lt_succ hm)
      rw [Nat.cast_succ, Int.add_mul] at hnext
      omega
    have hpast₁ : deadline ≤ time s₁.world + n * interval := by
      rw [Nat.cast_succ, Int.add_mul] at hpast
      omega
    obtain ⟨calls, last, t, hcourse, horder, hon, hout, htime⟩ := ih hbefore₁ hpast₁
    have hplan (k : Nat) : w.plan (k + 1) = w.tickPlan ++ w.plan k := by
      rw [plan, List.replicate_succ, List.flatten_cons, plan]
    have hlimit : n + 1 + 1 + more = (n + 1 + more) + 1 := by omega
    refine ⟨first ++ calls, last, t, ?_, ?_, ?_, hout, ?_⟩
    · rw [hlimit, hplan]
      exact hfirst.append hcourse
    · have hall : first.map Call.callee = w.tickPlan :=
        hfirst.order.eq_of_length (by rw [List.length_map, hfirst.of_none.1])
      rw [List.map_append, hall, horder, hplan, List.append_assoc]
    · rw [hlimit, ticks, Act.on_bind_ok htick]
      exact hon
    · rw [htime, hmoved, Nat.cast_succ, Int.add_mul]
      omega

end Idle

/-- A wait for nothing sleeps once for each interval that it takes to cover the timeout, calls its guard
and its condition once more than that, and ends with the first reading at which the timeout is covered. -/
theorem idle_wait_covers_timeout {w : Waiter W} {condition : Act W Bool} {time : W → Int}
    {timeout interval : Int} (h : w.Idle condition time) (htimeout : w.timeout = .whole timeout)
    (hinterval : w.interval = .whole interval) (hpos : 0 < interval) {description text : String}
    (ht : timeoutText (.whole timeout) description = .ok text) {limit : Nat}
    (hlimit : coverings timeout interval < limit) (s : Stage W) :
    ∃ t calls u, w.clock.on s = (.ok (.whole (time s.world)), t) ∧
      (w.waitFor condition description limit).on s = (.error (.timedOut text), u) ∧
      w.CallsOf condition description text (.whole (time s.world + timeout)) limit t calls
        (.error (.timedOut text)) u ∧
      (calls.map Call.callee).count .sleep = coverings timeout interval ∧
      (calls.map Call.callee).count .guard = coverings timeout interval + 1 ∧
      (calls.map Call.callee).count .condition = coverings timeout interval + 1 ∧
      time u.world = time s.world + coverings timeout interval * interval ∧
      time s.world + timeout ≤ time u.world ∧
      (0 ≤ timeout → time u.world < time s.world + timeout + interval) := by
  have hcover (n : Nat) : n < coverings timeout interval ↔ n * interval < timeout :=
    lt_coverings_iff hpos n
  have hlast := hcover (coverings timeout interval)
  obtain ⟨t, hclock, htime⟩ := h.clock s
  have hbefore (m : Nat) (hm : m < coverings timeout interval) :
      time t.world + m * interval < time s.world + timeout := by
    have hshort := (hcover m).1 hm
    omega
  have hpast : time s.world + timeout ≤ time t.world + coverings timeout interval * interval := by
    omega
  rw [← htimeout] at ht
  obtain ⟨more, rfl⟩ : ∃ more, limit = coverings timeout interval + 1 + more :=
    Nat.exists_eq_add_of_le hlimit
  obtain ⟨calls, last, u, hcourse, horder, hon, hout, hend⟩ :=
    h.ticks_run hinterval ht hbefore hpast more
  have hdeadline : w.deadline.on s = (.ok (.whole (time s.world + timeout)), t) := by
    rw [Waiter.deadline, Act.on_bind_ok hclock, htimeout, Decimal.Number.add?_whole]
    rfl
  refine ⟨t, calls, u, hclock, (Act.on_bind_ok hdeadline).trans hon, hcourse.callsOf hout, ?_, ?_, ?_,
    by omega, by omega, fun hstart => ?_⟩
  · simp [horder, count_plan, h.tickPlan_eq]
  · simp [horder, count_plan, h.tickPlan_eq]
  · simp [horder, count_plan, h.tickPlan_eq]
  · -- One interval less does not cover the timeout, and none covers it only if it is zero.
    rcases Nat.eq_zero_or_pos (coverings timeout interval) with hzero | hsome
    · rw [hzero] at hend
      omega
    · have hshort := (hcover (coverings timeout interval - 1)).1 (Nat.sub_lt hsome Nat.one_pos)
      rw [Nat.cast_sub hsome, Nat.cast_one, Int.sub_mul] at hshort
      omega

/-- A sleep that moves a clock of whole seconds on. -/
def passSeconds (duration : Number) : Act Int Unit :=
  match duration with
  | .whole d => Act.change (· + d)
  | .real _ => pure ()

/-- Five seconds take three sleeps of two, and the last reading is one second late. -/
theorem short_interval_ends_late :
    ∃ w : Waiter Int, ∃ text s t calls u, w.timeout = .whole 5 ∧ w.interval = .whole 2 ∧
      timeoutText w.timeout "pods" = .ok text ∧ s.world = 7 ∧
      (w.waitFor (pure false) "pods" 4).on s = (.error (.timedOut text), u) ∧
      w.CallsOf (pure false) "pods" text (.whole 12) 4 t calls (.error (.timedOut text)) u ∧
      (calls.map Call.callee).count .sleep = 3 ∧ (calls.map Call.callee).count .guard = 4 ∧
      (calls.map Call.callee).count .condition = 4 ∧ u.world = 13 := by
  let w : Waiter Int :=
    { timeout := .whole 5, interval := .whole 2, guard := some (pure none),
      clock := Number.whole <$> Act.look id, sleep := passSeconds }
  have hidle : w.Idle (pure false) id :=
    { guard := ⟨_, rfl, fun s => ⟨s, rfl, rfl⟩⟩
      condition := fun s => ⟨s, rfl, rfl⟩
      clock := fun s => ⟨s, rfl, rfl⟩
      sleep := fun duration s => ⟨{ s with world := s.world + duration }, rfl, rfl⟩ }
  have hcover : coverings 5 2 = 3 := by
    have hceil : ⌈((5 : Int) : ℚ) / (2 : Int)⌉ = 3 := by
      rw [Int.ceil_eq_iff]
      norm_num
    rw [coverings, hceil]
    rfl
  have hlimit : coverings 5 2 < 4 := by
    rw [hcover]
    decide
  have hfive : (Number.whole 5).toDouble? = some 5 := by decide
  have ht := timeoutText_of_double hfive "pods"
  let s : Stage Int := { world := 7 }
  obtain ⟨t, calls, u, -, hwait, hcalls, hsleep, hguard, hcondition, hend, -, -⟩ :=
    idle_wait_covers_timeout hidle rfl rfl (by decide) ht hlimit s
  rw [hcover] at hsleep hguard hcondition hend
  exact ⟨w, _, s, t, calls, u, rfl, rfl, ht, rfl, hwait, hcalls, hsleep, hguard, hcondition, hend⟩

end Waiter

end Tripwire
