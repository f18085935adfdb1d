import Tripwire.Proofs.CommandLine.Added
import Tripwire.Proofs.CommandLine.Script
import Tripwire.Proofs.CommandLine.Verdict
import Tripwire.Proofs.Decimal.Sum
import Tripwire.Proofs.Wait.Ticks

/-!
# A watch without time

A watch whose timeout is not above zero is over when its check was called for the first time: the clock
does not go back, so it is past the deadline by then. Such a watch does what a look does. It makes the
same requests, and it ends in the same way or fails with the same fault.
-/

namespace Tripwire

open Decimal (Number)
open Time (Moment)

variable {W : Type}

namespace Waiter

/-- The fault with which a wait for nothing ends when its time is over, by what its guard gave. -/
def faultOf (text : String) : Except Fault (Option String) → Fault
  | .ok none => .timedOut text
  | .ok (some reason) => .tripped reason
  | .error f => f

variable {w : Waiter W} {guard : Act W (Option String)} {deadline start now : Number}
  {description text : String} {r : Except Fault (Option String)} {s s₁ s₂ s₃ : Stage W}

theorem on_afterGuard_over (ht : timeoutText w.timeout description = .ok text)
    (hnow : w.clock.on s₂ = (.ok now, s₃)) (hover : now.atLeast deadline = true) :
    (w.afterGuard (pure false) description deadline).on s₂ = (.error (.timedOut text), s₃) := by
  have hfails : (if now.atLeast deadline then do
        let text ← Act.ofExcept (timeoutText w.timeout description)
        Act.fail (.timedOut text)
      else do
        w.sleep w.interval
        return false : Act W Bool).on s₃ = (.error (.timedOut text), s₃) := by
    rw [if_pos hover, ht]
    rfl
  exact (Act.on_bind_ok hnow).trans hfails

theorem on_tick_over (hguard : w.guard = some guard)
    (ht : timeoutText w.timeout description = .ok text) (hr : guard.on s₁ = (r, s₂))
    (hnow : w.clock.on s₂ = (.ok now, s₃)) (hover : now.atLeast deadline = true) :
    ∃ u, (w.tick (pure false) description deadline).on s₁ = (.error (faultOf text r), u) ∧
      (u.world = s₂.world ∨ u.world = s₃.world) := by
  rw [tick_eq]
  cases r with
  | error f =>
    have hcall : (w.callGuard description).on s₁ = (.error f, s₂) := by
      rw [callGuard, hguard]
      exact Act.on_bind_error hr
    exact ⟨s₂, Act.on_bind_error hcall, .inl rfl⟩
  | ok fired =>
    cases fired with
    | some reason =>
      have hcall : (w.callGuard description).on s₁ =
          (.error (.tripped reason), (Call.guard (.ok (some reason))).closing description s₂) := by
        rw [callGuard, hguard]
        exact Act.on_bind_ok hr
      exact ⟨_, Act.on_bind_error hcall, .inl rfl⟩
    | none =>
      have hcall : (w.callGuard description).on s₁ = (.ok (), s₂) := by
        rw [callGuard, hguard]
        exact Act.on_bind_ok hr
      exact ⟨s₃, (Act.on_bind_ok hcall).trans (on_afterGuard_over ht hnow hover), .inr rfl⟩

/-- A wait for nothing is over after the first call of its guard if the time is past the deadline by
then. -/
theorem on_waitFor_over (hguard : w.guard = some guard)
    (ht : timeoutText w.timeout description = .ok text) (hstart : w.clock.on s = (.ok start, s₁))
    (hadd : start.add? w.timeout = some deadline) (hr : guard.on s₁ = (r, s₂))
    (hnow : w.clock.on s₂ = (.ok now, s₃)) (hover : now.atLeast deadline = true) {limit : Nat}
    (hlimit : 0 < limit) :
    ∃ u, (w.waitFor (pure false) description limit).on s = (.error (faultOf text r), u) ∧
      (u.world = s₂.world ∨ u.world = s₃.world) := by
  obtain ⟨u, htick, hworld⟩ := on_tick_over hguard ht hr hnow hover
  have hdeadline : w.deadline.on s = (.ok deadline, s₁) := by
    rw [Waiter.deadline, Act.on_bind_ok hstart, hadd]
    rfl
  obtain ⟨limit, rfl⟩ := Nat.exists_eq_succ_of_ne_zero (Nat.ne_of_gt hlimit)
  refine ⟨u, ?_, hworld⟩
  rw [waitFor, Act.on_bind_ok hdeadline, ticks]
  exact Act.on_bind_error htick

end Waiter

namespace CommandLine

section Look

variable {o : Outside W} {waiting : Waiting} {guard : Guard W} {x y : Float}
  {r : Except Fault (Option String)} {s s₁ s₂ s₃ : Stage W}

theorem on_watch (hstart : o.clock.on s = (.ok (.real x), s₁))
    (hsweep : (Check.sweep guard.checks).on s₁ = (r, s₂)) (hr : Harmless r)
    (hnow : o.clock.on s₂ = (.ok (.real y), s₃))
    (hover : (Number.real y).atLeast (.real (x + waiting.timeout)) = true)
    (hpatience : 0 < o.patience) :
    ∃ u, (watch o waiting guard).on s = (r.map endingOf, u) ∧
      (u.world = s₂.world ∨ u.world = s₃.world) := by
  let waiter : Waiter W :=
    { timeout := .real waiting.timeout
      interval := .real waiting.interval
      guard := some (Check.sweep guard.checks)
      clock := o.clock
      sleep := o.sleep }
  have hdouble : waiter.timeout.toDouble? = some waiting.timeout := rfl
  have htext := Waiter.timeoutText_of_double hdouble "matching events"
  obtain ⟨u, hwait, hworld⟩ :=
    waiter.on_waitFor_over rfl htext hstart rfl hsweep hnow hover hpatience
  have hfails : (do
      let _ ← waiter.waitFor (pure false) "matching events" o.patience
      return { status := 0 } : Act W Ending).on s = (.error (Waiter.faultOf _ r), u) :=
    Act.on_bind_error hwait
  rw [watch, Act.on_tryCatch, hfails]
  cases r with
  | ok fired =>
    cases fired with
    | none => exact ⟨_, rfl, hworld⟩
    | some reason => exact ⟨_, rfl, hworld⟩
  | error f =>
    -- The fault is not one of the wait itself, so it is passed on.
    have hpassed := hr f rfl
    refine ⟨u, ?_, hworld⟩
    cases f with
    | tripped reason => cases hpassed
    | timedOut text => cases hpassed
    | _ => rfl

end Look

/-- That two runs end in the same way or fail with the same fault, after the same contacts. -/
def Agree (x y : Except Fault Ending × Stage Progress) : Prop :=
  x.1 = y.1 ∧ x.2.world.contacts = y.2.world.contacts

section Modes

variable {script : Script} {a : Arguments} {t : Float} {now now' : Moment}
  {sleep : Number → Act Progress Unit} {patience : Nat} {config : Config} {s : Stage Progress}

theorem talks_guardOf (script : Script) (now : Moment) (sleep : Number → Act Progress Unit)
    (patience : Nat) (config : Config) (c : Criteria) :
    (Check.sweep (guardOf (script.outside now sleep patience) config c).checks).Talks := by
  rw [checks_guardOf]
  refine c.talks_sweep fun source hsource => ?_
  obtain ⟨connection, -, rfl⟩ := List.mem_map.1 hsource
  exact script.talks_listEvents connection

/-- That a wait is over by the reading of the clock after the one with which it began. -/
def OverAfter (script : Script) (t : Float) (n : Nat) : Prop :=
  (Number.real (script.reading (n + 1))).atLeast (.real (script.reading n + t)) = true

/-- A look and a watch that is over at once come to the same. -/
theorem look_agrees (hover : OverAfter script t s.world.readings) (hpatience : 0 < patience)
    {guard : Guard Progress} (hguard : (Check.sweep guard.checks).Talks) (interval : Float) :
    Agree ((lookOnce guard).on s)
      ((watch (script.outside now sleep patience) ⟨t, interval⟩ guard).on s) := by
  obtain ⟨⟨contacts, readings⟩, journal⟩ := s
  obtain ⟨r, after, hr, hsweep⟩ := hguard contacts
  obtain ⟨records, hlook⟩ := hsweep readings journal
  obtain ⟨u, hlook, hu⟩ := exists_on_lookOnce hlook
  -- Between the two readings of the clock the sweep reads none.
  obtain ⟨records', hwatch⟩ := hsweep (readings + 1) journal
  have hstart := script.on_clock ⟨⟨contacts, readings⟩, journal⟩
  have hnow := script.on_clock ⟨⟨after, readings + 1⟩, records'⟩
  let waiting : Waiting := ⟨t, interval⟩
  have hpast : (Number.real (script.reading (readings + 1))).atLeast
      (.real (script.reading readings + waiting.timeout)) = true := hover
  obtain ⟨v, hwatch, hv⟩ :=
    on_watch (o := script.outside now sleep patience) hstart hwatch hr hnow hpast hpatience
  rw [hlook, hwatch]
  refine ⟨rfl, ?_⟩
  obtain hv | hv := hv
  · rw [hu, hv]
  · rw [hu, hv]

theorem goOn_agrees (hover : OverAfter script t s.world.readings) (hpatience : 0 < patience)
    (a : Arguments) (config : Config) (since : Moment) :
    Agree
      ((goOn (script.outside now sleep patience) { a with once := true } config (some since)).on s)
      ((goOn (script.outside now' sleep patience) { a with timeout := some t } config
        (some since)).on s) := by
  let guard := guardOf (script.outside now sleep patience) config (criteriaOf a since)
  have htalks : (Check.sweep guard.checks).Talks :=
    talks_guardOf script now sleep patience config (criteriaOf a since)
  have hlook : goOn (script.outside now sleep patience) { a with once := true } config
      (some since) = lookOnce guard := rfl
  have hwatch : goOn (script.outside now' sleep patience) { a with timeout := some t } config
      (some since) = if a.once then lookOnce guard
        else watch (script.outside now' sleep patience) ⟨t, config.waiting.interval⟩ guard := rfl
  rw [hlook, hwatch]
  cases a.once with
  | true => exact ⟨rfl, rfl⟩
  | false => exact look_agrees hover hpatience htalks config.waiting.interval

theorem runWith_agrees (hsince : a.since ≠ none)
    (hover : OverAfter script t s.world.readings) (hpatience : 0 < patience) :
    Agree ((runWith (script.outside now sleep patience) { a with once := true } config).on s)
      ((runWith (script.outside now' sleep patience) { a with timeout := some t } config).on s) := by
  by_cases hclusters : config.clusters = []
  · rw [runWith_of_no_clusters hclusters, runWith_of_no_clusters hclusters]
    exact ⟨rfl, rfl⟩
  · obtain ⟨text, hsome⟩ := Option.ne_none_iff_exists'.1 hsince
    have hgiven (now : Moment) :
        (sinceOf now a.since : Act Progress _) = (Value.text text).timestamp := by
      rw [hsome]
      rfl
    obtain ⟨r, hreads, -⟩ := (Value.text text).readsAs_timestamp (V := Unit) (W := Progress)
    have hbound := hreads.on_eq s
    rw [runWith_eq hclusters, runWith_eq hclusters, hgiven, hgiven]
    cases r with
    | error f =>
      rw [Act.on_bind_error hbound, Act.on_bind_error hbound]
      exact ⟨rfl, rfl⟩
    | ok bound =>
      rw [Act.on_bind_ok hbound, Act.on_bind_ok hbound]
      cases bound with
      | none => exact ⟨rfl, rfl⟩
      | some since =>
        rw [← hreads.world_eq s] at hover
        exact goOn_agrees hover hpatience a config since

/-- A call to look once and the same call with a timeout that is not above zero agree, also when they
begin at different moments. The clock must not begin beyond all numbers if the timeout is below all of
them, since there is no sum of the two. -/
theorem modes_agree {arguments more : List String} {text : String}
    (hread : Arguments.ofStrings arguments = .ok a) (hsince : a.since ≠ none)
    (hmore : SetsTimeout text more) (htext : Decimal.readReal? text = some t)
    (hzero : (Number.whole 0).atLeast (.real t) = true)
    (hfinite : ¬((Number.real (script.reading 0)).amount? = some .top ∧
      (Number.real t).amount? = some .bottom)) (hpatience : 0 < patience) :
    Agree ((carryOut (script.outside now sleep patience) (arguments ++ ["--once"])).on ⟨{}, []⟩)
      ((carryOut (script.outside now' sleep patience) (arguments ++ more)).on ⟨{}, []⟩) := by
  rw [carryOut_of_ok (ofStrings_once hread), carryOut_of_ok (ofStrings_timeout hread hmore htext)]
  cases hset : overridesOf a.overrides [] with
  | error s =>
    rw [run, run, hset]
    exact ⟨rfl, rfl⟩
  | ok overrides =>
    rcases hload : (loadConfig script.host none a.config none overrides).on
      (⟨{}, []⟩ : Stage Progress) with ⟨r, s⟩
    cases r with
    | error f =>
      have hlook := on_run_of_error (o := script.outside now sleep patience)
        (a := { a with once := true }) hset hload
      have hwatch := on_run_of_error (o := script.outside now' sleep patience)
        (a := { a with timeout := some t }) hset hload
      rw [hlook, hwatch]
      exact ⟨rfl, rfl⟩
    | ok config =>
      have hworld := (script.host.reads_loadConfig (W := Progress) none a.config none overrides).world_eq
        ⟨{}, []⟩
      rw [hload] at hworld
      have hlook := on_run_of_load (o := script.outside now sleep patience)
        (a := { a with once := true }) hset hload
      have hwatch := on_run_of_load (o := script.outside now' sleep patience)
        (a := { a with timeout := some t }) hset hload
      rw [hlook, hwatch]
      refine runWith_agrees hsince ?_ hpatience
      rw [hworld]
      exact Decimal.atLeast_sum (script.steady 0) hzero hfinite

def pausing : Nat → Float
  | 0 => 1.5
  | _ + 1 => 2.5

theorem pausing_steady (n : Nat) :
    (Number.real (pausing (n + 1))).atLeast (.real (pausing n)) = true := by
  have hlater : (Number.real 2.5).atLeast (.real 1.5) = true := by decide +kernel
  have hsame : (Number.real 2.5).atLeast (.real 2.5) = true := by decide +kernel
  cases n with
  | zero => exact hlater
  | succ n => exact hsame

/-- One page that is given whenever it is asked for, and a clock that stands still after its first
reading. -/
def onePageAlways : Script where
  host := oneCluster.host
  respond _ := .ok twoEntries
  reach _ := 1
  reading := pausing
  harmless _ := harmless_ok twoEntries
  steady := pausing_steady

/-- A call that finds an event, once with a look and once with a negative timeout. -/
theorem negative_timeout_finds_what_a_look_finds :
    let o := onePageAlways.outside Moment.first (fun _ => pure ()) 1
    let look := (carryOut o (["--since=2020-01-01"] ++ ["--once"])).on ⟨{}, []⟩
    let watch := (carryOut o (["--since=2020-01-01"] ++ ["--timeout", "-1"])).on ⟨{}, []⟩
    Agree look watch ∧ ∃ ending, watch.1 = .ok ending ∧ ending.status = 1 := by
  intro o look watch
  obtain ⟨a, hread, hsince⟩ := exists_ok_of_toOption (f := fun a : Arguments => a.since)
    (b := some "2020-01-01") (x := Arguments.ofStrings ["--since=2020-01-01"]) (by decide +kernel)
  have hgiven : a.since ≠ none := by simp [hsince]
  have hword : Piece.ofText "-1" = .ok (.word "-1") := by rfl
  have htext : Decimal.readReal? "-1" = some (-1.0) := by decide +kernel
  have hbounded : (Number.real (-1.0)).amount? ≠ some .bottom := by decide +kernel
  have hagree : Agree look watch := modes_agree hread hgiven (.alone hword) htext (by decide +kernel)
    (fun h => hbounded h.2) (by decide)
  obtain ⟨ending, hfound, hstatus⟩ := exists_ok_of_toOption (f := Ending.status) (b := 1)
    (x := look.1) (by decide +kernel)
  exact ⟨hagree, ending, hagree.1.symm.trans hfound, hstatus⟩

end Modes

end CommandLine

end Tripwire
