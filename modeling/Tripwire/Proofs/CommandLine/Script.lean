import Tripwire.CommandLine.Run
import Tripwire.Proofs.Event.Harmless

/-!
# Scripted runs

A script holds what comes from outside in the course of a run: what clusters respond, which may depend
on all that was asked before, and the readings of the clock. An act talks to clusters if all that counts
for it, and all that it adds to, are the contacts up to now; how often the clock was read, and what
stands in the journal, makes no difference. A sweep of an event check is such an act.
-/

namespace Tripwire

open Decimal (Number)

variable {α β : Type}

/-- What goes out to clusters: a client is set up, or a request is made. -/
inductive Contact where
  | client (c : Client)
  | request (q : Request)

/-- How far a run has come: its contacts in order, and how often it read the clock. -/
structure Progress where
  contacts : List Contact := []
  readings : Nat := 0

/-- What comes from outside. A response is one to the last of the contacts so far. Requests do not fail
in the way in which waits do, and the clock does not go back. -/
structure Script where
  host : Host
  respond : List Contact → Except Fault Response
  reach : List Contact → Nat
  reading : Nat → Float
  harmless : ∀ contacts, Harmless (respond contacts)
  steady : ∀ n, (Number.real (reading (n + 1))).atLeast (.real (reading n)) = true

namespace Script

def network (script : Script) : Network Progress where
  connect c := Act.change fun p => { p with contacts := p.contacts ++ [.client c] }
  get q := do
    Act.change fun p => { p with contacts := p.contacts ++ [.request q] }
    let contacts ← Act.look (·.contacts)
    Act.ofExcept (script.respond contacts)
  reach p := script.reach p.contacts

def clock (script : Script) : Act Progress Number := do
  let n ← Act.look (·.readings)
  Act.change fun p => { p with readings := n + 1 }
  return .real (script.reading n)

/-- The surroundings of a run that begins at a given moment. -/
def outside (script : Script) (now : Time.Moment) (sleep : Number → Act Progress Unit)
    (patience : Nat) : CommandLine.Outside Progress where
  host := script.host
  network := script.network
  clock := script.clock
  sleep := sleep
  now := now
  patience := patience

theorem on_clock (script : Script) (s : Stage Progress) :
    script.clock.on s = (.ok (.real (script.reading s.world.readings)),
      { s with world := { s.world with readings := s.world.readings + 1 } }) := rfl

end Script

/-! ### Acts that talk -/

namespace Act

/-- That what an act comes to, and the contacts after it, are settled by the contacts before it; and
that it does not fail in the way in which waits do. -/
def Talks (act : Act Progress α) : Prop :=
  ∀ contacts, ∃ r after, Harmless r ∧ ∀ readings journal, ∃ records,
    act.on ⟨⟨contacts, readings⟩, journal⟩ = (r, ⟨⟨after, readings⟩, records⟩)

theorem talks_of_reads {act : Act Progress α} {r : Except Fault α} (h : act.Reads r)
    (hr : Harmless r) : act.Talks := by
  obtain ⟨notes, hact⟩ := h
  exact fun contacts => ⟨r, contacts, hr, fun readings journal => ⟨_, hact _⟩⟩

theorem talks_pure (a : α) : (pure a : Act Progress α).Talks :=
  talks_of_reads (reads_pure a) (harmless_ok a)

theorem talks_note (level : Level) (text : String) : (note level text : Act Progress Unit).Talks :=
  talks_of_reads (reads_note level text) (harmless_ok ())

theorem talks_ofExcept {r : Except Fault α} (hr : Harmless r) :
    (ofExcept r : Act Progress α).Talks := talks_of_reads (reads_ofExcept r) hr

theorem Talks.bind {act : Act Progress α} {next : α → Act Progress β} (h : act.Talks)
    (h' : ∀ a, (next a).Talks) : (act >>= next).Talks := by
  intro contacts
  obtain ⟨r, after, hr, hact⟩ := h contacts
  cases r with
  | error f =>
    refine ⟨.error f, after, harmless_error (hr f rfl), fun readings journal => ?_⟩
    obtain ⟨records, hon⟩ := hact readings journal
    exact ⟨records, on_bind_error hon⟩
  | ok a =>
    obtain ⟨r, last, hr, hnext⟩ := h' a after
    refine ⟨r, last, hr, fun readings journal => ?_⟩
    obtain ⟨records, hon⟩ := hact readings journal
    obtain ⟨more, hmore⟩ := hnext readings records
    exact ⟨more, (on_bind_ok hon).trans hmore⟩

theorem talks_mapM {f : α → Act Progress β} {as : List α} (h : ∀ a ∈ as, (f a).Talks) :
    (as.mapM f).Talks := by
  induction as with
  | nil => exact talks_pure []
  | cons a as ih =>
    obtain ⟨hfirst, hrest⟩ := List.forall_mem_cons.1 h
    rw [List.mapM_cons]
    exact hfirst.bind fun b => (ih hrest).bind fun bs => talks_pure (b :: bs)

end Act

/-! ### Listings and sweeps -/

namespace Script

variable (script : Script)

theorem talks_connect (c : Client) : (script.network.connect c).Talks :=
  fun contacts => ⟨.ok (), contacts ++ [.client c], harmless_ok (), fun _ journal => ⟨journal, rfl⟩⟩

theorem talks_reach : (Act.look script.network.reach).Talks :=
  fun contacts => ⟨.ok (script.reach contacts), contacts, harmless_ok _,
    fun _ journal => ⟨journal, rfl⟩⟩

theorem talks_get (q : Request) : (script.network.get q).Talks := by
  intro contacts
  refine ⟨script.respond (contacts ++ [.request q]), contacts ++ [.request q],
    script.harmless _, fun readings journal => ⟨journal, ?_⟩⟩
  exact Act.on_ofExcept _ _

theorem talks_eventsFrom (c : Connection) (limit : Nat) (token : Value) :
    (c.eventsFrom script.network limit token).Talks := by
  induction limit generalizing token with
  | zero => exact Act.talks_of_reads (Act.reads_fail _) (harmless_error rfl)
  | succ limit ih =>
    refine (script.talks_get _).bind fun r => ?_
    refine (Act.talks_of_reads (Page.reads_ofResponse r) (Page.harmless_read r)).bind fun page => ?_
    split
    · exact (ih page.next).bind fun others => Act.talks_pure _
    · exact Act.talks_pure _

theorem talks_listEvents (c : Connection) : (c.listEvents script.network).Talks :=
  (script.talks_connect _).bind fun _ => script.talks_reach.bind fun limit =>
    (script.talks_eventsFrom c limit .null).bind fun _ => (Act.talks_note _ _).bind fun _ =>
    Act.talks_pure _

end Script

theorem talks_collect {sources : List (Source Progress)} (h : ∀ source ∈ sources, source.Talks) :
    (collect sources).Talks :=
  (Act.talks_mapM h).bind fun _ => (Act.talks_note _ _).bind fun _ => Act.talks_pure _

/-- A sweep of one event check collects events, judges them, and explains them if they fire. -/
theorem Criteria.sweep_check_eq {W : Type} (c : Criteria) (sources : List (Source W)) :
    Check.sweep [c.check sources] = (do
      let events ← collect sources
      let fired ← Act.ofExcept (c.fires events)
      if fired then
        let reason ← Act.ofExcept (c.explain events)
        Act.note .info "Fail-fast check triggered"
        return some reason
      return none) := by
  rw [Check.sweep, Criteria.check, Check.of]
  simp only [bind_assoc, pure_bind]
  rfl

theorem Criteria.talks_sweep (c : Criteria) {sources : List (Source Progress)}
    (h : ∀ source ∈ sources, source.Talks) : (Check.sweep [c.check sources]).Talks := by
  rw [c.sweep_check_eq]
  refine (talks_collect h).bind fun events => ?_
  refine (Act.talks_ofExcept (c.harmless_fires events)).bind fun fired => ?_
  split
  · exact (Act.talks_ofExcept (c.harmless_explain events)).bind fun _ =>
      (Act.talks_note _ _).bind fun _ => Act.talks_pure _
  · exact Act.talks_pure _

end Tripwire
