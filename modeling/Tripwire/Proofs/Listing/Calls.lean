import Tripwire.Proofs.Listing.Turns

/-!
# Listings in succession

One listing is the turns that it takes on the stage on which it is called, whatever was called before
and however that ended. Where responses come from a script, a listing always comes to its end.
-/

namespace Tripwire

variable {W : Type}

namespace Connection

def client (c : Connection) : Client :=
  { timeout := c.settings.requestTimeout, verify := c.cluster.verify }

/-- The stage once a listing is over: one without a fault leaves a record. -/
def closing (c : Connection) : Except Fault (List Event) → Stage W → Stage W
  | .ok events, s =>
    { s with journal := s.journal ++
        [⟨.debug, "Cluster " ++ c.cluster.name ++ " returned " ++ toString events.length ++ " events"⟩] }
  | .error _, s => s

structure Listing where
  turns : List Turn
  result : Except Fault (List Event)

/-- A listing in a network, which bounds the number of turns by the stage on which they begin. -/
inductive Lists (c : Connection) (network : Network W) (limit : Stage W → Option Nat) :
    Listing → Stage W → Stage W → Prop where
  | closed {f : Fault} {s t : Stage W} (refused : (network.connect c.client).on s = (.error f, t)) :
      Lists c network limit ⟨[], .error f⟩ s t
  | opened {turns : List Turn} {result : Except Fault (List Event)} {s s₁ t : Stage W}
      (connected : (network.connect c.client).on s = (.ok (), s₁))
      (course : c.Course network (limit s₁) none turns result s₁ t) :
      Lists c network limit ⟨turns, result⟩ s (c.closing result t)

def reachOf (network : Network W) (s : Stage W) : Option Nat := some (network.reach s.world)

theorem listEvents_lists (c : Connection) (network : Network W) (s : Stage W) :
    ∃ listing t, c.Lists network (reachOf network) listing s t ∧
      (c.listEvents network).on s = (listing.result, t) := by
  rcases hconnect : (network.connect c.client).on s with ⟨gave, s₁⟩
  cases gave with
  | error f => exact ⟨_, _, .closed hconnect, Act.on_bind_error hconnect⟩
  | ok _ =>
    obtain ⟨turns, result, t, hcourse, hon⟩ :=
      c.eventsFrom_course network (network.reach s₁.world) .null s₁
    refine ⟨⟨turns, result⟩, c.closing result t, .opened hconnect hcourse, ?_⟩
    have hlook : (Act.look network.reach).on s₁ = (.ok (network.reach s₁.world), s₁) := by simp
    rw [listEvents]
    refine (Act.on_bind_ok hconnect).trans ((Act.on_bind_ok hlook).trans ?_)
    cases result with
    | error f => exact Act.on_bind_error hon
    | ok events => exact Act.on_bind_ok hon

/-- Listings one after another, each on the stage that the one before left. -/
def listTimes (c : Connection) (network : Network W) :
    Nat → Stage W → List (Except Fault (List Event)) × Stage W
  | 0, s => ([], s)
  | n + 1, s =>
    let (result, t) := (c.listEvents network).on s
    let (results, u) := c.listTimes network n t
    (result :: results, u)

theorem listTimes_trail {c : Connection} {network : Network W}
    {leads : Listing → Stage W → Stage W → Prop} {P : Stage W → Prop}
    (hstep : ∀ s, P s → ∃ listing t, leads listing s t ∧
      (c.listEvents network).on s = (listing.result, t) ∧ P t)
    (n : Nat) {s : Stage W} (hs : P s) :
    ∃ listings t, Trail leads listings s t ∧
      c.listTimes network n s = (listings.map Listing.result, t) := by
  induction n generalizing s with
  | zero => exact ⟨[], s, .nil, rfl⟩
  | succ n ih =>
    obtain ⟨listing, t, hlead, hon, ht⟩ := hstep s hs
    obtain ⟨listings, u, htrail, hrest⟩ := ih ht
    refine ⟨listing :: listings, u, .cons hlead htrail, ?_⟩
    rw [listTimes, hon]
    simp only [hrest, List.map_cons]

end Connection

/-! ### Scripted responses -/

namespace Scene

variable {turn : Turn} {turns : List Turn} {s t : Stage Scene}

theorem on_respond (h : s.world.again = false) (q : Request) :
    (respond q).on s =
      ((s.world.responses[s.world.requests.length]?).getD
          (.error (.noConnection "script exhausted")),
        { s with world := { s.world with requests := s.world.requests ++ [q] } }) := by
  simp [respond, Act.on_bind, h]

/-- A turn takes the next response of the script and makes one request. -/
theorem world_of_turn (h : turn.Leads network s t) (hagain : s.world.again = false) :
    turn.gave = (s.world.responses[s.world.requests.length]?).getD
        (.error (.noConnection "script exhausted")) ∧
      t.world = { s.world with requests := s.world.requests ++ [turn.request] } := by
  have hget : network.get turn.request = respond turn.request := rfl
  have hon := on_respond hagain turn.request
  rw [Turn.Leads, hget] at h
  cases hgave : turn.gave with
  | error f =>
    rw [hgave] at h
    obtain ⟨hf, ht⟩ := Prod.mk.inj (h.symm.trans hon)
    exact ⟨hf, by rw [ht]⟩
  | ok r =>
    rw [hgave] at h
    obtain ⟨s', hr, hpage⟩ := h
    obtain ⟨hr, hs'⟩ := Prod.mk.inj (hr.symm.trans hon)
    have hworld := (Page.reads_ofResponse r).world_eq s'
    rw [hpage] at hworld
    exact ⟨hr, by rw [hworld, hs']⟩

theorem again_of_trail (h : Trail (Turn.Leads network) turns s t) (hagain : s.world.again = false) :
    t.world.again = false := by
  induction h with
  | nil => exact hagain
  | cons head _ ih =>
    apply ih
    rw [(world_of_turn head hagain).2]
    exact hagain

/-- Each turn that goes on has used up a response of its own. -/
theorem length_turns_le (h : Trail (Turn.Leads network) turns s t)
    (hagain : s.world.again = false) (hgoes : ∀ turn ∈ turns, turn.token?.isSome) :
    turns.length ≤ s.world.responses.length - s.world.requests.length := by
  induction h with
  | nil => simp
  | @cons turn rest s t u head _ ih =>
    obtain ⟨hgave, hworld⟩ := world_of_turn head hagain
    have hlt : s.world.requests.length < s.world.responses.length := by
      by_contra hge
      have hnone : s.world.responses[s.world.requests.length]? = none :=
        List.getElem?_eq_none (by omega)
      rw [hnone, Option.getD_none] at hgave
      have hgo := hgoes turn List.mem_cons_self
      simp [Turn.token?, Turn.page, hgave, error_bind] at hgo
    have hrest := ih (by rw [hworld]; exact hagain)
      fun other hmem => hgoes other (List.mem_cons_of_mem turn hmem)
    rw [hworld] at hrest
    simp only [List.length_append, List.length_singleton] at hrest
    rw [List.length_cons]
    omega

/-- A listing from a script ends before it has made as many requests as it may. -/
theorem lists_to_end {c : Connection} {listing : Connection.Listing}
    (h : c.Lists network (Connection.reachOf network) listing s t) (hagain : s.world.again = false) :
    c.Lists network (fun _ => none) listing s t ∧ t.world.again = false := by
  cases h with
  | closed refused => cases refused
  | @opened turns result _ s₁ t₁ connected course =>
    have hs₁ : s₁.world.again = false ∧ s₁.world.responses = s.world.responses := by
      cases connected
      exact ⟨hagain, rfl⟩
    have hagain₁ := again_of_trail course.made hs₁.1
    have hending : Connection.Ending none turns result := by
      cases course.ending with
      | complete shown isLast => exact .complete shown isLast
      | failed isLast fails => exact .failed isLast fails
      | endless many goesOn =>
        have hle := length_turns_le course.made hs₁.1 goesOn
        have hmany : reach s₁.world = turns.length := Option.some.inj many
        rw [reach] at hmany
        omega
    refine ⟨.opened connected ⟨course.made, course.first, course.next, hending⟩, ?_⟩
    cases result with
    | error f => exact hagain₁
    | ok events => exact hagain₁

end Scene

/-- Listings in succession are each made of turns; where a script gives the responses they all come to
an end; and a turn shows a page if its response has entries that all describe events. -/
theorem Connection.listings_are_their_pages (c : Connection) :
    (∀ (network : Network W) (n : Nat) (s : Stage W), ∃ listings t,
      Trail (c.Lists network (reachOf network)) listings s t ∧
      c.listTimes network n s = (listings.map Listing.result, t)) ∧
    (∀ (scene : Scene) (journal : Journal) (n : Nat), ∃ listings t,
      Trail (c.Lists Scene.network fun _ => none) listings ⟨{ scene with again := false }, journal⟩ t ∧
      c.listTimes Scene.network n ⟨{ scene with again := false }, journal⟩ =
        (listings.map Listing.result, t)) ∧
    ∀ (r : Response) (page : Page), Page.read r = .ok page ↔
      ∃ entries, r.Shows entries page.next ∧ entries.map Event.read = page.events.map .ok := by
  refine ⟨fun network n s => ?_, fun scene journal n => ?_, fun r page => Page.read_eq_ok⟩
  · have hstep : ∀ s : Stage W, True → ∃ listing t,
        c.Lists network (reachOf network) listing s t ∧
        (c.listEvents network).on s = (listing.result, t) ∧ True := by
      intro s _
      obtain ⟨listing, t, hlists, hon⟩ := c.listEvents_lists network s
      exact ⟨listing, t, hlists, hon, trivial⟩
    exact listTimes_trail hstep n trivial
  · have hstep : ∀ s : Stage Scene, s.world.again = false → ∃ listing t,
        c.Lists Scene.network (fun _ => none) listing s t ∧
        (c.listEvents Scene.network).on s = (listing.result, t) ∧ t.world.again = false := by
      intro s hs
      obtain ⟨listing, t, hlists, hon⟩ := c.listEvents_lists Scene.network s
      obtain ⟨hend, ht⟩ := Scene.lists_to_end hlists hs
      exact ⟨listing, t, hend, hon, ht⟩
    exact listTimes_trail hstep n rfl

end Tripwire
