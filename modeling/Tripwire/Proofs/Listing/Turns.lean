import Tripwire.Proofs.Listing.Page
import Tripwire.Proofs.Outcome
import Tripwire.Rehearsal

/-!
# The turns of a listing

A listing takes turns: a request, and the page that its response shows. Each request but the first
carries the token of the page before it, the first carries none, and a page without a token, or a turn
that fails, is the last. A listing that comes to an end without a fault is made of the events of its
pages, in order; after a fault there are none.
-/

namespace Tripwire

variable {W : Type}

/-- A request and what was given for it. -/
structure Turn where
  request : Request
  gave : Except Fault Response

namespace Turn

def page (turn : Turn) : Except Fault Page := turn.gave >>= Page.read

/-- The token with which a turn asks for another one. -/
def token? (turn : Turn) : Option Value :=
  match turn.page with
  | .ok page => if page.next.isTruthy then some page.next else none
  | .error _ => none

def Leads (network : Network W) (turn : Turn) (s t : Stage W) : Prop :=
  match turn.gave with
  | .error f => (network.get turn.request).on s = (.error f, t)
  | .ok r => ∃ s', (network.get turn.request).on s = (.ok r, s') ∧
      (Page.ofResponse r).on s' = (Page.read r, t)

end Turn

namespace Connection

/-- That a request is one of a connection and carries a token, or none. -/
structure Asks (c : Connection) (q : Request) (token : Option Value) : Prop where
  url_eq : q.url = c.eventsUrl
  headers_eq : q.headers = c.headers
  authorization_iff : ∀ v, ("Authorization", v) ∈ q.headers ↔
    ∃ t, c.cluster.token = some t ∧ t ≠ "" ∧ v = "Bearer " ++ t
  limit_iff : ∀ v, ("limit", v) ∈ q.params ↔
    0 < c.settings.pageSize ∧ v = .int c.settings.pageSize
  continue_iff : ∀ v, ("continue", v) ∈ q.params ↔ token = some v

theorem given_eq_some {text : Option String} {t : String} :
    given text = some t ↔ text = some t ∧ t ≠ "" := by
  simp [given, Option.filter_eq_some_iff]

theorem asks_request (c : Connection) (token : Value) :
    c.Asks (c.request token) (if token.isTruthy then some token else none) := by
  have hlimit (v : Value) : ("limit", v) ∈ (c.request token).params ↔
      0 < c.settings.pageSize ∧ v = .int c.settings.pageSize := by
    by_cases hp : 0 < c.settings.pageSize <;> cases ht : token.isTruthy <;>
      simp [request, hp, ht]
  have hcontinue (v : Value) : ("continue", v) ∈ (c.request token).params ↔
      (if token.isTruthy then some token else none) = some v := by
    by_cases hp : 0 < c.settings.pageSize <;> cases ht : token.isTruthy <;>
      simp [request, hp, ht, eq_comm]
  have hheader (v : String) : ("Authorization", v) ∈ (c.request token).headers ↔
      ∃ t, c.cluster.token = some t ∧ t ≠ "" ∧ v = "Bearer " ++ t := by
    simp only [request, headers, List.mem_append, List.mem_cons, Prod.mk.injEq, List.not_mem_nil,
      Option.mem_toList, Option.map_eq_some_iff, given_eq_some]
    constructor
    · rintro (hfixed | ⟨t, ⟨hsome, hne⟩, -, hv⟩)
      · simp at hfixed
      · exact ⟨t, hsome, hne, hv.symm⟩
    · rintro ⟨t, hsome, hne, hv⟩
      exact Or.inr ⟨t, ⟨hsome, hne⟩, trivial, hv.symm⟩
  exact ⟨rfl, rfl, hheader, hlimit, hcontinue⟩

/-- What a listing comes to: all its turns showed pages of which only the last has no token, or the
last turn failed; or as many turns were taken as may be and all the pages have tokens. -/
inductive Ending (limit : Option Nat) (turns : List Turn) : Except Fault (List Event) → Prop where
  | complete {pages : List Page} {last : Page}
      (shown : turns.map Turn.page = (pages ++ [last]).map .ok) (isLast : last.next.isTruthy = false) :
      Ending limit turns (.ok ((pages ++ [last]).flatMap Page.events))
  | failed {turn : Turn} {f : Fault} (isLast : turns.getLast? = some turn)
      (fails : turn.page = .error f) : Ending limit turns (.error f)
  | endless (many : limit = some turns.length) (goesOn : ∀ turn ∈ turns, turn.token?.isSome) :
      Ending limit turns (.error .endlessListing)

/-- The turns from the one on that is asked for with a token. -/
structure Course (c : Connection) (network : Network W) (limit : Option Nat) (token : Option Value)
    (turns : List Turn) (result : Except Fault (List Event)) (s t : Stage W) : Prop where
  made : Trail (Turn.Leads network) turns s t
  first : ∀ turn, turns[0]? = some turn → c.Asks turn.request token
  next : ∀ k turn later, turns[k]? = some turn → turns[k + 1]? = some later →
    ∃ token, turn.token? = some token ∧ c.Asks later.request (some token)
  ending : Ending limit turns result

variable {c : Connection} {network : Network W} {limit : Nat} {token : Option Value}
  {turns : List Turn} {turn : Turn} {page : Page} {result : Except Fault (List Event)}
  {s t u : Stage W}

theorem Ending.cons (h : Ending (some limit) turns result) (hpage : turn.page = .ok page)
    (hnext : page.next.isTruthy = true) :
    Ending (some (limit + 1)) (turn :: turns) (result.map (page.events ++ ·)) := by
  cases h with
  | @complete pages last shown isLast =>
    have hshown : (turn :: turns).map Turn.page = ((page :: pages) ++ [last]).map .ok := by
      rw [List.map_cons, hpage, shown]
      rfl
    exact .complete hshown isLast
  | @failed final f isLast fails =>
    have hlast : (turn :: turns).getLast? = some final := by
      cases turns with
      | nil => cases isLast
      | cons next turns => rw [List.getLast?_cons_cons, isLast]
    exact .failed hlast fails
  | endless many goesOn =>
    refine .endless ?_ ?_
    · rw [Option.some.injEq] at many ⊢
      rw [List.length_cons, many]
    · intro other hmem
      rcases List.mem_cons.1 hmem with rfl | hmem
      · simp [Turn.token?, hpage, hnext]
      · exact goesOn other hmem

theorem Course.cons {asked : Option Value} (h : c.Course network (some limit) (some page.next) turns
    result t u) (hlead : turn.Leads network s t) (hasks : c.Asks turn.request asked)
    (hpage : turn.page = .ok page) (hnext : page.next.isTruthy = true) :
    c.Course network (some (limit + 1)) asked (turn :: turns) (result.map (page.events ++ ·)) s u := by
  have htoken : turn.token? = some page.next := by simp [Turn.token?, hpage, hnext]
  refine ⟨.cons hlead h.made, ?_, ?_, h.ending.cons hpage hnext⟩
  · intro first hfirst
    cases hfirst
    exact hasks
  · intro k earlier later hearlier hlater
    cases k with
    | zero =>
      cases hearlier
      exact ⟨page.next, htoken, h.first later hlater⟩
    | succ k => exact h.next k earlier later hearlier hlater

/-- A single turn, after which there is no other. -/
theorem Course.single {limit : Option Nat} (hlead : turn.Leads network s t)
    (hasks : c.Asks turn.request token) (hending : Ending limit [turn] result) :
    c.Course network limit token [turn] result s t := by
  refine ⟨.single hlead, ?_, ?_, hending⟩
  · intro first hfirst
    cases hfirst
    exact hasks
  · intro k earlier later hearlier hlater
    cases hlater

theorem eventsFrom_course (c : Connection) (network : Network W) (limit : Nat) (token : Value)
    (s : Stage W) :
    ∃ turns result t,
      c.Course network (some limit) (if token.isTruthy then some token else none) turns result s t ∧
      (c.eventsFrom network limit token).on s = (result, t) := by
  induction limit generalizing token s with
  | zero =>
    refine ⟨[], _, s, ⟨.nil, ?_, ?_, .endless rfl (by simp)⟩, rfl⟩
    · intro turn h
      cases h
    · intro k turn later h
      cases h
  | succ limit ih =>
    have hasks := c.asks_request token
    rcases hget : (network.get (c.request token)).on s with ⟨gave, s'⟩
    cases gave with
    | error f =>
      refine ⟨[⟨c.request token, .error f⟩], .error f, s', ?_, Act.on_bind_error hget⟩
      exact .single hget hasks (.failed rfl rfl)
    | ok r =>
      rw [eventsFrom, Act.on_bind_ok hget]
      have hpage := (Page.reads_ofResponse r).on_eq s'
      have hlead : (Turn.mk (c.request token) (.ok r)).Leads network s
          ((Page.ofResponse r).on s').2 := ⟨s', hget, hpage⟩
      cases hread : Page.read r with
      | error f =>
        rw [hread] at hpage
        exact ⟨[⟨c.request token, .ok r⟩], .error f, _, .single hlead hasks (.failed rfl hread),
          Act.on_bind_error hpage⟩
      | ok page =>
        rw [hread] at hpage
        rw [Act.on_bind_ok hpage]
        cases hnext : page.next.isTruthy with
        | false =>
          refine ⟨[⟨c.request token, .ok r⟩], .ok page.events, _, .single hlead hasks ?_, rfl⟩
          have hcomplete : Ending (some (limit + 1)) [⟨c.request token, .ok r⟩]
              (.ok (([] ++ [page]).flatMap Page.events)) :=
            .complete (congrArg (fun p => [p]) hread) hnext
          simpa using hcomplete
        | true =>
          obtain ⟨turns, result, t, hcourse, hon⟩ := ih page.next ((Page.ofResponse r).on s').2
          rw [hnext, if_pos rfl] at hcourse
          refine ⟨_, _, t, hcourse.cons hlead hasks hread hnext, ?_⟩
          cases result with
          | error f => exact Act.on_bind_error hon
          | ok events => exact Act.on_bind_ok hon

end Connection

end Tripwire
