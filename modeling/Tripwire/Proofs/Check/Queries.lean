import Mathlib.Data.List.Count
import Tripwire.Check.Registry
import Tripwire.Proofs.Check.Reason
import Tripwire.Proofs.Outcome

/-!
# Queries

An event check asks the sources for their events, each one once and in their order, up to the first that
fails. If none fails it judges all that they gave, list after list; if one fails nothing is judged and
the call of the guard fails in the same way. So what a call asks of the sources is known from the
checks that it came to.
-/

namespace Tripwire

variable {W : Type}

/-! ### Collections -/

/-- A source that is asked, by its place, and what it gave. -/
structure Query where
  place : Nat
  gave : Except Fault (List Event)

def Query.Leads (sources : List (Source W)) (q : Query) (s t : Stage W) : Prop :=
  ∃ source, sources[q.place]? = some source ∧ source.on s = (q.gave, t)

/-- What the sources gave: the lists of those that did not fail, and the fault of the one after them. -/
structure Collection where
  lists : List (List Event)
  fault : Option Fault := none

/-- The queries of sources that do not fail, from a place on, given their lists. -/
def answered (place : Nat) : List (List Event) → List Query
  | [] => []
  | list :: rest => ⟨place, .ok list⟩ :: answered (place + 1) rest

namespace Collection

def queries (c : Collection) (place : Nat) : List Query :=
  answered place c.lists ++ (c.fault.map fun f => ⟨place + c.lists.length, .error f⟩).toList

/-- The events to judge. A source that failed leaves none, whatever those before it gave. -/
def events (c : Collection) : Except Fault (List Event) :=
  match c.fault with
  | none => .ok c.lists.flatten
  | some f => .error f

def closing (c : Collection) (s : Stage W) : Stage W :=
  match c.fault with
  | none =>
    let text := "Collected " ++ toString c.lists.flatten.length ++ " events"
    { s with journal := s.journal ++ [⟨.debug, text⟩] }
  | some _ => s

/-- That no source in front of a place failed. -/
def unfailedBefore (c : Collection) (place : Nat) : Bool :=
  c.fault.isNone || decide (place ≤ c.lists.length)

/-- That the sources are asked one after the other, from the first on, until all gave their lists or
one failed. -/
structure Made (sources : List (Source W)) (s : Stage W) (c : Collection) (t : Stage W) : Prop where
  asked : Trail (Query.Leads sources) (c.queries 0) s t
  complete : c.fault = none → c.lists.length = sources.length

end Collection

theorem length_answered (place : Nat) (lists : List (List Event)) :
    (answered place lists).length = lists.length := by
  induction lists generalizing place with
  | nil => rfl
  | cons list rest ih => rw [answered, List.length_cons, List.length_cons, ih]

theorem places_answered (place : Nat) (lists : List (List Event)) :
    (answered place lists).map Query.place = List.range' place lists.length := by
  induction lists generalizing place with
  | nil => rfl
  | cons list rest ih =>
    rw [answered, List.map_cons, ih, List.length_cons, List.range'_succ]

theorem mapM_queries (front rest : List (Source W)) (s : Stage W) :
    ∃ (c : Collection) (t : Stage W),
      Trail (Query.Leads (front ++ rest)) (c.queries front.length) s t ∧
      (c.fault = none → c.lists.length = rest.length) ∧
      (rest.mapM id : Act W (List (List Event))).on s =
        ((c.fault.map Except.error).getD (.ok c.lists), t) := by
  induction rest generalizing front s with
  | nil => exact ⟨⟨[], none⟩, s, .nil, fun _ => rfl, rfl⟩
  | cons source rest ih =>
    have hplace : (front ++ source :: rest)[front.length]? = some source := by simp
    rw [List.mapM_cons]
    rcases hgave : source.on s with ⟨gave, s₁⟩
    cases gave with
    | error f =>
      refine ⟨⟨[], some f⟩, s₁, .single ⟨source, hplace, hgave⟩, by simp, ?_⟩
      exact Act.on_bind_error hgave
    | ok list =>
      -- The rest is asked with this source in front of it, so that places stay what they are.
      obtain ⟨c, t, hasked, hcomplete, hon⟩ := ih (front ++ [source]) s₁
      have hlist : front ++ [source] ++ rest = front ++ source :: rest := by simp
      have hfront : (front ++ [source]).length = front.length + 1 := by simp
      have hqueries : (⟨list :: c.lists, c.fault⟩ : Collection).queries front.length =
          ⟨front.length, .ok list⟩ :: c.queries (front.length + 1) := by
        have hlast : front.length + (c.lists.length + 1) = front.length + 1 + c.lists.length := by
          omega
        simp only [Collection.queries, answered, List.length_cons, List.cons_append, hlast]
      rw [hlist, hfront] at hasked
      refine ⟨⟨list :: c.lists, c.fault⟩, t, ?_, ?_, ?_⟩
      · rw [hqueries]
        exact .cons ⟨source, hplace, hgave⟩ hasked
      · intro hnone
        rw [List.length_cons, List.length_cons, hcomplete hnone]
      · rw [id, Act.on_bind_ok hgave]
        cases hfault : c.fault with
        | none =>
          rw [hfault] at hon
          exact Act.on_bind_ok hon
        | some f =>
          rw [hfault] at hon
          exact Act.on_bind_error hon

theorem on_collect (sources : List (Source W)) (s : Stage W) :
    ∃ c t, Collection.Made sources s c t ∧ (collect sources).on s = (c.events, c.closing t) := by
  obtain ⟨c, t, hasked, hcomplete, hon⟩ := mapM_queries [] sources s
  refine ⟨c, t, ⟨hasked, hcomplete⟩, ?_⟩
  rw [collect, Collection.events, Collection.closing]
  cases hfault : c.fault with
  | none =>
    rw [hfault] at hon
    exact Act.on_bind_ok hon
  | some f =>
    rw [hfault] at hon
    exact Act.on_bind_error hon

namespace Collection

variable {sources : List (Source W)} {s t : Stage W} {c : Collection}

theorem length_queries (c : Collection) (place : Nat) :
    (c.queries place).length = c.lists.length + if c.fault.isNone then 0 else 1 := by
  rw [queries, List.length_append, length_answered]
  cases c.fault with
  | none => rfl
  | some f => rfl

theorem places_queries (c : Collection) :
    (c.queries 0).map Query.place = List.range (c.queries 0).length := by
  rw [length_queries, List.range_eq_range', queries, List.map_append, places_answered]
  cases c.fault with
  | none => simp
  | some f =>
    have hlast : [0 + c.lists.length] = List.range' (0 + 1 * c.lists.length) 1 := by simp
    simp only [Option.map_some, Option.toList_some, List.map_cons, List.map_nil, hlast]
    rw [List.range'_append]
    rfl

theorem Made.count_place (h : Made sources s c t) {place : Nat} (hplace : place < sources.length) :
    ((c.queries 0).map Query.place).count place = if c.unfailedBefore place then 1 else 0 := by
  have hiff : place < (c.queries 0).length ↔ c.unfailedBefore place := by
    rw [length_queries, unfailedBefore]
    cases hfault : c.fault with
    | none =>
      have hall := h.complete hfault
      simp only [Option.isNone_none, ↓reduceIte, Bool.true_or, iff_true]
      omega
    | some f =>
      simp only [Option.isNone_some, Bool.false_eq_true, ↓reduceIte, Bool.false_or,
        decide_eq_true_eq]
      omega
  rw [places_queries, List.nodup_range.count]
  simp only [List.mem_range, hiff]

end Collection

/-! ### Checks in a call -/

/-- What is registered: criteria that events are judged by, or some other check. -/
inductive Watch (W : Type) where
  | events (criteria : Criteria)
  | other (check : Check W)

def Watch.check (sources : List (Source W)) : Watch W → Check W
  | events criteria => criteria.check sources
  | other check => check

namespace Registry

def watch (r : Registry W) : Watch W → Registry W
  | .events criteria => r.register criteria
  | .other check => r.addCheck check

/-- The registry with checks registered one after the other. -/
def watching (sources : List (Source W)) (watches : List (Watch W)) : Registry W :=
  watches.foldl watch { sources }

theorem foldl_watch (r : Registry W) (watches : List (Watch W)) :
    watches.foldl watch r =
      { r with checks := r.checks ++ watches.map (Watch.check r.sources) } := by
  induction watches generalizing r with
  | nil => simp
  | cons watch watches ih =>
    rw [List.foldl_cons, ih]
    cases watch with
    | events criteria => simp [Registry.watch, register, addCheck, Watch.check]
    | other check => simp [Registry.watch, addCheck, Watch.check]

theorem build_watching (sources : List (Source W)) (watches : List (Watch W)) :
    (watching sources watches).build = { checks := watches.map (Watch.check sources) } := by
  rw [watching, foldl_watch]
  rfl

end Registry

namespace Criteria

/-- What the check with the criteria shows when it got events. -/
def snapshot (c : Criteria) (events : List Event) : Snapshot W :=
  { evaluate := Act.ofExcept (c.fires events), explain := Act.ofExcept (c.explain events) }

/-- The reason that the criteria give for events, if they fire on them. -/
def verdict (c : Criteria) (events : List Event) : Except Fault (Option String) := do
  let fired ← c.fires events
  if fired then
    let reason ← c.explain events
    return some reason
  return none

end Criteria

/-- A check that a call came to, with what the sources gave for it or with what it came to. -/
inductive Look (W : Type) where
  | events (criteria : Criteria) (got : Collection)
  | other (check : Check W) (result : Except Fault (Option String))

namespace Look

def watch : Look W → Watch W
  | events criteria _ => .events criteria
  | other check _ => .other check

def queries : Look W → List Query
  | events _ got => got.queries 0
  | other _ _ => []

def result : Look W → Except Fault (Option String)
  | events criteria got => got.events >>= criteria.verdict
  | other _ result => result

/-- That it is an event check for which no source in front of a place failed. -/
def asks (place : Nat) : Look W → Bool
  | events _ got => got.unfailedBefore place
  | other _ _ => false

/-- The stage once the check was judged: one that fired leaves a record. -/
def closing (look : Look W) (s : Stage W) : Stage W :=
  match look.result with
  | .ok (some _) => { s with journal := s.journal ++ [⟨.info, "Fail-fast check triggered"⟩] }
  | _ => s

def Leads (sources : List (Source W)) : Look W → Stage W → Stage W → Prop
  | events criteria got, s, u => ∃ t, got.Made sources s t ∧
      (criteria.check sources).fetch.on s = (got.events.map criteria.snapshot, got.closing t) ∧
      u = (events criteria got).closing (got.closing t)
  | other check result, s, u => (Check.sweep [check]).on s = (result, u)

end Look

theorem fetch_of_collect {sources : List (Source W)} {s t : Stage W}
    {gave : Except Fault (List Event)} (criteria : Criteria)
    (h : (collect sources).on s = (gave, t)) :
    (criteria.check sources).fetch.on s = (gave.map criteria.snapshot, t) := by
  cases gave with
  | ok events => exact Act.on_bind_ok h
  | error f => exact Act.on_bind_error h

theorem sweep_of_collect {sources : List (Source W)} {s t : Stage W} {got : Collection}
    (criteria : Criteria) (h : (collect sources).on s = (got.events, t)) :
    (Check.sweep [criteria.check sources]).on s =
      ((Look.events criteria got : Look W).result, (Look.events criteria got).closing t) := by
  have hfetch := fetch_of_collect criteria h
  rw [Check.sweep, Look.closing, Look.result]
  cases hgot : got.events with
  | error f =>
    rw [hgot] at hfetch
    exact Act.on_bind_error hfetch
  | ok events =>
    rw [hgot] at hfetch
    rw [Act.on_bind_ok hfetch, ok_bind, Criteria.verdict]
    have hfires : (criteria.snapshot events).evaluate.on t = (criteria.fires events, t) :=
      Act.on_ofExcept (criteria.fires events) t
    cases hf : criteria.fires events with
    | error f =>
      rw [hf] at hfires
      exact Act.on_bind_error hfires
    | ok fired =>
      rw [hf] at hfires
      rw [Act.on_bind_ok hfires, ok_bind]
      cases fired with
      | false => rfl
      | true =>
        have hexplain : (criteria.snapshot events).explain.on t = (criteria.explain events, t) :=
          Act.on_ofExcept (criteria.explain events) t
        simp only [↓reduceIte]
        cases hr : criteria.explain events with
        | error f =>
          rw [hr] at hexplain
          exact Act.on_bind_error hexplain
        | ok reason =>
          rw [hr] at hexplain
          exact Act.on_bind_ok hexplain

theorem sweep_look (sources : List (Source W)) (watch : Watch W) (s : Stage W) :
    ∃ look u, look.watch = watch ∧ Look.Leads sources look s u ∧
      (Check.sweep [watch.check sources]).on s = (look.result, u) := by
  cases watch with
  | events criteria =>
    obtain ⟨got, t, hmade, hon⟩ := on_collect sources s
    exact ⟨.events criteria got, _, rfl, ⟨t, hmade, fetch_of_collect criteria hon, rfl⟩,
      sweep_of_collect criteria hon⟩
  | other check =>
    rcases hon : (Check.sweep [check]).on s with ⟨result, u⟩
    exact ⟨.other check result, u, rfl, hon, hon⟩

/-! ### Calls -/

/-- A call: the checks that it came to, in order, and what it came to itself. It goes on from checks
that do not fire only, and ends at the first that fires or fails. -/
structure Round (sources : List (Source W)) (watches : List (Watch W)) (s : Stage W)
    (looks : List (Look W)) (result : Except Fault (Option String)) (t : Stage W) : Prop where
  made : Trail (Look.Leads sources) looks s t
  order : looks.map Look.watch <+: watches
  goesOn : ∀ look ∈ looks.dropLast, look.result = .ok none
  result_eq : result = (looks.getLast?.map Look.result).getD (.ok none)
  complete : result = .ok none → looks.map Look.watch = watches

theorem sweep_round (sources : List (Source W)) (watches : List (Watch W)) (s : Stage W) :
    ∃ looks result t, Round sources watches s looks result t ∧
      (Check.sweep (watches.map (Watch.check sources))).on s = (result, t) := by
  induction watches generalizing s with
  | nil => exact ⟨[], .ok none, s, ⟨.nil, List.nil_prefix, by simp, rfl, fun _ => rfl⟩, rfl⟩
  | cons watch watches ih =>
    obtain ⟨look, u, rfl, hleads, hon⟩ := sweep_look sources watch s
    have hsweep := Check.sweep_append [look.watch.check sources] (watches.map (Watch.check sources))
    rw [List.singleton_append] at hsweep
    have hstops (result : Except Fault (Option String)) (hresult : look.result = result)
        (hne : result ≠ .ok none) : Round sources (look.watch :: watches) s [look] result u :=
      ⟨.single hleads, by simp, by simp, hresult.symm, fun h => absurd h hne⟩
    rw [List.map_cons, hsweep]
    cases hresult : look.result with
    | error f =>
      rw [hresult] at hon
      exact ⟨[look], _, u, hstops _ hresult (by simp), Act.on_bind_error hon⟩
    | ok reason =>
      rw [hresult] at hon
      cases reason with
      | some reason => exact ⟨[look], _, u, hstops _ hresult (by simp), Act.on_bind_ok hon⟩
      | none =>
        obtain ⟨looks, result, t, hround, hrest⟩ := ih u
        refine ⟨look :: looks, result, t, ⟨.cons hleads hround.made, ?_, ?_, ?_, ?_⟩,
          (Act.on_bind_ok hon).trans hrest⟩
        · rw [List.map_cons, List.prefix_cons_inj]
          exact hround.order
        · cases looks with
          | nil => simp
          | cons next looks =>
            rw [List.dropLast_cons_cons, List.forall_mem_cons]
            exact ⟨hresult, hround.goesOn⟩
        · rw [hround.result_eq]
          cases looks with
          | nil => exact hresult.symm
          | cons next looks => rw [List.getLast?_cons_cons]
        · intro hnone
          rw [List.map_cons, hround.complete hnone]

namespace Round

variable {sources : List (Source W)} {watches : List (Watch W)} {s t : Stage W}
  {looks : List (Look W)} {result : Except Fault (Option String)}

/-- A call ends with a check for which a source failed, and fails with the fault of that source. -/
theorem of_fault (h : Round sources watches s looks result t) {criteria : Criteria}
    {got : Collection} {f : Fault} (hlook : Look.events criteria got ∈ looks)
    (hfault : got.fault = some f) :
    looks.getLast? = some (.events criteria got) ∧ result = .error f := by
  have hevents : got.events = .error f := by rw [Collection.events, hfault]
  have hresult : (Look.events criteria got : Look W).result = .error f := by
    rw [Look.result, hevents]
    rfl
  obtain ⟨front, last, rfl⟩ : ∃ front last, looks = front ++ [last] :=
    ⟨_, _, (List.dropLast_concat_getLast (List.ne_nil_of_mem hlook)).symm⟩
  have hlast : last = .events criteria got := by
    rcases List.mem_append.1 hlook with hfront | hlast
    · have hquiet := h.goesOn _ (by rwa [List.dropLast_concat])
      rw [hresult] at hquiet
      cases hquiet
    · exact (List.mem_singleton.1 hlast).symm
  rw [h.result_eq, List.getLast?_concat, hlast]
  exact ⟨rfl, hresult⟩

end Round

theorem Look.Leads.count_place {sources : List (Source W)} {look : Look W} {s u : Stage W}
    (h : look.Leads sources s u) {place : Nat} (hplace : place < sources.length) :
    (look.queries.map Query.place).count place = if look.asks place then 1 else 0 := by
  cases look with
  | events criteria got =>
    obtain ⟨t, hmade, -⟩ := h
    exact hmade.count_place hplace
  | other check result => rfl

/-- A source is asked as often as there are event checks for which no source in front of it failed. -/
theorem count_place_looks {sources : List (Source W)} {looks : List (Look W)} {s t : Stage W}
    (h : Trail (Look.Leads sources) looks s t) {place : Nat} (hplace : place < sources.length) :
    ((looks.flatMap Look.queries).map Query.place).count place = looks.countP (Look.asks place) := by
  induction h with
  | nil => rfl
  | cons head _ ih =>
    rw [List.flatMap_cons, List.map_append, List.count_append, head.count_place hplace, ih,
      List.countP_cons, Nat.add_comm]

/-- That a tally in the world counts the queries of each source, and that the other checks leave it
alone. -/
structure Tallied (sources : List (Source W)) (watches : List (Watch W)) (tally : W → Nat → Nat) :
    Prop where
  source : ∀ place source, sources[place]? = some source → ∀ s : Stage W,
    tally (source.on s).2.world =
      Function.update (tally s.world) place (tally s.world place + 1)
  other : ∀ check, Watch.other check ∈ watches → ∀ s : Stage W,
    tally ((Check.sweep [check]).on s).2.world = tally s.world

namespace Tallied

variable {sources : List (Source W)} {watches : List (Watch W)} {tally : W → Nat → Nat}
  {s t : Stage W}

theorem queries (h : Tallied sources watches tally) {queries : List Query}
    (ht : Trail (Query.Leads sources) queries s t) (place : Nat) :
    tally t.world place = tally s.world place + (queries.map Query.place).count place := by
  induction ht with
  | nil => rfl
  | @cons query rest s u t head _ ih =>
    obtain ⟨source, hsource, hon⟩ := head
    have hcount := h.source query.place source hsource s
    rw [hon] at hcount
    rw [ih, hcount, List.map_cons, List.count_cons]
    by_cases heq : query.place = place
    · subst heq
      simp only [Function.update_self, beq_self_eq_true, ↓reduceIte]
      omega
    · rw [Function.update_of_ne (Ne.symm heq), if_neg (by simpa using heq), Nat.add_zero]

theorem world_closing (c : Collection) (s : Stage W) : (c.closing s).world = s.world := by
  rw [Collection.closing]
  cases c.fault with
  | none => rfl
  | some f => rfl

theorem look (h : Tallied sources watches tally) {look : Look W}
    (hl : look.Leads sources s t) (hw : look.watch ∈ watches) (place : Nat) :
    tally t.world place = tally s.world place + (look.queries.map Query.place).count place := by
  cases look with
  | events criteria got =>
    obtain ⟨u, hmade, -, rfl⟩ := hl
    have hworld : ((Look.events criteria got).closing (got.closing u)).world = u.world := by
      rw [Look.closing]
      split
      · exact world_closing got u
      · exact world_closing got u
    rw [hworld]
    exact h.queries hmade.asked place
  | other check result =>
    have hsame := h.other check hw s
    have hon : (Check.sweep [check]).on s = (result, t) := hl
    rw [hon] at hsame
    exact congrFun hsame place

theorem looks (h : Tallied sources watches tally) {looks : List (Look W)}
    (ht : Trail (Look.Leads sources) looks s t) (hw : ∀ look ∈ looks, look.watch ∈ watches)
    (place : Nat) : tally t.world place =
      tally s.world place + ((looks.flatMap Look.queries).map Query.place).count place := by
  induction ht with
  | nil => rfl
  | cons head _ ih =>
    rw [List.forall_mem_cons] at hw
    rw [ih hw.2, h.look head hw.1 place, List.flatMap_cons, List.map_append, List.count_append,
      Nat.add_assoc]

end Tallied

/-- A call of a guard asks the sources once, in their order, for each event check that it comes to. A
source that fails ends that, and the call fails in the same way and leaves no reason. So each source is
asked as often as there are event checks for which no source in front of it failed. -/
theorem sources_are_asked_in_order (sources : List (Source W)) (watches : List (Watch W))
    (old : String) (s : Stage W) :
    let guard : Guard W := { (Registry.watching sources watches).build with reason := old }
    ∃ looks result t, Round sources watches s looks result t ∧
      guard.call s = (result.map Option.isSome,
        { guard with reason := result.toOption.join.getD "" }, t) ∧
      (∀ criteria got f, Look.events criteria got ∈ looks → got.fault = some f →
        looks.getLast? = some (.events criteria got) ∧
        guard.call s = (.error f, { guard with reason := "" }, t)) ∧
      (∀ look ∈ looks, look.queries.map Query.place = List.range look.queries.length) ∧
      ∀ place < sources.length,
        ((looks.flatMap Look.queries).map Query.place).count place =
          looks.countP (Look.asks place) ∧
        ∀ tally, Tallied sources watches tally →
          tally t.world place = tally s.world place + looks.countP (Look.asks place) := by
  intro guard
  have hchecks : guard.checks = watches.map (Watch.check sources) := by
    show (Registry.watching sources watches).build.checks = _
    rw [Registry.build_watching]
  obtain ⟨looks, result, t, hround, hon⟩ := sweep_round sources watches s
  have hcall : guard.call s = (result.map Option.isSome,
      { guard with reason := result.toOption.join.getD "" }, t) := by
    rw [← hchecks] at hon
    rw [Guard.call, hon]
    rcases result with f | _ | reason
    · rfl
    · rfl
    · rfl
  refine ⟨looks, result, t, hround, hcall, ?_, ?_, fun place hplace => ?_⟩
  · intro criteria got f hlook hfault
    obtain ⟨hlast, rfl⟩ := hround.of_fault hlook hfault
    exact ⟨hlast, hcall⟩
  · intro look _
    cases look with
    | events criteria got => exact got.places_queries
    | other check result => rfl
  · have hcount := count_place_looks hround.made hplace
    refine ⟨hcount, fun tally htally => ?_⟩
    rw [← hcount]
    exact htally.looks hround.made
      (fun look hlook => hround.order.subset (List.mem_map_of_mem hlook)) place

/-- A source that counts its queries in the world and answers by how many there were. -/
def countedSource (place : Nat) (answer : Nat → Except Fault (List Event)) :
    Act (Nat → Nat) (List Event) := do
  Act.change fun tally => Function.update tally place (tally place + 1)
  let tally ← Act.look id
  Act.ofExcept (answer (tally place))

theorem world_countedSource (place : Nat) (answer : Nat → Except Fault (List Event))
    (s : Stage (Nat → Nat)) : ((countedSource place answer).on s).2.world =
      Function.update s.world place (s.world place + 1) := by
  show ((Act.ofExcept _).on _).2.world = _
  rw [Act.on_ofExcept]

/-- The second of three sources fails when it is asked for the second event check: the third source is
asked once only, and the third event check is not come to. -/
theorem failing_source_ends_call :
    ∃ (sources : List (Source (Nat → Nat))) (watches : List (Watch (Nat → Nat)))
      (looks : List (Look (Nat → Nat))) (t : Stage (Nat → Nat)), sources.length = 3 ∧
      Tallied sources watches id ∧ watches.length = 4 ∧ looks.countP (Look.asks 0) = 2 ∧
      looks.countP (Look.asks 1) = 2 ∧ looks.countP (Look.asks 2) = 1 ∧
      Round sources watches { world := fun _ => 0 } looks (.error .dateOutOfRange) t := by
  let sources : List (Source (Nat → Nat)) :=
    [countedSource 0 fun _ => .ok [],
      countedSource 1 fun asked => if asked = 1 then .ok [] else .error .dateOutOfRange,
      countedSource 2 fun _ => .ok []]
  let quiet : Check (Nat → Nat) := Check.of (pure ()) (fun _ => pure false) (fun _ => pure "")
  let watches : List (Watch (Nat → Nat)) := [.events {}, .other quiet, .events {}, .events {}]
  have htally : Tallied sources watches id := by
    constructor
    · intro place source hsource s
      match place with
      | 0 | 1 | 2 =>
        obtain rfl := Option.some.inj hsource
        exact world_countedSource _ _ s
      | place + 3 => cases hsource
    · intro check hcheck s
      have heq : check = quiet := by simpa [watches] using hcheck
      rw [heq]
      rfl
  obtain ⟨looks, result, t, hround, hcall, -, -, hcount⟩ :=
    sources_are_asked_in_order sources watches "" { world := fun _ => 0 }
  have hcounts (place : Nat) (hplace : place < 3) :
      t.world place = 0 + looks.countP (Look.asks place) := (hcount place hplace).2 id htally
  have hresult := congrArg Prod.fst hcall
  have hworld := congrArg (fun call => call.2.2.world) hcall
  have hfault : result = .error .dateOutOfRange := by
    cases result with
    | error f =>
      cases hresult
      rfl
    | ok reason => cases hresult
  have hasked (place asked : Nat) (hplace : place < 3) (h : t.world place = asked) :
      looks.countP (Look.asks place) = asked := by
    have hsum := hcounts place hplace
    omega
  rw [hfault] at hround
  exact ⟨sources, watches, looks, t, rfl, htally, rfl,
    hasked 0 2 (by decide) (congrFun hworld 0).symm, hasked 1 2 (by decide) (congrFun hworld 1).symm,
    hasked 2 1 (by decide) (congrFun hworld 2).symm, hround⟩

end Tripwire
