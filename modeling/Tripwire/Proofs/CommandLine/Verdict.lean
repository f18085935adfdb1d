import Tripwire.Proofs.Check.Explained
import Tripwire.Proofs.CommandLine.Started
import Tripwire.Proofs.Event.Selecting
import Tripwire.Proofs.Listing.Served

/-!
# The verdict of a single look

A call that looks once ends with status 1 if one of the events that the clusters serve is wanted: it was
last seen after the bound, and for each option that was given some value of it fits. It then prints the
report on the events that are wanted. Otherwise it ends with status 0 and prints nothing. Patterns whose
groups cross are the one fault that may come between.
-/

namespace Tripwire.CommandLine

open Pattern (Crosses Takes Valid)
open Time (Clock Moment Offset)

variable {W : Type}

/-- That an event was last seen after a moment and fits some value of each option that was given. -/
structure Arguments.Wants (a : Arguments) (since : Moment) (e : Event) : Prop where
  seen : ∃ m, e.lastSeen = some m ∧ since.instant < m.instant
  kind : a.kinds ≠ [] → ∃ v ∈ a.kinds, Text.lowercase e.object.kind = Text.lowercase v
  name : a.names ≠ [] → ∃ p ∈ a.names, Takes p e.object.name
  reason : a.reasons ≠ [] → ∃ v ∈ a.reasons, Text.lowercase e.reason = Text.lowercase v
  message : a.messages ≠ [] → ∃ p ∈ a.messages, Takes p e.message
  type : a.types ≠ [] → ∃ v ∈ a.types, Text.lowercase e.type = Text.lowercase v

theorem Arguments.wants_iff {a : Arguments} {since : Moment} {e : Event} :
    a.Wants since e ↔
      (a.names ≠ [] → ∃ p ∈ a.names, Takes p e.object.name) ∧
      (∃ m, e.lastSeen = some m ∧ since.instant < m.instant) ∧
      (a.reasons ≠ [] → ∃ v ∈ a.reasons, Text.lowercase e.reason = Text.lowercase v) ∧
      (a.messages ≠ [] → ∃ p ∈ a.messages, Takes p e.message) ∧
      (a.types ≠ [] → ∃ v ∈ a.types, Text.lowercase e.type = Text.lowercase v) ∧
      (a.kinds ≠ [] → ∃ v ∈ a.kinds, Text.lowercase e.object.kind = Text.lowercase v) :=
  ⟨fun ⟨seen, kind, name, reason, message, type⟩ => ⟨name, seen, reason, message, type, kind⟩,
    fun ⟨name, seen, reason, message, type, kind⟩ => ⟨seen, kind, name, reason, message, type⟩⟩

instance (a : Arguments) (since : Moment) (e : Event) : Decidable (a.Wants since e) :=
  have : Decidable (∃ m, e.lastSeen = some m ∧ since.instant < m.instant) :=
    match h : e.lastSeen with
    | none => isFalse (by simp)
    | some m => decidable_of_iff (since.instant < m.instant) (by simp)
  decidable_of_iff _ Arguments.wants_iff.symm

/-- That some pattern of a call crosses on an event. -/
def Arguments.Crosses (a : Arguments) (e : Event) : Prop :=
  (∃ p ∈ a.names, Pattern.Crosses p e.object.name) ∨ ∃ p ∈ a.messages, Pattern.Crosses p e.message

/-! ### The criteria of a call -/

open Selector (asked)

theorem criteriaOf_eq (a : Arguments) (since : Moment) :
    criteriaOf a since =
      { names := asked a.names, reasons := asked a.reasons, messages := asked a.messages
        types := asked a.types, kinds := asked a.kinds, after := some since } := by
  obtain ⟨config, overrides, kinds, names, reasons, messages, types⟩ := a
  cases kinds <;> cases names <;> cases reasons <;> cases messages <;> cases types <;> rfl

/-- The criteria of a call ask for what the call wants, unless a pattern crosses. -/
theorem decides_criteriaOf {a : Arguments} (hvalid : ∀ p ∈ a.names ++ a.messages, Valid p)
    (since : Moment) (e : Event) :
    Decides (a.Crosses e) (a.Wants since e) ((criteriaOf a since).selector e) := by
  obtain ⟨hnames, hmessages⟩ := List.forall_mem_append.1 hvalid
  have hname : Decides (a.Crosses e) (∃ p ∈ a.names, Takes p e.object.name)
      (Selector.byObjectName a.names e) := (decides_matchesAny hnames e.object.name).weaken .inl
  have hmessage : Decides (a.Crosses e) (∃ p ∈ a.messages, Takes p e.message)
      (Selector.byMessage a.messages e) := (decides_matchesAny hmessages e.message).weaken .inr
  have hseen : Decides (a.Crosses e) (∃ m, e.lastSeen = some m ∧ since.instant < m.instant)
      (Selector.after since e) := by
    rw [Selector.after]
    cases e.lastSeen with
    | none => exact .ok (by simp)
    | some m => exact .ok (by simp [Moment.before])
  have hreason : Decides (a.Crosses e)
      (∃ v ∈ a.reasons, Text.lowercase e.reason = Text.lowercase v)
      (Selector.byReason a.reasons e) := .ok equalsAny_iff
  have htype : Decides (a.Crosses e) (∃ v ∈ a.types, Text.lowercase e.type = Text.lowercase v)
      (Selector.byType a.types e) := .ok equalsAny_iff
  have hkind : Decides (a.Crosses e)
      (∃ v ∈ a.kinds, Text.lowercase e.object.kind = Text.lowercase v)
      (Selector.byObjectKind a.kinds e) := .ok equalsAny_iff
  rw [Criteria.selector, criteriaOf_eq, Criteria.selectors, Arguments.wants_iff]
  simp only [List.append_assoc]
  refine Selector.decides_append (Selector.decides_asked hname) ?_
  refine Selector.decides_append (Selector.decides_singleton hseen) ?_
  refine Selector.decides_append (Selector.decides_asked hreason) ?_
  refine Selector.decides_append (Selector.decides_asked hmessage) ?_
  exact Selector.decides_append (Selector.decides_asked htype) (Selector.decides_asked hkind)

/-! ### The look -/

variable {o : Outside W} {config : Config} {c : Criteria} {events : List Event} {s t u : Stage W}

/-- What an event check by itself comes to on events that are collected without a fault. -/
theorem sweep_event_check {sources : List (Source W)} (h : (collect sources).on s = (.ok events, t)) :
    ((Check.sweep [c.check sources]).on s).1 =
      (c.fires events >>= fun fired => if fired then (c.explain events).map some else .ok none) := by
  cases hf : c.fires events with
  | ok fired =>
    cases fired with
    | true => exact Criteria.sweep_check hf h []
    | false =>
      have hfetch : (c.check sources).fetch.on s =
          (.ok ⟨Act.ofExcept (c.fires events), Act.ofExcept (c.explain events)⟩, t) :=
        Act.on_bind_ok h
      have hfires : (Act.ofExcept (c.fires events)).on t = (.ok false, t) := by
        rw [hf, Act.on_ofExcept]
      rw [Check.sweep, Act.on_bind_ok hfetch, Act.on_bind_ok hfires]
      rfl
  | error f =>
    have hfetch : (c.check sources).fetch.on s =
        (.ok ⟨Act.ofExcept (c.fires events), Act.ofExcept (c.explain events)⟩, t) :=
      Act.on_bind_ok h
    have hfires : (Act.ofExcept (c.fires events)).on t = (.error f, t) := by
      rw [hf, Act.on_ofExcept]
    rw [Check.sweep, Act.on_bind_ok hfetch, Act.on_bind_error hfires]
    rfl

/-- How a call ends that found something, or nothing. -/
def endingOf : Option String → Ending
  | some reason => found reason
  | none => { status := 0 }

theorem exists_on_lookOnce {guard : Guard W} {r : Except Fault (Option String)}
    (h : (Check.sweep guard.checks).on s = (r, t)) :
    ∃ u, (lookOnce guard).on s = (r.map endingOf, u) ∧ u.world = t.world := by
  cases r with
  | error f => exact ⟨t, Act.on_bind_error h, rfl⟩
  | ok fired =>
    rw [lookOnce, Act.on_bind_ok h]
    cases fired with
    | some reason => exact ⟨_, rfl, rfl⟩
    | none => exact ⟨_, rfl, rfl⟩

theorem on_lookOnce (guard : Guard W) (s : Stage W) :
    ((lookOnce guard).on s).1 = ((Check.sweep guard.checks).on s).1.map endingOf := by
  rcases hsweep : (Check.sweep guard.checks).on s with ⟨r, t⟩
  obtain ⟨u, hlook, -⟩ := exists_on_lookOnce hsweep
  rw [hlook]

/-- How a call that looks once ends on the events that the clusters serve: with status 1 if one of them
is wanted, and then with the report on all that are. -/
structure Verdict (a : Arguments) (since : Moment) (events : List Event) (ending : Ending) : Prop where
  fires_iff : ending.status = 1 ↔ ∃ e ∈ events, a.Wants since e
  reports : ending.status = 1 → ∃ text,
    (criteriaOf a since).report (events.filter (a.Wants since ·)) Criteria.atLeastOne = .ok text ∧
      ending = { status := 1, error := text ++ "\n" }
  quiet : ending.status ≠ 1 → ending = { status := 0 }

/-- The ending of a look at events of which some are wanted, or none. -/
theorem verdict_of_matching {a : Arguments} {since : Moment} (hsince : since.InCalendar)
    (hdates : ∀ e ∈ events, ∀ m ∈ e.lastSeen, m.InCalendar) {sources : List (Source W)}
    (h : (collect sources).on s = (.ok events, t))
    (hmatching : (criteriaOf a since).matching events = .ok (events.filter (a.Wants since ·))) :
    ∃ ending,
      ((Check.sweep [(criteriaOf a since).check sources]).on s).1.map endingOf = .ok ending ∧
        Verdict a since events ending := by
  have hfires : (criteriaOf a since).fires events =
      .ok (!(events.filter (a.Wants since ·)).isEmpty) := by
    rw [Criteria.fires, hmatching, ok_bind]
    rfl
  have hexplain : (criteriaOf a since).explain events =
      (criteriaOf a since).report (events.filter (a.Wants since ·)) Criteria.atLeastOne := by
    rw [Criteria.explain, hmatching, ok_bind]
  rw [sweep_event_check h, hfires, ok_bind, hexplain]
  by_cases hwanted : ∃ e ∈ events, a.Wants since e
  · have hsome : (events.filter (a.Wants since ·)).isEmpty = false := by simpa using hwanted
    have hafter : (criteriaOf a since).after = some since := by rw [criteriaOf_eq]
    obtain ⟨text, htext⟩ := ((criteriaOf a since).okIff_report (events.filter (a.Wants since ·))
      Criteria.atLeastOne).1 (by simpa [hafter] using ⟨fun e he _ => hdates e he, hsince⟩)
    rw [hsome, htext]
    exact ⟨found text, rfl, ⟨fun _ => hwanted, fun _ => rfl⟩, fun _ => ⟨text, htext, rfl⟩,
      fun hne => absurd rfl hne⟩
  · have hnone : (events.filter (a.Wants since ·)).isEmpty = true := by simpa using hwanted
    rw [hnone]
    exact ⟨{ status := 0 }, rfl, ⟨fun h01 => (by cases h01), fun hex => absurd hex hwanted⟩,
      fun h01 => (by cases h01), fun _ => rfl⟩

theorem checks_guardOf (o : Outside W) (config : Config) (c : Criteria) :
    (guardOf o config c).checks =
      [c.check ((connectionsOf config).map (·.listEvents o.network))] := rfl

/-- A call that looks once, with a configuration that has clusters, patterns that can be read, and
clusters that serve pages of datable events, ends with the verdict on these events; only a pattern that
crosses on one of them can keep it from that. -/
theorem single_look_gives_verdict {o : Outside W} {arguments : List String} {a : Arguments}
    {overrides : Named String} {config : Config} {since : Moment} {answers : List Answered}
    {s t u : Stage W} (hread : Arguments.ofStrings arguments = .ok a) (honce : a.once = true)
    (hset : overridesOf a.overrides [] = .ok overrides)
    (hload : (loadConfig o.host none a.config none overrides).on s = (.ok config, t))
    (hclusters : config.clusters ≠ []) (hsince : since? o.now a.since = some since)
    (hvalid : ∀ p ∈ a.names ++ a.messages, Valid p)
    (hanswers : answers.map Answered.connection = connectionsOf config)
    (hserved : Trail (Answered.Leads o.network) answers t u) (hdatable : since.InCalendar)
    (hdates : ∀ e ∈ answers.flatMap Answered.events, ∀ m ∈ e.lastSeen, m.InCalendar) :
    let events := answers.flatMap Answered.events
    let result := ((carryOut o arguments).on s).1
    (∃ ending, result = .ok ending ∧ Verdict a since events ending) ∨
      ((∃ e ∈ events, a.Crosses e) ∧ result = .error .crossing) := by
  intro events result
  have hsources : answers.map (Answered.source o.network) =
      (connectionsOf config).map (·.listEvents o.network) := by
    rw [← hanswers, List.map_map]
    rfl
  obtain ⟨v, hcollect⟩ := Answered.on_collect hserved
  rw [hsources] at hcollect
  have hresult : result = ((Check.sweep [(criteriaOf a since).check
      ((connectionsOf config).map (·.listEvents o.network))]).on t).1.map endingOf := by
    show ((carryOut o arguments).on s).1 = _
    rw [carryOut_of_ok hread, on_run_of_load hset hload, on_runWith hclusters hsince, if_pos honce,
      on_lookOnce, checks_guardOf]
  rw [hresult]
  obtain hmatching | ⟨hcrosses, hmatching⟩ :=
    Selector.filter_of_decides fun e _ => decides_criteriaOf hvalid since e
  · exact .inl (verdict_of_matching hdatable hdates hcollect hmatching)
  · refine .inr ⟨hcrosses, ?_⟩
    have hfires : (criteriaOf a since).fires events = .error .crossing := by
      rw [Criteria.fires, Criteria.matching, hmatching, error_bind]
    rw [sweep_event_check hcollect, hfires]
    rfl

/-! ### One cluster with one page -/

def clustersFile : List UInt8 := "clusters:\n  - url: https://m\n".toUTF8.toList

def oneCluster : Outside Scene where
  host := { files := .directory [("failfast.yaml", .file clustersFile)] }
  network := Scene.network
  clock := Scene.clock
  sleep := Scene.sleep
  now := Moment.first
  patience := 0

def twoEntries : Response where
  status := 200
  body := ("\x7b\"items\":[\x7b\"message\":\"abb\",\"lastTimestamp\":\"2020-01-02T00:00:00Z\"\x7d," ++
    "\x7b\"message\":\"abb\"\x7d]\x7d").toUTF8.toList

/-- The events of the page: one that was seen on a day, and the same without a time. -/
def seenEvent : Event :=
  { message := "abb"
    lastSeen := some ⟨⟨2020, 1, 2, by decide, by decide, by decide, by decide⟩, Clock.midnight,
      some Offset.utc⟩ }

def unseenEvent : Event := { message := "abb" }

def onePage : Scene := { responses := [.ok twoEntries] }

def onlyConnection : Connection where
  cluster := { name := "cluster-0", url := "https://m" }
  settings := { requestTimeout := 20, userAgent := "failfast/0.1", pageSize := 500 }

theorem one_cluster_loads : ∃ config t,
    (loadConfig oneCluster.host none none none []).on ⟨onePage, []⟩ = (.ok config, t) ∧
      t.world = onePage ∧ connectionsOf config = [onlyConnection] := by
  have hreads := oneCluster.host.reads_loadConfig (W := Scene) none none none []
  obtain ⟨config, hconfig, hconnections⟩ := exists_ok_of_toOption (f := connectionsOf)
    (b := [onlyConnection]) (x := oneCluster.host.load none none none []) (by decide +kernel)
  have hon := hreads.on_eq ⟨onePage, []⟩
  rw [hconfig] at hon
  exact ⟨config, _, hon, hreads.world_eq _, hconnections⟩

theorem one_page_is_served {t : Stage Scene} (ht : t.world = onePage) :
    ∃ page u, Trail (Answered.Leads Scene.network) [⟨onlyConnection, [page]⟩] t u ∧
      page.events = [seenEvent, unseenEvent] := by
  obtain ⟨page, hpage, hshape⟩ := exists_ok_of_toOption
    (f := fun page : Page => (page.events, page.next.isTruthy))
    (b := ([seenEvent, unseenEvent], false)) (x := Page.read twoEntries) (by decide +kernel)
  obtain ⟨hevents, hover⟩ := Prod.mk.inj hshape
  obtain ⟨entries, hshows, hdescribe⟩ := Page.read_eq_ok.1 hpage
  obtain ⟨world, journal⟩ := t
  subst ht
  let opened : Scene := { onePage with clients := [onlyConnection.client] }
  let asked : Scene := { opened with requests := [onlyConnection.request .null] }
  have hconnect : (Scene.network.connect onlyConnection.client).on ⟨onePage, journal⟩ =
      (.ok (), ⟨opened, journal⟩) := rfl
  have hget : (Scene.network.get (onlyConnection.request .null)).on ⟨opened, journal⟩ =
      (.ok twoEntries, ⟨asked, journal⟩) := rfl
  have hgives : onlyConnection.Gives Scene.network (Scene.network.reach opened) .null [page]
      ⟨opened, journal⟩ _ := .last hget hshows hdescribe hover
  exact ⟨page, _, .single (.opened hconnect hgives), hevents⟩

/-- Of two events with the same message one was seen after the bound, and the call reports that one. -/
theorem seen_event_is_reported :
    ∃ since text,
      readTimestamp? "2020-01-01" = some since ∧
      Criteria.report { messages := some ["[ab]*"], after := some since } [seenEvent]
        Criteria.atLeastOne = .ok text ∧
      ((carryOut oneCluster ["--once", "--since=2020-01-01", "--message=[ab]*"]).on
        ⟨onePage, []⟩).1 = .ok { status := 1, error := text ++ "\n" } := by
  obtain ⟨a, hread, hfields⟩ := exists_ok_of_toOption
    (f := fun a : Arguments => (a.config, a.since, a.once,
      [a.overrides, a.kinds, a.names, a.reasons, a.messages, a.types]))
    (b := (none, some "2020-01-01", true, [[], [], [], [], ["[ab]*"], []]))
    (x := Arguments.ofStrings ["--once", "--since=2020-01-01", "--message=[ab]*"])
    (by decide +kernel)
  simp only [Prod.mk.injEq, List.cons.injEq] at hfields
  obtain ⟨hconfig, hbound, honce, hoverrides, hkinds, hnames, hreasons, hmessages, htypes, -⟩ :=
    hfields
  obtain ⟨config, t, hload, ht, hconnections⟩ := one_cluster_loads
  obtain ⟨page, u, hserved, hevents⟩ := one_page_is_served ht
  let since : Moment := ⟨⟨2020, 1, 1, by decide, by decide, by decide, by decide⟩, Clock.midnight,
    some Offset.utc⟩
  have hsince : readTimestamp? "2020-01-01" = some since := by decide +kernel
  have hset : overridesOf a.overrides [] = .ok [] := by rw [hoverrides, overridesOf]
  have hloads : (loadConfig oneCluster.host none a.config none []).on ⟨onePage, []⟩ =
      (.ok config, t) := by rw [hconfig, hload]
  have hclusters : config.clusters ≠ [] := by
    intro hnone
    rw [connectionsOf, hnone] at hconnections
    cases hconnections
  have htakes : Takes "[ab]*" "abb" := by decide +kernel
  have hvalid : ∀ p ∈ a.names ++ a.messages, Valid p := by
    rw [hnames, hmessages]
    intro p hp
    obtain rfl : p = "[ab]*" := List.mem_singleton.1 hp
    obtain ⟨steps, hsteps, -⟩ := bind_eq_ok.1 htakes
    exact ⟨steps, hsteps⟩
  have hcollected : [(⟨onlyConnection, [page]⟩ : Answered)].flatMap Answered.events =
      [seenEvent, unseenEvent] := by simp [Answered.events, hevents]
  have hdates : ∀ e ∈ [seenEvent, unseenEvent], ∀ m ∈ e.lastSeen, m.InCalendar := by decide
  have hseen : a.Wants since seenEvent := by
    rw [Arguments.wants_iff, hkinds, hnames, hreasons, hmessages, htypes]
    exact ⟨by simp, ⟨_, rfl, by decide⟩, by simp, fun _ => ⟨_, List.mem_cons_self, htakes⟩,
      by simp, by simp⟩
  have hunseen : ¬a.Wants since unseenEvent := by
    rintro ⟨⟨m, hm, -⟩⟩
    cases hm
  have hwanted : [seenEvent, unseenEvent].filter (a.Wants since ·) = [seenEvent] := by
    simp [hseen, hunseen]
  have hanswers : [(⟨onlyConnection, [page]⟩ : Answered)].map Answered.connection =
      connectionsOf config := hconnections.symm
  have hverdict := single_look_gives_verdict hread honce hset hloads hclusters
    (by rw [hbound]; exact hsince) hvalid hanswers hserved (by decide) (by rw [hcollected]; exact hdates)
  rw [hcollected] at hverdict
  obtain ⟨ending, hresult, hverdict⟩ | ⟨⟨e, he, hcrosses⟩, -⟩ := hverdict
  · obtain ⟨text, htext, rfl⟩ := hverdict.reports
      (hverdict.fires_iff.2 ⟨seenEvent, List.mem_cons_self, hseen⟩)
    rw [hwanted, criteriaOf_eq, hkinds, hnames, hreasons, hmessages, htypes] at htext
    exact ⟨since, text, hsince, htext, hresult⟩
  · -- The pattern takes the message of both events.
    have hmessage : ∀ e ∈ [seenEvent, unseenEvent], e.message = "abb" := by decide
    rw [Arguments.Crosses, hnames, hmessages, hmessage e he] at hcrosses
    obtain ⟨p, hp, -⟩ | ⟨p, hp, hcross⟩ := hcrosses
    · cases hp
    · obtain rfl : p = "[ab]*" := List.mem_singleton.1 hp
      cases htakes.symm.trans hcross

/-- A pattern that can be read, but whose groups cross on the message of an event: the configuration is
loaded, the cluster serves its page, and still the call does not come to an ending. -/
theorem crossing_pattern_escapes :
    let p := "(?:(a)|b)*+"
    let arguments := ["--once", "--since=2020-01-01", "--message=" ++ p]
    Valid p ∧
    (∃ config t page u,
      (loadConfig oneCluster.host none none none []).on ⟨onePage, []⟩ = (.ok config, t) ∧
      connectionsOf config = [onlyConnection] ∧
      Trail (Answered.Leads oneCluster.network) [⟨onlyConnection, [page]⟩] t u ∧
      page.events = [seenEvent, unseenEvent]) ∧
    ((carryOut oneCluster arguments).on ⟨onePage, []⟩).1 = .error .crossing := by
  intro p arguments
  obtain ⟨config, t, hload, ht, hconnections⟩ := one_cluster_loads
  obtain ⟨page, u, hserved, hevents⟩ := one_page_is_served ht
  obtain ⟨steps, hsteps, -⟩ := exists_ok_of_toOption (f := fun _ => ()) (b := ())
    (x := Pattern.program p) (by decide +kernel)
  have hescapes : ((carryOut oneCluster arguments).on ⟨onePage, []⟩).1 = .error .crossing :=
    eq_error_of_faultOf? (by decide +kernel)
  exact ⟨⟨steps, hsteps⟩, ⟨config, t, page, u, hload, hconnections, hserved, hevents⟩, hescapes⟩

end Tripwire.CommandLine
