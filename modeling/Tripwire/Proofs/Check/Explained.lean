import Tripwire.Check.Registry
import Tripwire.Proofs.Check.Reason
import Tripwire.Proofs.Event.Reading
import Tripwire.Proofs.Time.Calendar

/-!
# What fires and what can be explained

Criteria compare instants, which every moment has. A report writes moments in universal time, and a
moment near the ends of the calendar may have none. So criteria can fire on events that they cannot
explain; then the call of the guard fails and the guard has no reason.
-/

namespace Tripwire

open Time (Moment)

variable {W α β : Type}

/-! ### Writing moments -/

/-- That there is a result under a condition, and without it a moment has no date. -/
def OkIff (p : Prop) (r : Except Fault α) : Prop :=
  (p → ∃ a, r = .ok a) ∧ (¬p → r = .error .dateOutOfRange)

namespace OkIff

variable {p q : Prop}

theorem ok (a : α) (h : p) : OkIff p (.ok a : Except Fault α) :=
  ⟨fun _ => ⟨a, rfl⟩, fun hnot => absurd h hnot⟩

theorem bind {r : Except Fault α} {f : α → Except Fault β} (h : OkIff p r)
    (h' : ∀ a, OkIff q (f a)) : OkIff (p ∧ q) (r >>= f) := by
  constructor
  · rintro ⟨hp, hq⟩
    obtain ⟨a, rfl⟩ := h.1 hp
    exact (h' a).1 hq
  · intro hnot
    by_cases hp : p
    · obtain ⟨a, rfl⟩ := h.1 hp
      exact (h' a).2 fun hq => hnot ⟨hp, hq⟩
    · rw [h.2 hp]
      rfl

theorem map {r : Except Fault α} {f : α → β} (h : OkIff p r) :
    OkIff p (r >>= fun a => pure (f a)) := by
  constructor
  · intro hp
    obtain ⟨a, rfl⟩ := h.1 hp
    exact ⟨f a, rfl⟩
  · intro hp
    rw [h.2 hp]
    rfl

theorem mapM {f : α → Except Fault β} {p : α → Prop} (h : ∀ a, OkIff (p a) (f a)) (as : List α) :
    OkIff (∀ a ∈ as, p a) (as.mapM f) := by
  induction as with
  | nil => exact ok [] (by simp)
  | cons a as ih =>
    rw [List.mapM_cons]
    simp only [List.forall_mem_cons]
    exact (h a).bind fun b => ih.map

end OkIff

theorem okIff_isoUtc (m : Moment) : OkIff m.InCalendar (isoUtc m) := by
  constructor
  · intro h
    obtain ⟨u, hu, -⟩ := Moment.toUtc?_eq_some h
    exact ⟨_, by rw [isoUtc, hu]⟩
  · intro h
    rw [isoUtc, Moment.toUtc?_eq_none h]

/-! ### The events that are found -/

def Selector.accepts (s : Selector) (e : Event) : Bool :=
  match s e with
  | .ok b => b
  | .error _ => false

theorem Selector.filter_eq_ok {s : Selector} {events found : List Event}
    (h : s.filter events = .ok found) : found = events.filter s.accepts := by
  induction events generalizing found with
  | nil =>
    cases h
    rfl
  | cons e rest ih =>
    rw [Selector.filter] at h
    obtain ⟨accepted, he, h⟩ := bind_eq_ok.1 h
    obtain ⟨others, hrest, h⟩ := bind_eq_ok.1 h
    have haccepts : s.accepts e = accepted := by rw [accepts, he]
    rw [List.filter_cons, haccepts, ← ih hrest]
    exact (Except.ok.inj h).symm

namespace Criteria

theorem okIff_eventLine (e : Event) : OkIff (∀ m ∈ e.lastSeen, m.InCalendar) (eventLine e) := by
  unfold eventLine
  cases e.lastSeen with
  | none => exact .ok _ (by simp)
  | some m =>
    have hiff : (∀ seen ∈ some m, seen.InCalendar) ↔ m.InCalendar := by simp
    rw [hiff]
    exact (okIff_isoUtc m).map

theorem okIff_describe (c : Criteria) : OkIff (∀ m ∈ c.after, m.InCalendar) c.describe := by
  unfold describe
  cases c.after with
  | none => exact .ok _ (by simp)
  | some m =>
    have hiff : (∀ bound ∈ some m, bound.InCalendar) ↔ m.InCalendar := by simp
    rw [hiff]
    exact (okIff_isoUtc m).map

theorem okIff_report (c : Criteria) (events : List Event) (condition : String) :
    OkIff ((∀ e ∈ events, ∀ m ∈ e.lastSeen, m.InCalendar) ∧ ∀ m ∈ c.after, m.InCalendar)
      (c.report events condition) :=
  (OkIff.mapM okIff_eventLine events).bind fun _ => c.okIff_describe.map

/-- That every moment which a report on the events writes has a date in universal time: when the events
that satisfy the criteria were last seen, and the bound of the criteria. -/
def Datable (c : Criteria) (events : List Event) : Prop :=
  (∀ e ∈ events, c.selector.accepts e → ∀ m ∈ e.lastSeen, m.InCalendar) ∧
    ∀ m ∈ c.after, m.InCalendar

theorem okIff_explain {c : Criteria} {events : List Event} (h : c.fires events = .ok true) :
    OkIff (c.Datable events) (c.explain events) := by
  obtain ⟨found, hfound, -⟩ := bind_eq_ok.1 h
  have heq := Selector.filter_eq_ok hfound
  have hdatable : c.Datable events ↔
      (∀ e ∈ found, ∀ m ∈ e.lastSeen, m.InCalendar) ∧ ∀ m ∈ c.after, m.InCalendar := by
    rw [heq, Datable]
    simp only [List.mem_filter, and_imp]
  rw [hdatable, explain, hfound, ok_bind]
  exact c.okIff_report found atLeastOne

end Criteria

/-! ### The call of a guard -/

namespace Criteria

theorem sweep_check {c : Criteria} {events : List Event} (h : c.fires events = .ok true)
    {sources : List (Source W)} {s t : Stage W}
    (hevents : (collect sources).on s = (.ok events, t)) (later : List (Check W)) :
    ((Check.sweep (c.check sources :: later)).on s).1 = (c.explain events).map some := by
  have hfetch : (c.check sources).fetch.on s =
      (.ok ⟨Act.ofExcept (c.fires events), Act.ofExcept (c.explain events)⟩, t) :=
    Act.on_bind_ok hevents
  have hfires : (Act.ofExcept (c.fires events)).on t = (.ok true, t) := by rw [h, Act.on_ofExcept]
  rw [Check.sweep, Act.on_bind_ok hfetch, Act.on_bind_ok hfires, if_pos rfl]
  have hexplain := Act.on_ofExcept (c.explain events) t
  cases hr : c.explain events with
  | ok text =>
    rw [hr] at hexplain
    rw [Act.on_bind_ok hexplain]
    rfl
  | error f =>
    rw [hr] at hexplain
    rw [Act.on_bind_error hexplain]
    rfl

/-- What a guard answers to a call and keeps as its reason, if no check in front of the event check
fires and the sources give the events. -/
def Answers (c : Criteria) (events : List Event) (answer : Except Fault Bool) (reason : String) :
    Prop :=
  ∀ (W : Type) (front later : List (Check W)) (sources : List (Source W)) (old : String)
    (s t u : Stage W), (Check.sweep front).on s = (.ok none, t) →
    (collect sources).on t = (.ok events, u) →
    ((⟨front ++ c.check sources :: later, old⟩ : Guard W).call s).1 = answer ∧
      ((⟨front ++ c.check sources :: later, old⟩ : Guard W).call s).2.1 =
        ⟨front ++ c.check sources :: later, reason⟩

theorem answers_of_result {c : Criteria} {events : List Event} (h : c.fires events = .ok true) :
    c.Answers events ((c.explain events).map fun _ => true)
      ((c.explain events).toOption.getD "") := by
  intro W front later sources old s t u hfront hevents
  have hsweep : ((Check.sweep (front ++ c.check sources :: later)).on s).1 =
      (c.explain events).map some := by
    rw [Check.sweep_append, Act.on_bind_ok hfront]
    exact sweep_check h hevents later
  have hkeep (g : Guard W) : g.keep ((c.explain events).map some) =
      ⟨g.checks, (c.explain events).toOption.getD ""⟩ := by
    cases c.explain events with
    | ok text => rfl
    | error f => rfl
  rw [Guard.call]
  simp only
  rw [hsweep, hkeep]
  constructor
  · cases c.explain events with
    | ok text => rfl
    | error f => rfl
  · rfl

/-- Events on which criteria fire can be explained if their moments have dates in universal time, and
then a call of the guard fires and keeps the text. Otherwise the explanation fails, and so does the
call. -/
theorem explains_if_datable (c : Criteria) (events : List Event) (h : c.fires events = .ok true) :
    (c.Datable events →
      ∃ text, c.explain events = .ok text ∧ c.Answers events (.ok true) text) ∧
    (¬c.Datable events →
      c.explain events = .error .dateOutOfRange ∧
        c.Answers events (.error .dateOutOfRange) "") := by
  have hexplain := okIff_explain h
  have hanswers := answers_of_result h
  constructor
  · intro hdatable
    obtain ⟨text, htext⟩ := hexplain.1 hdatable
    rw [htext] at hanswers
    exact ⟨text, htext, hanswers⟩
  · intro hnot
    have hfault := hexplain.2 hnot
    rw [hfault] at hanswers
    exact ⟨hfault, hanswers⟩

/-- An event of the last instant is explained with the first instant as the bound. -/
theorem last_instant_is_explained :
    let c : Criteria := { after := some Moment.first }
    let e : Event := { lastSeen := some Moment.last }
    c.fires [e] = .ok true ∧ ∃ text, c.explain [e] = .ok text ∧ c.Answers [e] (.ok true) text := by
  intro c e
  have hfires : c.fires [e] = .ok true := rfl
  have hdatable : c.Datable [e] := by
    constructor
    · intro e' he' _ m hm
      obtain rfl : e' = e := List.mem_singleton.1 he'
      obtain rfl : Moment.last = m := Option.some.inj hm
      decide
    · intro m hm
      obtain rfl : Moment.first = m := Option.some.inj hm
      decide
  exact ⟨hfires, (explains_if_datable c [e] hfires).1 hdatable⟩

/-- The first midnight of the calendar, an hour east of universal time, is an instant that has no date
there. An event of that time is read from a listing and fires, but the call of the guard fails. -/
theorem early_midnight_is_not_explained :
    let entry : Value := .map [(.text "lastTimestamp", .text "0001-01-01T00:00:00+01:00")] none
    ∃ e, Event.read entry = .ok e ∧ ({} : Criteria).fires [e] = .ok true ∧
      ({} : Criteria).explain [e] = .error .dateOutOfRange ∧
      let source : Source Unit := Act.ofExcept (.ok [e])
      let guard := (({ sources := [source] } : Registry Unit).register {}).build
      (guard.call { world := () }).1 = .error .dateOutOfRange ∧
        (guard.call { world := () }).2.1.reason = "" := by
  intro entry
  let seen : Moment := { Moment.first with offset := some ⟨3600000000, by decide⟩ }
  let e : Event := { lastSeen := some seen }
  have hread : Event.read entry = .ok e := by
    have hoption : (Event.read entry).toOption = some e := by decide +kernel
    cases h : Event.read entry with
    | ok found =>
      rw [h] at hoption
      exact congrArg _ (Option.some.inj hoption)
    | error f =>
      rw [h] at hoption
      cases hoption
  have hfires : ({} : Criteria).fires [e] = .ok true := by rfl
  have hearly : ¬seen.InCalendar := by decide
  have hexplain : ({} : Criteria).explain [e] = .error .dateOutOfRange := by
    apply (okIff_explain hfires).2
    intro hdatable
    exact hearly (hdatable.1 e (List.mem_singleton_self e) rfl seen rfl)
  have hanswers : ({} : Criteria).Answers [e] (.error .dateOutOfRange) "" := by
    have hresult := answers_of_result hfires
    rw [hexplain] at hresult
    exact hresult
  have hbuild : (({ sources := [Act.ofExcept (.ok [e])] } : Registry Unit).register {}).build =
      ⟨[] ++ ({} : Criteria).check [Act.ofExcept (.ok [e])] :: [], ""⟩ := rfl
  have hcall := hanswers Unit [] [] [Act.ofExcept (.ok [e])] "" { world := () } _ _ rfl rfl
  rw [← hbuild] at hcall
  exact ⟨e, hread, hfires, hexplain, hcall.1, congrArg Guard.reason hcall.2⟩

end Criteria

end Tripwire
