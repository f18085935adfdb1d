import Mathlib.Data.List.Basic
import Tripwire.Proofs.Check.Explained
import Tripwire.Proofs.Event.Selecting

/-!
# What criteria mean

Criteria ask their fields one after the other, and patterns are tried one after the other. In both the
first that settles the answer ends the scan, so a fault is met only if nothing before it has settled the
answer.
-/

namespace Tripwire

open Pattern (Crosses Takes)

variable {α β γ : Type}

/-! ### The first that settles the answer -/

/-- That `r` is the answer of the first of `xs` that settles one. -/
def First (settles : α → β → Prop) (xs : List α) (r : β) : Prop :=
  ∃ before x after, xs = before ++ x :: after ∧ (∀ y ∈ before, ∀ s, ¬settles y s) ∧ settles x r

/-- As `First`, with an answer for lists of which none settles one. -/
def FirstOr (settles : α → β → Prop) (otherwise : β) (xs : List α) (r : β) : Prop :=
  First settles xs r ∨ (∀ x ∈ xs, ∀ s, ¬settles x s) ∧ r = otherwise

section First

variable {settles : α → β → Prop} {otherwise r : β} {x : α} {xs : List α}

theorem not_first_nil : ¬First settles [] r := by
  rintro ⟨before, x, after, heq, -⟩
  simp at heq

theorem first_cons : First settles (x :: xs) r ↔
    settles x r ∨ (∀ s, ¬settles x s) ∧ First settles xs r := by
  constructor
  · rintro ⟨before, y, after, heq, hbefore, hsettles⟩
    cases before with
    | nil =>
      obtain ⟨rfl, -⟩ := List.cons.inj heq
      exact .inl hsettles
    | cons z before =>
      obtain ⟨rfl, rfl⟩ := List.cons.inj heq
      obtain ⟨hx, hbefore⟩ := List.forall_mem_cons.1 hbefore
      exact .inr ⟨hx, before, y, after, rfl, hbefore, hsettles⟩
  · rintro (hsettles | ⟨hx, before, y, after, rfl, hbefore, hsettles⟩)
    · exact ⟨[], x, xs, rfl, by simp, hsettles⟩
    · exact ⟨x :: before, y, after, rfl, List.forall_mem_cons.2 ⟨hx, hbefore⟩, hsettles⟩

theorem exists_first_iff : (∃ r, First settles xs r) ↔ ∃ x ∈ xs, ∃ s, settles x s := by
  induction xs with
  | nil => simp [not_first_nil]
  | cons x xs ih =>
    simp only [first_cons, exists_or, exists_and_left, ih, List.exists_mem_cons_iff]
    by_cases hx : ∃ s, settles x s
    · simp [hx]
    · simp [not_exists.1 hx]

theorem firstOr_nil : FirstOr settles otherwise [] r ↔ r = otherwise := by
  simp [FirstOr, not_first_nil]

theorem firstOr_cons : FirstOr settles otherwise (x :: xs) r ↔
    settles x r ∨ (∀ s, ¬settles x s) ∧ FirstOr settles otherwise xs r := by
  simp only [FirstOr, first_cons, List.forall_mem_cons, or_assoc, and_assoc, and_or_left]

theorem firstOr_filterMap {f : γ → Option α} {ys : List γ} :
    FirstOr settles otherwise (ys.filterMap f) r ↔
      FirstOr (fun y s => ∃ x, f y = some x ∧ settles x s) otherwise ys r := by
  induction ys with
  | nil => rw [List.filterMap_nil, firstOr_nil, firstOr_nil]
  | cons y ys ih =>
    rw [List.filterMap_cons, firstOr_cons]
    cases hf : f y with
    | none => simpa using ih
    | some x => simp [firstOr_cons, ih]

theorem FirstOr.induction {p : β → Prop} (h : FirstOr settles otherwise xs r) (hotherwise : p otherwise)
    (hxs : ∀ x ∈ xs, ∀ s, settles x s → p s) : p r := by
  obtain ⟨before, x, after, rfl, -, hx⟩ | ⟨-, rfl⟩ := h
  · exact hxs x (List.mem_append_right before List.mem_cons_self) r hx
  · exact hotherwise

/-- A scan that passes over one value of `g` and stops at any other. -/
theorem eq_iff_firstOr (scan : List α → β) {g : α → β} {skip : β}
    (hsettles : ∀ x s, settles x s ↔ g x = s ∧ s ≠ skip)
    (hskip : ∀ x xs, g x = skip → scan (x :: xs) = scan xs)
    (hstop : ∀ x xs, g x ≠ skip → scan (x :: xs) = g x) :
    scan xs = r ↔ FirstOr settles (scan []) xs r := by
  induction xs with
  | nil => rw [firstOr_nil, eq_comm]
  | cons x xs ih =>
    rw [firstOr_cons, ← ih, hsettles]
    by_cases hx : g x = skip
    · have hsilent : ∀ s, ¬settles x s := fun s h => by
        obtain ⟨heq, hne⟩ := (hsettles x s).1 h
        exact hne (heq.symm.trans hx)
      have hnot : ¬(g x = r ∧ r ≠ skip) := fun ⟨heq, hne⟩ => hne (heq.symm.trans hx)
      rw [hskip x xs hx]
      simp [hnot, hsilent]
    · have hloud : ¬∀ s, ¬settles x s := fun h => h (g x) ((hsettles x _).2 ⟨rfl, hx⟩)
      rw [hstop x xs hx]
      constructor
      · rintro rfl
        exact .inl ⟨rfl, hx⟩
      · rintro (⟨heq, -⟩ | ⟨hall, -⟩)
        · exact heq
        · exact absurd hall hloud

end First

/-! ### Patterns -/

/-- The answers that a pattern settles for a text, for notions of what it takes and of crossing. A pattern
that does not take the text settles none. -/
inductive Pattern.Settles (takes crosses : String → String → Prop) (text p : String) :
    Except Fault Bool → Prop
  | malformed {f : Pattern.Error} :
    program p = .error f → Settles takes crosses text p (.error (.ofPattern f))
  | takes : takes p text → Settles takes crosses text p (.ok true)
  | crosses : crosses p text → Settles takes crosses text p (.error .crossing)

theorem Pattern.Settles.eq_true {takes : String → String → Prop} {text p : String}
    {r : Except Fault Bool} (h : Settles takes (fun _ _ => False) text p r) (hp : Valid p) :
    r = .ok true := by
  cases h with
  | malformed hf =>
    obtain ⟨steps, hsteps⟩ := hp
    cases hsteps.symm.trans hf
  | takes _ => rfl
  | crosses hfalse => exact hfalse.elim

theorem Pattern.settles_iff {p text : String} {r : Except Fault Bool} :
    Settles Takes Crosses text p r ↔ matchesWhole p text = r ∧ r ≠ .ok false := by
  have hmatch : matchesWhole p text = (program p >>= (takesWhole · text)).mapError Fault.ofPattern := rfl
  constructor
  · rintro (hprogram | htakes | hcrosses)
    · refine ⟨?_, by simp⟩
      rw [hmatch, hprogram]
      rfl
    · refine ⟨?_, by simp⟩
      rw [matchesWhole, htakes]
      rfl
    · refine ⟨?_, by simp⟩
      rw [matchesWhole, hcrosses]
      rfl
  · rintro ⟨rfl, hne⟩
    cases hprogram : program p with
    | error f =>
      rw [hmatch, hprogram]
      exact .malformed hprogram
    | ok steps =>
      obtain ⟨b, hb⟩ | hcrosses := Valid.takes_or_crosses ⟨steps, hprogram⟩ text
      · have hok : matchesWhole p text = .ok b := by rw [matchesWhole, hb]; rfl
        rw [hok] at hne ⊢
        cases b with
        | false => exact absurd rfl hne
        | true => exact .takes hb
      · have hfault : matchesWhole p text = .error .crossing := by rw [matchesWhole, hcrosses]; rfl
        rw [hfault]
        exact .crosses hcrosses

theorem matchesAny_eq_iff {patterns : List String} {text : String} {r : Except Fault Bool} :
    matchesAny patterns text = r ↔
      FirstOr (Pattern.Settles Takes Crosses text) (.ok false) patterns r := by
  refine eq_iff_firstOr (matchesAny · text) (fun p s => Pattern.settles_iff) ?_ ?_
  · intro p rest hp
    rw [matchesAny, hp]
    rfl
  · intro p rest hp
    rw [matchesAny]
    cases hm : matchesWhole p text with
    | error f => rfl
    | ok b =>
      cases b with
      | true => rfl
      | false => exact absurd hm hp

theorem Selector.allOf_eq_iff {selectors : List Selector} {e : Event} {r : Except Fault Bool} :
    allOf selectors e = r ↔ FirstOr (fun s r => s e = r ∧ r ≠ .ok true) (.ok true) selectors r := by
  refine eq_iff_firstOr (allOf · e) (fun s r => Iff.rfl) ?_ ?_
  · intro s rest hs
    rw [allOf, hs]
    rfl
  · intro s rest hs
    rw [allOf]
    cases hm : s e with
    | error f => rfl
    | ok b =>
      cases b with
      | true => exact absurd hm hs
      | false => rfl

/-! ### Fields -/

/-- That an answer tells whether something is so. -/
def Tells (p : Prop) (r : Except Fault Bool) : Prop := ∃ b, r = .ok b ∧ (b = true ↔ p)

theorem tells_iff {p : Prop} {b : Bool} (h : b = true ↔ p) {r : Except Fault Bool} :
    Tells p r ↔ .ok b = r := by
  constructor
  · rintro ⟨b', rfl, h'⟩
    rw [Bool.eq_iff_iff.2 (h.trans h'.symm)]
  · rintro rfl
    exact ⟨b, rfl, h⟩

namespace Criteria

inductive Field where
  | names | after | reasons | messages | types | kinds

def Field.order : List Field := [.names, .after, .reasons, .messages, .types, .kinds]

/-- That a text is among the values, letter case left out. -/
def Listed (values : List String) (text : String) : Prop :=
  ∃ v ∈ values, Text.lowercase text = Text.lowercase v

/-- The outcome of a field that is set. -/
def Outcome (takes crosses : String → String → Prop) (c : Criteria) (e : Event) :
    Field → Except Fault Bool → Prop
  | .names, r => ∃ ps, c.names = some ps ∧
      FirstOr (Pattern.Settles takes crosses e.object.name) (.ok false) ps r
  | .after, r => ∃ m, c.after = some m ∧
      Tells (∃ seen, e.lastSeen = some seen ∧ m.instant < seen.instant) r
  | .reasons, r => ∃ vs, c.reasons = some vs ∧ Tells (Listed vs e.reason) r
  | .messages, r => ∃ ps, c.messages = some ps ∧
      FirstOr (Pattern.Settles takes crosses e.message) (.ok false) ps r
  | .types, r => ∃ vs, c.types = some vs ∧ Tells (Listed vs e.type) r
  | .kinds, r => ∃ vs, c.kinds = some vs ∧ Tells (Listed vs e.object.kind) r

/-- That criteria come to an answer: the first outcome that is not true. -/
def Means (takes crosses : String → String → Prop) (c : Criteria) (e : Event) (r : Except Fault Bool) :
    Prop :=
  FirstOr (fun field r => c.Outcome takes crosses e field r ∧ r ≠ .ok true) (.ok true) Field.order r

def select? (c : Criteria) : Field → Option Selector
  | .names => c.names.map Selector.byObjectName
  | .after => c.after.map Selector.after
  | .reasons => c.reasons.map Selector.byReason
  | .messages => c.messages.map Selector.byMessage
  | .types => c.types.map Selector.byType
  | .kinds => c.kinds.map Selector.byObjectKind

theorem selectors_eq_filterMap (c : Criteria) : c.selectors = Field.order.filterMap c.select? := by
  rw [List.filterMap_eq_flatMap_toList]
  simp [selectors, Field.order, select?]

variable {c : Criteria} {e : Event} {r : Except Fault Bool}

theorem outcome_iff (field : Field) :
    c.Outcome Takes Crosses e field r ↔ ∃ s, c.select? field = some s ∧ s e = r := by
  have hlisted (vs : List String) (text : String) :
      Tells (Listed vs text) r ↔ .ok (equalsAny vs text) = r := tells_iff equalsAny_iff
  have hafter (m : Time.Moment) :
      Tells (∃ seen, e.lastSeen = some seen ∧ m.instant < seen.instant) r ↔ Selector.after m e = r := by
    refine tells_iff ?_
    cases e.lastSeen with
    | none => simp
    | some seen => simp [Time.Moment.before]
  cases field with
  | names => simp [Outcome, select?, ← matchesAny_eq_iff, Selector.byObjectName]
  | after => simp [Outcome, select?, hafter]
  | reasons => simp [Outcome, select?, hlisted, Selector.byReason]
  | messages => simp [Outcome, select?, ← matchesAny_eq_iff, Selector.byMessage]
  | types => simp [Outcome, select?, hlisted, Selector.byType]
  | kinds => simp [Outcome, select?, hlisted, Selector.byObjectKind]

theorem selector_eq_iff : c.selector e = r ↔ c.Means Takes Crosses e r := by
  rw [selector, Selector.allOf_eq_iff, selectors_eq_filterMap, firstOr_filterMap, Means]
  simp only [outcome_iff]
  simp only [← exists_and_right, and_assoc]

end Criteria

/-! ### Selections -/

namespace Selector

variable {s : Selector} {e : Event} {events found : List Event} {f : Fault}

theorem accepts_iff : s.accepts e = true ↔ s e = .ok true := by
  rw [accepts]
  cases s e <;> simp

theorem filter_eq_error_iff :
    s.filter events = .error f ↔ First (fun e f => s e = .error f) events f := by
  induction events with
  | nil => simp [filter, not_first_nil]
  | cons e rest ih =>
    rw [first_cons, ← ih, filter]
    cases s e with
    | error g => simp [error_bind]
    | ok b =>
      rw [ok_bind]
      cases s.filter rest <;> simp [error_bind, ok_bind, pure, Except.pure]

theorem filter_eq_ok_iff : s.filter events = .ok found ↔
    (∀ e ∈ events, ∀ f, s e ≠ .error f) ∧ found = events.filter s.accepts := by
  have hfault : (∃ f, s.filter events = .error f) ↔ ∃ e ∈ events, ∃ f, s e = .error f := by
    simp only [filter_eq_error_iff, exists_first_iff]
  constructor
  · intro h
    refine ⟨fun e he f hf => ?_, filter_eq_ok h⟩
    obtain ⟨g, hg⟩ := hfault.2 ⟨e, he, f, hf⟩
    cases hg.symm.trans h
  · rintro ⟨hnone, rfl⟩
    cases h : s.filter events with
    | ok found => rw [filter_eq_ok h]
    | error f =>
      obtain ⟨e, he, g, hg⟩ := hfault.1 ⟨f, h⟩
      exact absurd hg (hnone e he g)

end Selector

namespace Criteria

variable {c : Criteria} {events : List Event}

instance (e : Event) : Decidable (c.Means Takes Crosses e (.ok true)) :=
  decidable_of_iff (c.selector.accepts e = true) (Selector.accepts_iff.trans selector_eq_iff)

theorem fires_eq_error_iff {f : Fault} : c.fires events = .error f ↔ c.matching events = .error f := by
  rw [fires]
  cases c.matching events <;> simp [error_bind, ok_bind, pure, Except.pure]

theorem fires_eq_ok_iff {b : Bool} : c.fires events = .ok b ↔
    ∃ found, c.matching events = .ok found ∧ (b = true ↔ found ≠ []) := by
  rw [fires, bind_eq_ok]
  refine exists_congr fun found => and_congr_right fun _ => ?_
  cases found <;> cases b <;> simp [pure, Except.pure]

/-- Criteria answer what their first outcome is that is not true, errors included. A selection fails as
the first event does that has no answer, and otherwise finds the events that are answered with yes. -/
theorem first_outcome_not_true_settles (c : Criteria) :
    (∀ e r, c.selector e = r ↔ c.Means Takes Crosses e r) ∧
    ∀ events,
      (∀ f, c.matching events = .error f ↔
        First (fun e f => c.Means Takes Crosses e (.error f)) events f) ∧
      (∀ found, c.matching events = .ok found ↔
        (∀ e ∈ events, ∀ f, ¬c.Means Takes Crosses e (.error f)) ∧
          found = events.filter fun e => c.Means Takes Crosses e (.ok true)) ∧
      (∀ f, c.fires events = .error f ↔ c.matching events = .error f) ∧
      ∀ b, c.fires events = .ok b ↔ ∃ found, c.matching events = .ok found ∧ (b = true ↔ found ≠ []) := by
  refine ⟨fun e r => selector_eq_iff, fun events => ⟨fun f => ?_, fun found => ?_,
    fun f => fires_eq_error_iff, fun b => fires_eq_ok_iff⟩⟩
  · simp only [matching, Selector.filter_eq_error_iff, selector_eq_iff]
  · have haccepts : events.filter (fun e => c.Means Takes Crosses e (.ok true)) =
        events.filter c.selector.accepts := by
      refine List.filter_congr fun e _ => ?_
      rw [Bool.eq_iff_iff, decide_eq_true_iff, ← selector_eq_iff, Selector.accepts_iff]
    rw [matching, Selector.filter_eq_ok_iff, haccepts]
    simp only [← selector_eq_iff, ne_eq]

/-! ### Answers without crossings -/

/-- That every pattern of the criteria can be read. -/
def Readable (c : Criteria) : Prop :=
  ∀ ps, c.names = some ps ∨ c.messages = some ps → ∀ p ∈ ps, Pattern.Valid p

theorem Means.exists_ok {takes : String → String → Prop} {e : Event} {r : Except Fault Bool}
    (h : c.Means takes (fun _ _ => False) e r) (hc : c.Readable) : ∃ b, r = .ok b := by
  refine h.induction (p := fun s => ∃ b, s = .ok b) ⟨true, rfl⟩ fun field _ s hs => ?_
  have hscan {text : String} {ps : List String} (hps : c.names = some ps ∨ c.messages = some ps)
      (hs : FirstOr (Pattern.Settles takes (fun _ _ => False) text) (.ok false) ps s) :
      ∃ b, s = .ok b :=
    hs.induction (p := fun s => ∃ b, s = .ok b) ⟨false, rfl⟩
      fun p hp _ hp' => ⟨true, hp'.eq_true (hc ps hps p hp)⟩
  obtain ⟨houtcome, -⟩ := hs
  cases field with
  | names =>
    obtain ⟨ps, hps, hs⟩ := houtcome
    exact hscan (.inl hps) hs
  | messages =>
    obtain ⟨ps, hps, hs⟩ := houtcome
    exact hscan (.inr hps) hs
  | _ =>
    obtain ⟨_, _, b, rfl, _⟩ := houtcome
    exact ⟨b, rfl⟩

/-- A pattern that can be read, and a message that it takes on a way on which a group ends before it
begins: whatever it is to take a text, criteria that know nothing of crossings mean another answer. -/
theorem crossing_has_no_answer :
    let c : Criteria := { messages := some ["(?:(a)|b)*+"] }
    let e : Event := { message := "abb" }
    ¬∃ takes, c.Means takes (fun _ _ => False) e (c.selector e) := by
  rintro c e ⟨takes, hmeans⟩
  let p := "(?:(a)|b)*+"
  obtain ⟨steps, hsteps, -⟩ := exists_ok_of_toOption (f := fun _ => ()) (b := ())
    (x := Pattern.program p) (by decide +kernel)
  have hreadable : c.Readable := by
    rintro ps (hps | hps) q hq
    · cases hps
    · obtain rfl : [p] = ps := Option.some.inj hps
      obtain rfl := List.mem_singleton.1 hq
      exact ⟨steps, hsteps⟩
  obtain ⟨b, hb⟩ := hmeans.exists_ok hreadable
  have hnone : (c.selector e).toOption = none := by decide +kernel
  rw [hb] at hnone
  cases hnone

end Criteria

end Tripwire
