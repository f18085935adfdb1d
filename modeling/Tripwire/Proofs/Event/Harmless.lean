import Tripwire.Proofs.Check.Explained
import Tripwire.Proofs.Config.Contained
import Tripwire.Proofs.Listing.Page

/-!
# Faults that are no ends of waits

A wait ends with faults of its own. What is done for an event check, to read pages, to select events
and to report them, never fails in the same way, so such a fault always comes from the wait itself.
-/

namespace Tripwire

variable {W α β : Type}

/-- Whether a fault is one that a wait makes when it ends. -/
def Fault.endsWait : Fault → Bool
  | tripped _ | timedOut _ => true
  | _ => false

theorem Fault.endsWait_of_isInvalidValue {f : Fault} (h : f.isInvalidValue = true) :
    f.endsWait = false := by
  cases f with
  | tripped reason => cases h
  | timedOut text => cases h
  | _ => rfl

/-- That something does not fail in the way in which waits do. -/
def Harmless (r : Except Fault α) : Prop := ∀ f, r = .error f → f.endsWait = false

theorem harmless_ok (a : α) : Harmless (.ok a : Except Fault α) := by
  intro f h
  cases h

theorem harmless_error {f : Fault} (hf : f.endsWait = false) :
    Harmless (.error f : Except Fault α) := by
  intro f' h
  cases h
  exact hf

theorem Harmless.bind {r : Except Fault α} {f : α → Except Fault β} (h : Harmless r)
    (h' : ∀ a, Harmless (f a)) : Harmless (r >>= f) := by
  cases r with
  | error e => exact harmless_error (h e rfl)
  | ok a => exact h' a

theorem harmless_mapM {f : α → Except Fault β} (h : ∀ a, Harmless (f a)) (as : List α) :
    Harmless (as.mapM f) := by
  induction as with
  | nil => exact harmless_ok []
  | cons a as ih =>
    rw [List.mapM_cons]
    exact (h a).bind fun b => ih.bind fun bs => harmless_ok (b :: bs)

theorem harmless_of_not_escapes {r : Except Fault α} (h : ¬Escapes r) : Harmless r := by
  intro f hf
  apply Fault.endsWait_of_isInvalidValue
  cases hinvalid : f.isInvalidValue with
  | true => rfl
  | false => exact absurd ⟨f, hf, hinvalid⟩ h

theorem OkIff.harmless {p : Prop} {r : Except Fault α} (h : OkIff p r) : Harmless r := by
  by_cases hp : p
  · obtain ⟨a, rfl⟩ := h.1 hp
    exact harmless_ok a
  · rw [h.2 hp]
    exact harmless_error rfl

/-! ### Pages -/

namespace Value

theorem harmless_lookup (v : Value) (key : String) : Harmless (v.lookup key) := by
  unfold lookup
  split
  · exact harmless_ok _
  · exact harmless_error rfl

theorem harmless_textAt (v : Value) (key : String) : Harmless (v.textAt key) := by
  refine (v.harmless_lookup key).bind fun leaf => ?_
  unfold leafText
  split
  · exact harmless_ok _
  · exact harmless_of_not_escapes (not_escapes_toText _)

theorem harmless_count (v : Value) : Harmless v.count := by
  unfold count
  split
  · exact harmless_ok _
  · exact harmless_error rfl
  · exact harmless_ok _

theorem harmless_items (v : Value) : Harmless v.items := by
  cases v with
  | list items => exact harmless_ok items
  | map entries anchor => exact harmless_ok _
  | text s => exact harmless_ok _
  | bytes bs => exact harmless_ok _
  | _ => exact harmless_error rfl

end Value

/-- That an act fails on no stage in the way in which waits do. -/
def Act.Calm (act : Act W α) : Prop := ∀ s, Harmless (act.on s).1

theorem Act.calm_ofExcept {r : Except Fault α} (hr : Harmless r) :
    (Act.ofExcept r : Act W α).Calm := by
  intro s
  rw [Act.on_ofExcept]
  exact hr

theorem Act.Calm.bind {act : Act W α} {next : α → Act W β} (h : act.Calm)
    (h' : ∀ a, (next a).Calm) : (act >>= next).Calm := by
  intro s
  have hr := h s
  rcases hact : act.on s with ⟨r, t⟩
  rw [hact] at hr
  cases r with
  | error f =>
    rw [Act.on_bind_error hact]
    exact harmless_error (hr f rfl)
  | ok a =>
    rw [Act.on_bind_ok hact]
    exact h' a t

theorem Value.calm_timestamp (v : Value) : (v.timestamp : Act W (Option Time.Moment)).Calm := by
  intro s
  cases v with
  | text text =>
    rw [timestamp]
    split
    · exact harmless_ok _
    · cases readTimestamp? text with
      | some m => exact harmless_ok _
      | none => exact harmless_ok _
  | _ => exact harmless_ok _

namespace Event

theorem calm_ofEntry (entry : Value) : (ofEntry entry : Act W Event).Calm := by
  have hfield {v : Value} {key : String} {f : Value → Act W Event} (h : ∀ a, (f a).Calm) :
      (Act.ofExcept (v.lookup key) >>= f).Calm := (Act.calm_ofExcept (v.harmless_lookup key)).bind h
  have htext {v : Value} {key : String} {f : String → Act W Event} (h : ∀ a, (f a).Calm) :
      (Act.ofExcept (v.textAt key) >>= f).Calm := (Act.calm_ofExcept (v.harmless_textAt key)).bind h
  have hseen {v : Value} {f : Option Time.Moment → Act W Event} (h : ∀ a, (f a).Calm) :
      (v.timestamp >>= f).Calm := v.calm_timestamp.bind h
  have hcount {v : Value} {f : Int → Act W Event} (h : ∀ a, (f a).Calm) :
      (Act.ofExcept v.count >>= f).Calm := (Act.calm_ofExcept v.harmless_count).bind h
  exact hfield fun _ => hfield fun _ => hfield fun _ => htext fun _ => htext fun _ => htext fun _ =>
    htext fun _ => htext fun _ => htext fun _ => hfield fun _ => hseen fun _ => htext fun _ =>
    htext fun _ => hfield fun _ => hcount fun _ => hfield fun _ => hseen fun _ => htext fun _ =>
    fun _ => harmless_ok _

theorem harmless_read (entry : Value) : Harmless (Event.read entry) := calm_ofEntry entry _

end Event

theorem Response.harmless_document (r : Response) : Harmless r.document := by
  unfold Response.document
  split
  · exact harmless_error rfl
  · split
    · exact harmless_ok _
    · exact harmless_error rfl
    · exact harmless_error rfl

theorem Page.harmless_read (r : Response) : Harmless (Page.read r) := by
  unfold Page.read
  split
  · refine r.harmless_document.bind fun document => (document.harmless_lookup _).bind fun items => ?_
    have hevents : Harmless (Event.readEach (if items.isTruthy then items else .list [])) :=
      (Value.harmless_items _).bind fun entries => harmless_mapM Event.harmless_read entries
    exact hevents.bind fun events => (document.harmless_lookup _).bind fun metadata =>
      (metadata.orEmptyMap.harmless_lookup _).bind fun next => harmless_ok _
  · exact harmless_error rfl

/-! ### Selections and reports -/

theorem Fault.endsWait_ofPattern (e : Pattern.Error) : (Fault.ofPattern e).endsWait = false := by
  cases e <;> rfl

theorem harmless_matchesWhole (p text : String) : Harmless (matchesWhole p text) := by
  rw [matchesWhole]
  cases Pattern.fullMatch p text with
  | ok b => exact harmless_ok b
  | error e => exact harmless_error (Fault.endsWait_ofPattern e)

theorem harmless_matchesAny (patterns : List String) (text : String) :
    Harmless (matchesAny patterns text) := by
  induction patterns with
  | nil => exact harmless_ok false
  | cons p rest ih =>
    refine (harmless_matchesWhole p text).bind fun b => ?_
    cases b with
    | true => exact harmless_ok true
    | false => exact ih

namespace Selector

theorem harmless_allOf {selectors : List Selector} {e : Event} (h : ∀ s ∈ selectors, Harmless (s e)) :
    Harmless (allOf selectors e) := by
  induction selectors with
  | nil => exact harmless_ok true
  | cons s rest ih =>
    obtain ⟨hfirst, hrest⟩ := List.forall_mem_cons.1 h
    refine hfirst.bind fun b => ?_
    cases b with
    | true => exact ih hrest
    | false => exact harmless_ok false

theorem harmless_filter {s : Selector} (h : ∀ e, Harmless (s e)) (events : List Event) :
    Harmless (s.filter events) := by
  induction events with
  | nil => exact harmless_ok []
  | cons e rest ih => exact (h e).bind fun _ => ih.bind fun _ => harmless_ok _

end Selector

namespace Criteria

theorem harmless_selector (c : Criteria) (e : Event) : Harmless (c.selector e) := by
  apply Selector.harmless_allOf
  intro s hs
  simp only [selectors, List.mem_append, Option.mem_toList, Option.map_eq_some_iff] at hs
  -- Only names and messages are matched against patterns; the other selectors always have an answer.
  rcases hs with ((((⟨v, -, rfl⟩ | ⟨v, -, rfl⟩) | ⟨v, -, rfl⟩) | ⟨v, -, rfl⟩) | ⟨v, -, rfl⟩) | ⟨v, -, rfl⟩
  · exact harmless_matchesAny v e.object.name
  · exact harmless_ok _
  · exact harmless_ok _
  · exact harmless_matchesAny v e.message
  · exact harmless_ok _
  · exact harmless_ok _

theorem harmless_matching (c : Criteria) (events : List Event) : Harmless (c.matching events) :=
  Selector.harmless_filter c.harmless_selector events

theorem harmless_fires (c : Criteria) (events : List Event) : Harmless (c.fires events) :=
  (c.harmless_matching events).bind fun _ => harmless_ok _

theorem harmless_explain (c : Criteria) (events : List Event) : Harmless (c.explain events) :=
  (c.harmless_matching events).bind fun found => (c.okIff_report found atLeastOne).harmless

end Criteria

end Tripwire
