import Mathlib.Data.List.Basic
import Mathlib.Data.List.Induction
import Tripwire.Check.Session

/-!
# Histories of a registry

What a session has come to is said of its history, the steps done so far: the criteria of a draft are
what was last written in each field since the draft was opened, and the checks are those that were
registered, each event check with the criteria that its draft had then. A guard calls the checks that
were registered before it was built, whatever is done after that.
-/

namespace Tripwire

open Time (Moment)

variable {W : Type}

namespace Step

def opens (draft : String) : Step W → Bool
  | .openDraft d => d == draft
  | _ => false

def values? (draft : String) (field : CriteriaField) : Step W → Option (List String)
  | .configure d f values => if d = draft ∧ f = field then some values else none
  | _ => none

def moment? (draft : String) : Step W → Option Moment
  | .bound d moment => if d = draft then some moment else none
  | _ => none

end Step

/-- The steps since a draft was last opened, the latest first. -/
def sinceOpened (draft : String) (history : List (Step W)) : List (Step W) :=
  history.reverse.takeWhile fun s => !s.opens draft

/-- What was last written in each field of a draft since it was opened. -/
def lastWritten (draft : String) (history : List (Step W)) : Criteria where
  names := (sinceOpened draft history).findSome? (Step.values? draft .names)
  reasons := (sinceOpened draft history).findSome? (Step.values? draft .reasons)
  messages := (sinceOpened draft history).findSome? (Step.values? draft .messages)
  types := (sinceOpened draft history).findSome? (Step.values? draft .types)
  kinds := (sinceOpened draft history).findSome? (Step.values? draft .kinds)
  after := (sinceOpened draft history).findSome? (Step.moment? draft)

/-- The check that a step registers, given the steps before it. -/
def Step.registers? (sources : List (Source W)) (before : List (Step W)) : Step W → Option (Check W)
  | .register draft => some ((lastWritten draft before).check sources)
  | .addCheck check => some check
  | _ => none

/-- The checks that were registered in a history, in the order of the steps that did so. -/
def registered (sources : List (Source W)) (history : List (Step W)) : List (Check W) :=
  (List.range history.length).filterMap fun i =>
    history[i]?.bind (Step.registers? sources (history.take i))

/-! ### One step more -/

variable {sources : List (Source W)} {history : List (Step W)}

theorem registered_concat (history : List (Step W)) (x : Step W) :
    registered sources (history ++ [x]) =
      registered sources history ++ (x.registers? sources history).toList := by
  have hbefore : ∀ i ∈ List.range history.length,
      (history ++ [x])[i]?.bind (Step.registers? sources ((history ++ [x]).take i)) =
        history[i]?.bind (Step.registers? sources (history.take i)) := by
    intro i hi
    have hlt : i < history.length := List.mem_range.1 hi
    rw [List.getElem?_append_left hlt, List.take_append_of_le_length (Nat.le_of_lt hlt)]
  rw [registered, List.length_append, List.length_singleton, List.range_succ,
    List.filterMap_append, List.filterMap_congr hbefore, registered]
  simp [List.filterMap_cons]
  cases x.registers? sources history with
  | none => rfl
  | some c => rfl

theorem sinceOpened_concat (draft : String) (history : List (Step W)) (x : Step W) :
    sinceOpened draft (history ++ [x]) =
      if x.opens draft then [] else x :: sinceOpened draft history := by
  rw [sinceOpened, List.reverse_append, List.reverse_singleton, List.singleton_append,
    List.takeWhile_cons]
  cases x.opens draft with
  | true => rfl
  | false => rfl

/-- A step that writes nothing into a draft leaves what was last written. -/
theorem lastWritten_concat {x : Step W} {draft : String} (history : List (Step W))
    (hopens : x.opens draft = false) (hvalues : ∀ field, x.values? draft field = none)
    (hmoment : x.moment? draft = none) :
    lastWritten draft (history ++ [x]) = lastWritten draft history := by
  simp [lastWritten, sinceOpened_concat, hopens, hvalues, hmoment]

theorem lastWritten_open (draft name : String) (history : List (Step W)) :
    lastWritten draft (history ++ [.openDraft name]) =
      if name = draft then {} else lastWritten draft history := by
  by_cases h : name = draft
  · simp [lastWritten, sinceOpened_concat, Step.opens, h]
  · rw [if_neg h]
    exact lastWritten_concat history (beq_eq_false_iff_ne.2 h) (fun _ => rfl) rfl

theorem lastWritten_configure (draft name : String) (field : CriteriaField) (values : List String)
    (history : List (Step W)) :
    lastWritten draft (history ++ [.configure name field values]) =
      if name = draft then (lastWritten draft history).set field values
      else lastWritten draft history := by
  by_cases h : name = draft
  · subst h
    have hsince : sinceOpened name (history ++ [.configure name field values]) =
        .configure name field values :: sinceOpened name history := sinceOpened_concat _ _ _
    cases field <;>
      simp [lastWritten, hsince, List.findSome?_cons, Step.values?, Step.moment?, Criteria.set]
  · rw [if_neg h]
    exact lastWritten_concat history rfl (fun _ => if_neg fun e => h e.1) rfl

theorem lastWritten_bound (draft name : String) (moment : Moment) (history : List (Step W)) :
    lastWritten draft (history ++ [.bound name moment]) =
      if name = draft then { lastWritten draft history with after := some moment }
      else lastWritten draft history := by
  by_cases h : name = draft
  · subst h
    have hsince : sinceOpened name (history ++ [.bound name moment]) =
        .bound name moment :: sinceOpened name history := sinceOpened_concat _ _ _
    simp [lastWritten, hsince, List.findSome?_cons, Step.values?, Step.moment?]
  · rw [if_neg h]
    exact lastWritten_concat history rfl (fun _ => rfl) (if_neg h)

theorem Criteria.on_configure (c : Criteria) (field : CriteriaField) (values : List String)
    (s : Stage W) : ∃ t, (c.configure field values).on s = (.ok (c.set field values), t) := by
  rw [Criteria.configure]
  cases values.isEmpty with
  | true => exact ⟨_, rfl⟩
  | false => exact ⟨_, rfl⟩

namespace Session

theorem draft_put (σ : Session W) (name draft : String) (c : Criteria) :
    ({ σ with drafts := σ.drafts.put name c } : Session W).draft draft =
      if name = draft then c else σ.draft draft := by
  rw [Session.draft, Named.get?_put]
  by_cases h : name = draft
  · rw [if_pos h, if_pos h, Option.getD_some]
  · rw [if_neg h, if_neg h, Session.draft]

/-- That the registry and the drafts of a session are what its history makes of them. -/
structure Follows (σ : Session W) (sources : List (Source W)) (history : List (Step W)) : Prop where
  sources_eq : σ.registry.sources = sources
  checks_eq : σ.registry.checks = registered sources history
  draft_eq : ∀ draft, σ.draft draft = lastWritten draft history

/-- A step that neither registers a check nor touches a draft. -/
theorem Follows.of_same {σ τ : Session W} {x : Step W} (h : σ.Follows sources history)
    (hregistry : τ.registry = σ.registry) (hdrafts : τ.drafts = σ.drafts)
    (hregisters : x.registers? sources history = none)
    (hlast : ∀ draft, lastWritten draft (history ++ [x]) = lastWritten draft history) :
    τ.Follows sources (history ++ [x]) := by
  constructor
  · rw [hregistry, h.sources_eq]
  · rw [hregistry, h.checks_eq, registered_concat, hregisters]
    simp
  · intro draft
    rw [hlast, ← h.draft_eq draft, Session.draft, hdrafts, Session.draft]

theorem Follows.step {σ : Session W} (h : σ.Follows sources history) (s : Stage W) (x : Step W) :
    (σ.step s x).2.1.Follows sources (history ++ [x]) := by
  have hidle : ∀ draft, x.opens draft = false → (∀ field, x.values? draft field = none) →
      x.moment? draft = none → lastWritten draft (history ++ [x]) = lastWritten draft history :=
    fun _ => lastWritten_concat history
  have hkeep : x.registers? sources history = none →
      registered sources (history ++ [x]) = registered sources history := by
    intro hnone
    rw [registered_concat, hnone]
    simp
  cases x with
  | openDraft name =>
    refine ⟨h.sources_eq, h.checks_eq.trans (hkeep rfl).symm, fun draft => ?_⟩
    rw [lastWritten_open, ← h.draft_eq]
    exact draft_put σ name draft {}
  | configure name field values =>
    obtain ⟨t, hon⟩ := (σ.draft name).on_configure field values s
    have hstep : (σ.step s (.configure name field values)).2.1 =
        { σ with drafts := σ.drafts.put name ((σ.draft name).set field values) } := by
      rw [Session.step, hon]
    rw [hstep]
    refine ⟨h.sources_eq, h.checks_eq.trans (hkeep rfl).symm, fun draft => ?_⟩
    rw [lastWritten_configure, ← h.draft_eq, draft_put]
    by_cases hname : name = draft
    · rw [if_pos hname, if_pos hname, hname]
    · rw [if_neg hname, if_neg hname]
  | bound name moment =>
    refine ⟨h.sources_eq, h.checks_eq.trans (hkeep rfl).symm, fun draft => ?_⟩
    have hput := draft_put σ name draft { σ.draft name with after := some moment }
    rw [lastWritten_bound, ← h.draft_eq]
    refine hput.trans ?_
    by_cases hname : name = draft
    · rw [if_pos hname, if_pos hname, hname]
    · rw [if_neg hname, if_neg hname]
  | criteria name =>
    exact h.of_same rfl rfl rfl fun draft => hidle draft rfl (fun _ => rfl) rfl
  | register name =>
    refine ⟨h.sources_eq, ?_, fun draft => ?_⟩
    · have hregisters : (Step.register name : Step W).registers? sources history =
          some ((lastWritten name history).check sources) := rfl
      rw [registered_concat, hregisters, ← h.checks_eq, ← h.draft_eq, ← h.sources_eq]
      rfl
    · rw [hidle draft rfl (fun _ => rfl) rfl]
      exact h.draft_eq draft
  | addCheck check =>
    refine ⟨h.sources_eq, ?_, fun draft => ?_⟩
    · have hregisters : (Step.addCheck check).registers? sources history = some check := rfl
      rw [registered_concat, hregisters, ← h.checks_eq]
      rfl
    · rw [hidle draft rfl (fun _ => rfl) rfl]
      exact h.draft_eq draft
  | build name =>
    exact h.of_same rfl rfl rfl fun draft => hidle draft rfl (fun _ => rfl) rfl
  | call name =>
    exact h.of_same rfl rfl rfl fun draft => hidle draft rfl (fun _ => rfl) rfl
  | collect =>
    exact h.of_same rfl rfl rfl fun draft => hidle draft rfl (fun _ => rfl) rfl
  | happen act =>
    exact h.of_same rfl rfl rfl fun draft => hidle draft rfl (fun _ => rfl) rfl

/-! ### Runs -/

end Session

end Tripwire
