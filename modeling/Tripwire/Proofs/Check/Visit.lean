import Tripwire.Check.Basic
import Tripwire.Proofs.Outcome

/-!
# Visits

A visit asks checks, in order, for a snapshot each and for a judgement on it. The checks that do not
fire come first; the visit ends at the next one, which is asked for its reason if it fires, or at a
check that fails. `sweep_visit` says that this is what a sweep does and nothing else.
-/

namespace Tripwire

variable {W : Type}

namespace Check

/-- Something that a check is asked, with the place of the check, and what it gave. -/
inductive Probe (W : Type) where
  | fetch (place : Nat) (gave : Except Fault (Snapshot W))
  | evaluate (place : Nat) (seen : Snapshot W) (gave : Except Fault Bool)
  | explain (place : Nat) (seen : Snapshot W) (gave : Except Fault String)

def Probe.Leads (checks : List (Check W)) : Probe W → Stage W → Stage W → Prop
  | fetch place gave, s, t => ∃ c, checks[place]? = some c ∧ c.fetch.on s = (gave, t)
  | evaluate _ seen gave, s, t => seen.evaluate.on s = (gave, t)
  | explain _ seen gave, s, t => seen.explain.on s = (gave, t)

/-- How a visit ends: no check is left, or the next one fails on the way or fires. -/
inductive Ending (W : Type) where
  | quiet
  | notFetched (f : Fault)
  | notJudged (seen : Snapshot W) (f : Fault)
  | notExplained (seen : Snapshot W) (f : Fault)
  | fired (seen : Snapshot W) (reason : String)

namespace Ending

def probes (place : Nat) : Ending W → List (Probe W)
  | quiet => []
  | notFetched f => [.fetch place (.error f)]
  | notJudged seen f => [.fetch place (.ok seen), .evaluate place seen (.error f)]
  | notExplained seen f =>
    [.fetch place (.ok seen), .evaluate place seen (.ok true), .explain place seen (.error f)]
  | fired seen reason =>
    [.fetch place (.ok seen), .evaluate place seen (.ok true), .explain place seen (.ok reason)]

def result : Ending W → Except Fault (Option String)
  | quiet => .ok none
  | notFetched f | notJudged _ f | notExplained _ f => .error f
  | fired _ reason => .ok (some reason)

def reason : Ending W → String
  | fired _ reason => reason
  | _ => ""

/-- The stage once the visit is over: a check that fired leaves a record. -/
def closing : Ending W → Stage W → Stage W
  | fired _ _, s => { s with journal := s.journal ++ [⟨.info, "Fail-fast check triggered"⟩] }
  | _, s => s

end Ending

/-- The probes of checks that do not fire, from a place on, given what they showed. -/
def passing (place : Nat) : List (Snapshot W) → List (Probe W)
  | [] => []
  | seen :: rest =>
    .fetch place (.ok seen) :: .evaluate place seen (.ok false) :: passing (place + 1) rest

/-- A visit: what the checks showed that did not fire, and how it ended at the one after them. -/
structure Visit (checks : List (Check W)) (s : Stage W) (passed : List (Snapshot W))
    (ending : Ending W) (t : Stage W) : Prop where
  made : Trail (Probe.Leads checks) (passing 0 passed ++ ending.probes passed.length) s t
  quiet_iff : ending = .quiet ↔ passed.length = checks.length
  length_le : passed.length ≤ checks.length

theorem sweep_trail (front rest : List (Check W)) (s : Stage W) :
    ∃ (passed : List (Snapshot W)) (ending : Ending W) (t : Stage W),
      Trail (Probe.Leads (front ++ rest))
        (passing front.length passed ++ ending.probes (front.length + passed.length)) s t ∧
      (ending = .quiet ↔ passed.length = rest.length) ∧ passed.length ≤ rest.length ∧
      (sweep rest).on s = (ending.result, ending.closing t) := by
  induction rest generalizing front s with
  | nil => exact ⟨[], .quiet, s, .nil, by simp, by simp, rfl⟩
  | cons c rest ih =>
    have hplace : (front ++ c :: rest)[front.length]? = some c := by simp
    rcases hf : c.fetch.on s with ⟨gave, s₁⟩
    cases gave with
    | error f =>
      refine ⟨[], .notFetched f, s₁, .single ⟨c, hplace, hf⟩, by simp, by simp, ?_⟩
      exact Act.on_bind_error hf
    | ok seen =>
      rw [sweep, Act.on_bind_ok hf]
      rcases he : seen.evaluate.on s₁ with ⟨gave, s₂⟩
      cases gave with
      | error f =>
        refine ⟨[], .notJudged seen f, s₂, .cons ⟨c, hplace, hf⟩ (.single he), by simp, by simp, ?_⟩
        exact Act.on_bind_error he
      | ok fires =>
        rw [Act.on_bind_ok he]
        cases fires with
        | true =>
          rw [if_pos rfl]
          rcases hr : seen.explain.on s₂ with ⟨gave, s₃⟩
          cases gave with
          | error f =>
            refine ⟨[], .notExplained seen f, s₃, .cons ⟨c, hplace, hf⟩ (.cons he (.single hr)),
              by simp, by simp, ?_⟩
            exact Act.on_bind_error hr
          | ok reason =>
            refine ⟨[], .fired seen reason, s₃, .cons ⟨c, hplace, hf⟩ (.cons he (.single hr)),
              by simp, by simp, ?_⟩
            exact Act.on_bind_ok hr
        | false =>
          -- The rest is swept with this check in front of it, so that places stay what they are.
          obtain ⟨passed, ending, t, hmade, hquiet, hle, hon⟩ := ih (front ++ [c]) s₂
          have hlist : front ++ [c] ++ rest = front ++ c :: rest := by simp
          have hfront : (front ++ [c]).length = front.length + 1 := by simp
          have hnext : front.length + 1 + passed.length = front.length + (seen :: passed).length := by
            simp only [List.length_cons]
            omega
          rw [hlist, hfront, hnext] at hmade
          refine ⟨seen :: passed, ending, t, .cons ⟨c, hplace, hf⟩ (.cons he hmade), ?_, ?_, hon⟩
          · rw [hquiet, List.length_cons, List.length_cons]
            omega
          · simpa using hle

/-- Checks that stand behind others are visited if none of those fires. -/
theorem sweep_append (front later : List (Check W)) :
    sweep (front ++ later) = (do
      match ← sweep front with
      | some reason => return some reason
      | none => sweep later) := by
  induction front with
  | nil => rfl
  | cons c front ih =>
    simp only [List.cons_append, sweep, bind_assoc, ih]
    refine bind_congr fun seen => bind_congr fun fires => ?_
    cases fires with
    | true => simp
    | false => rfl

theorem sweep_visit (checks : List (Check W)) (s : Stage W) :
    ∃ (passed : List (Snapshot W)) (ending : Ending W) (t : Stage W),
      Visit checks s passed ending t ∧ (sweep checks).on s = (ending.result, ending.closing t) := by
  obtain ⟨passed, ending, t, hmade, hquiet, hle, hon⟩ := sweep_trail [] checks s
  have hlen : ([] : List (Check W)).length + passed.length = passed.length := by simp
  rw [hlen] at hmade
  exact ⟨passed, ending, t, ⟨hmade, hquiet, hle⟩, hon⟩

end Check

end Tripwire
