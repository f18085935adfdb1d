import Tripwire.Criteria
import Tripwire.Proofs.Outcome

/-!
# What a selection decides

A pattern that can be read decides for each text whether it matches, unless the ends of a group cross on
the way, which is a fault of its own. Selections made of such patterns come to the answer that their
parts have, or to that fault.
-/

namespace Tripwire

open Time (Moment)

namespace Pattern

def Valid (p : String) : Prop := ∃ steps, program p = .ok steps

def Takes (p text : String) : Prop := fullMatch p text = .ok true

instance (p text : String) : Decidable (Takes p text) :=
  match h : fullMatch p text with
  | .ok true => isTrue h
  | .ok false => isFalse fun htrue => by cases h.symm.trans htrue
  | .error _ => isFalse fun htrue => by cases h.symm.trans htrue

/-- That a pattern takes a text on a way on which a group ends before it begins. -/
def Crosses (p text : String) : Prop := fullMatch p text = .error .groupCrossed

theorem Valid.takes_or_crosses {p : String} (h : Valid p) (text : String) :
    (∃ b, fullMatch p text = .ok b) ∨ Crosses p text := by
  obtain ⟨steps, hsteps⟩ := h
  have hmatch : fullMatch p text = takesWhole steps text := by rw [fullMatch, hsteps, ok_bind]
  have htakes : (∃ b, takesWhole steps text = .ok b) ∨
      takesWhole steps text = .error .groupCrossed := by
    unfold takesWhole
    extract_lets chars
    split
    · split
      · exact .inr rfl
      · exact .inl ⟨true, rfl⟩
    · exact .inl ⟨false, rfl⟩
  rw [Crosses, hmatch]
  exact htakes

end Pattern

open Pattern (Crosses Takes Valid)

/-- The fault of a pattern whose groups crossed. -/
def Fault.crossing : Fault := .ofPattern .groupCrossed

/-- That a selection comes to whether something is so, or, where `x` is so, to the fault of a
crossing. -/
def Decides (x p : Prop) (r : Except Fault Bool) : Prop :=
  (∃ b, r = .ok b ∧ (b = true ↔ p)) ∨ (x ∧ r = .error .crossing)

namespace Decides

variable {x y p q : Prop} {r r' : Except Fault Bool}

theorem ok {b : Bool} (h : b = true ↔ p) : Decides x p (.ok b) := .inl ⟨b, rfl, h⟩

theorem congr (h : Decides x p r) (hp : p ↔ q) : Decides x q r := by
  obtain ⟨b, hr, hb⟩ | hfault := h
  · exact .inl ⟨b, hr, hb.trans hp⟩
  · exact .inr hfault

theorem weaken (h : Decides x p r) (hx : x → y) : Decides y p r := by
  obtain hok | ⟨hcross, hr⟩ := h
  · exact .inl hok
  · exact .inr ⟨hx hcross, hr⟩

theorem and (h : Decides x p r) (h' : Decides x q r') :
    Decides x (p ∧ q) (r >>= fun b => if b then r' else pure false) := by
  obtain ⟨b, rfl, hb⟩ | ⟨hcross, rfl⟩ := h
  · cases b with
    | true => exact h'.congr (by simp [← hb])
    | false => exact ok (by simp [← hb])
  · exact .inr ⟨hcross, rfl⟩

theorem or (h : Decides x p r) (h' : Decides x q r') :
    Decides x (p ∨ q) (r >>= fun b => if b then pure true else r') := by
  obtain ⟨b, rfl, hb⟩ | ⟨hcross, rfl⟩ := h
  · cases b with
    | true => exact ok (by simp [← hb])
    | false => exact h'.congr (by simp [← hb])
  · exact .inr ⟨hcross, rfl⟩

end Decides

/-! ### Patterns and candidates -/

theorem decides_matchesWhole {p : String} (h : Valid p) (text : String) :
    Decides (Crosses p text) (Takes p text) (matchesWhole p text) := by
  rw [matchesWhole, Takes]
  obtain ⟨b, hb⟩ | hcross := h.takes_or_crosses text
  · rw [hb]
    exact .ok (by simp)
  · rw [hcross]
    exact .inr ⟨hcross, rfl⟩

/-- Of several patterns one has to match. -/
theorem decides_matchesAny {patterns : List String} (h : ∀ p ∈ patterns, Valid p) (text : String) :
    Decides (∃ p ∈ patterns, Crosses p text) (∃ p ∈ patterns, Takes p text)
      (matchesAny patterns text) := by
  induction patterns with
  | nil => exact .ok (by simp)
  | cons p rest ih =>
    obtain ⟨hp, hrest⟩ := List.forall_mem_cons.1 h
    have hfirst := (decides_matchesWhole hp text).weaken (y := ∃ q ∈ p :: rest, Crosses q text)
      fun hcross => ⟨p, List.mem_cons_self, hcross⟩
    have hothers := (ih hrest).weaken (y := ∃ q ∈ p :: rest, Crosses q text)
      fun ⟨q, hq, hcross⟩ => ⟨q, List.mem_cons_of_mem p hq, hcross⟩
    rw [matchesAny]
    exact (hfirst.or hothers).congr (by simp)

theorem equalsAny_iff {candidates : List String} {text : String} :
    equalsAny candidates text = true ↔ ∃ c ∈ candidates, Text.lowercase text = Text.lowercase c := by
  simp [equalsAny]

/-! ### Selectors -/

namespace Selector

theorem allOf_append (front later : List Selector) (e : Event) :
    allOf (front ++ later) e = (allOf front e >>= fun b => if b then allOf later e else pure false) := by
  induction front with
  | nil => rfl
  | cons s front ih =>
    rw [List.cons_append, allOf, allOf, ih]
    cases s e with
    | error f => rfl
    | ok b =>
      cases b with
      | true => rfl
      | false => rfl

variable {x : Prop} {p q : Prop} {e : Event} {front later : List Selector}

theorem decides_append (h : Decides x p (allOf front e)) (h' : Decides x q (allOf later e)) :
    Decides x (p ∧ q) (allOf (front ++ later) e) := by
  rw [allOf_append]
  exact h.and h'

theorem decides_singleton {s : Selector} (h : Decides x p (s e)) : Decides x p (allOf [s] e) := by
  have htrue : Decides x True (allOf [] e) := .ok (by simp)
  exact (h.and htrue).congr (by simp)

/-- A list of values as a field; without values there is no field. -/
def asked (values : List String) : Option (List String) :=
  if values.isEmpty then none else some values

theorem decides_asked {values : List String} {select : List String → Selector}
    (h : Decides x p (select values e)) :
    Decides x (values ≠ [] → p)
      (allOf ((asked values).map select).toList e) := by
  cases values with
  | nil => exact .ok (by simp)
  | cons v rest => exact (decides_singleton h).congr (by simp)

/-- A selection comes to the events for which the answer is yes, or to the fault of a crossing. -/
theorem filter_of_decides {s : Selector} {events : List Event} {wants : Event → Prop}
    [DecidablePred wants] {crosses : Event → Prop}
    (h : ∀ e ∈ events, Decides (crosses e) (wants e) (s e)) :
    s.filter events = .ok (events.filter (wants ·)) ∨
      (∃ e ∈ events, crosses e) ∧ s.filter events = .error .crossing := by
  induction events with
  | nil => exact .inl rfl
  | cons e rest ih =>
    obtain ⟨he, hrest⟩ := List.forall_mem_cons.1 h
    rw [filter]
    obtain ⟨b, hb, hiff⟩ | ⟨hcross, hfault⟩ := he
    · have hb' : decide (wants e) = b := by
        cases b with
        | true => exact decide_eq_true (hiff.1 rfl)
        | false => exact decide_eq_false fun hw => Bool.false_ne_true (hiff.2 hw)
      rw [hb, ok_bind, List.filter_cons, hb']
      obtain hok | ⟨⟨e', he', hcross⟩, hfault⟩ := ih hrest
      · exact .inl (by rw [hok, ok_bind]; rfl)
      · exact .inr ⟨⟨e', List.mem_cons_of_mem e he', hcross⟩, by rw [hfault, error_bind]⟩
    · exact .inr ⟨⟨e, List.mem_cons_self, hcross⟩, by rw [hfault, error_bind]⟩

end Selector

end Tripwire
