import Tripwire.Fault

/-!
# Outcomes and trails

What it takes for a chain of steps that may fail to come to a result, and deeds that are done one after
the other, each in the state that the one before left.
-/

namespace Tripwire

variable {ε α β : Type}

theorem ok_bind (a : α) (f : α → Except ε β) : (Except.ok a >>= f) = f a := rfl

theorem error_bind (e : ε) (f : α → Except ε β) : ((Except.error e : Except ε α) >>= f) = .error e :=
  rfl

theorem bind_eq_ok {x : Except ε α} {f : α → Except ε β} {b : β} :
    x >>= f = .ok b ↔ ∃ a, x = .ok a ∧ f a = .ok b := by
  cases x with
  | error e => simp [error_bind]
  | ok a => simp [ok_bind]

theorem map_eq_ok {x : Except ε α} {f : α → β} {b : β} :
    x.map f = .ok b ↔ ∃ a, x = .ok a ∧ f a = b := by
  cases x with
  | error e => simp [Except.map]
  | ok a => simp [Except.map]

theorem length_mapM_ok {f : α → Except ε β} {xs : List α} {ys : List β}
    (h : xs.mapM f = .ok ys) : ys.length = xs.length := by
  induction xs generalizing ys with
  | nil =>
    cases h
    rfl
  | cons x rest ih =>
    rw [List.mapM_cons, bind_eq_ok] at h
    obtain ⟨y, -, h⟩ := h
    obtain ⟨ys', hys, h⟩ := bind_eq_ok.1 h
    cases h
    rw [List.length_cons, List.length_cons, ih hys]

theorem getElem?_mapM_ok {f : α → Except ε β} {xs : List α} {ys : List β}
    (h : xs.mapM f = .ok ys) {i : Nat} {x : α} (hi : xs[i]? = some x) :
    ∃ y, ys[i]? = some y ∧ f x = .ok y := by
  induction xs generalizing ys i with
  | nil => simp at hi
  | cons first rest ih =>
    rw [List.mapM_cons, bind_eq_ok] at h
    obtain ⟨y, hy, h⟩ := h
    obtain ⟨ys', hys, h⟩ := bind_eq_ok.1 h
    cases h
    cases i with
    | zero =>
      cases hi
      exact ⟨y, rfl, hy⟩
    | succ i => exact ih hys hi

/-- What is found out about the result of an evaluation is found out about a result. -/
theorem exists_ok_of_toOption {x : Except ε α} {f : α → β} {b : β}
    (h : x.toOption.map f = some b) : ∃ a, x = .ok a ∧ f a = b := by
  cases x with
  | error e => cases h
  | ok a => exact ⟨a, rfl, Option.some.inj h⟩

/-! ### Trails -/

inductive Trail {σ : Type} (leads : α → σ → σ → Prop) : List α → σ → σ → Prop where
  | nil {s : σ} : Trail leads [] s s
  | cons {a : α} {rest : List α} {s t u : σ} (head : leads a s t) (tail : Trail leads rest t u) :
      Trail leads (a :: rest) s u

theorem Trail.single {σ : Type} {leads : α → σ → σ → Prop} {a : α} {s t : σ} (h : leads a s t) :
    Trail leads [a] s t := .cons h .nil

end Tripwire
