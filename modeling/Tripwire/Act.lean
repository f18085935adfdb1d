import Tripwire.Fault

/-!
# Acts

An act works on a world, may fail and writes records. What it did to the world and what it wrote stay,
also when it fails. The lemmas say what each way to make an act comes to on a stage; with them a run is
followed step by step, and no one looks inside an act. Records are kept in a journal, each with a level
and a text, in the order in which they were written.
-/

namespace Tripwire

/-! ### Journals -/

/-- How much a record matters. -/
inductive Level where
  | debug
  | info
  | warning
deriving DecidableEq, Repr

def Level.name : Level → String
  | debug => "DEBUG"
  | info => "INFO"
  | warning => "WARNING"

/-- A record of a journal. -/
structure Record where
  level : Level
  text : String
deriving DecidableEq, Repr

/-- Records in the order in which they were written. -/
abbrev Journal := List Record

/-! ### Stages -/

/-- A world and what was written so far. -/
structure Stage (W : Type) where
  world : W
  journal : Journal := []

/-- A computation over a world. -/
abbrev Act (W : Type) (α : Type) := ExceptT Fault (StateM (Stage W)) α

namespace Act

variable {W α β : Type}

def note (level : Level) (text : String) : Act W Unit :=
  modify fun s => { s with journal := s.journal ++ [⟨level, text⟩] }

def fail (f : Fault) : Act W α := throw f

/-- Goes on with a result, or fails with its fault. -/
def ofExcept (r : Except Fault α) : Act W α :=
  match r with
  | .ok a => pure a
  | .error f => throw f

def look (f : W → α) : Act W α := do return f (← get).world

def change (f : W → W) : Act W Unit := modify fun s => { s with world := f s.world }

/-- What an act comes to on a stage: its result and the stage after it. -/
def on (act : Act W α) (s : Stage W) : Except Fault α × Stage W := (ExceptT.run act).run s

/-! ### What acts come to -/

@[simp] theorem on_pure (a : α) (s : Stage W) : (pure a : Act W α).on s = (.ok a, s) := rfl

/-- The second act takes place on the stage that the first leaves, unless the first failed. -/
theorem on_bind (act : Act W α) (next : α → Act W β) (s : Stage W) :
    (act >>= next).on s =
      match act.on s with
      | (.ok a, s) => (next a).on s
      | (.error f, s) => (.error f, s) := by
  show ((ExceptT.run act).run s >>= fun r => (ExceptT.bindCont next r.1).run r.2) = _
  unfold on
  rcases (ExceptT.run act).run s with ⟨r, s'⟩
  cases r with
  | ok a => rfl
  | error f => rfl

theorem on_bind_ok {act : Act W α} {next : α → Act W β} {s t : Stage W} {a : α}
    (h : act.on s = (.ok a, t)) : (act >>= next).on s = (next a).on t := by
  rw [on_bind, h]

theorem on_bind_error {act : Act W α} {next : α → Act W β} {s t : Stage W} {f : Fault}
    (h : act.on s = (.error f, t)) : (act >>= next).on s = (.error f, t) := by
  rw [on_bind, h]

theorem on_bind_eq_ok {act : Act W α} {next : α → Act W β} {s u : Stage W} {b : β}
    (h : (act >>= next).on s = (.ok b, u)) :
    ∃ a t, act.on s = (.ok a, t) ∧ (next a).on t = (.ok b, u) := by
  rcases hact : act.on s with ⟨r, t⟩
  cases r with
  | ok a => exact ⟨a, t, rfl, (on_bind_ok hact).symm.trans h⟩
  | error f => cases (on_bind_error hact).symm.trans h

/-- Of two acts that fail together the first fails, or it does not and the second fails. -/
theorem on_bind_eq_error {act : Act W α} {next : α → Act W β} {s u : Stage W} {f : Fault}
    (h : (act >>= next).on s = (.error f, u)) :
    act.on s = (.error f, u) ∨ ∃ a t, act.on s = (.ok a, t) ∧ (next a).on t = (.error f, u) := by
  rcases hact : act.on s with ⟨r, t⟩
  cases r with
  | ok a => exact Or.inr ⟨a, t, rfl, (on_bind_ok hact).symm.trans h⟩
  | error f' =>
    cases (on_bind_error hact).symm.trans h
    exact Or.inl rfl

@[simp] theorem on_note (level : Level) (text : String) (s : Stage W) :
    (note level text).on s = (.ok (), { s with journal := s.journal ++ [⟨level, text⟩] }) := rfl

@[simp] theorem on_fail (f : Fault) (s : Stage W) :
    (fail f : Act W α).on s = (.error f, s) := rfl

@[simp] theorem on_ofExcept (r : Except Fault α) (s : Stage W) : (ofExcept r).on s = (r, s) := by
  cases r with
  | ok a => rfl
  | error f => rfl

@[simp] theorem on_look (f : W → α) (s : Stage W) : (look f).on s = (.ok (f s.world), s) := rfl

@[simp] theorem on_change (f : W → W) (s : Stage W) :
    (change f).on s = (.ok (), { s with world := f s.world }) := rfl

/-- A handler takes over on the stage that the failed act leaves. -/
theorem on_tryCatch (act : Act W α) (handle : Fault → Act W α) (s : Stage W) :
    (tryCatch act handle).on s =
      match act.on s with
      | (.ok a, s) => (.ok a, s)
      | (.error f, s) => (handle f).on s := by
  rcases h : act.on s with ⟨r, t⟩
  have ht : StateT.run act s = (r, t) := h
  show (ExceptT.run (ExceptT.tryCatch act handle)).run s = _
  simp only [ExceptT.tryCatch, ExceptT.run_mk, StateT.run_bind, ht]
  cases r with
  | ok a => rfl
  | error f => rfl

end Act

end Tripwire
