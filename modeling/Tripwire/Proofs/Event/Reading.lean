import Mathlib.Tactic.Choose
import Tripwire.Event.Wire
import Tripwire.Proofs.Outcome

/-!
# Reading entries

To read an entry of a listing is to come to an event, or to fail, and to write records on the way. The
stage has no part in it: `Event.read` is what an entry comes to wherever it is read.
-/

namespace Tripwire

variable {V W α β : Type}

namespace Act

/-- That an act comes to the same result on every stage, and does no more to it than write records. -/
def Reads (act : Act W α) (r : Except Fault α) : Prop :=
  ∃ notes, ∀ s, act.on s = (r, { s with journal := s.journal ++ notes })

theorem reads_pure (a : α) : (pure a : Act W α).Reads (.ok a) := by
  refine ⟨[], fun s => ?_⟩
  simp

theorem reads_ofExcept (r : Except Fault α) : (ofExcept r : Act W α).Reads r := by
  refine ⟨[], fun s => ?_⟩
  simp

theorem reads_fail (f : Fault) : (fail f : Act W α).Reads (.error f) := by
  refine ⟨[], fun s => ?_⟩
  simp

theorem reads_note (level : Level) (text : String) : (note level text : Act W Unit).Reads (.ok ()) :=
  ⟨[⟨level, text⟩], fun _ => rfl⟩

theorem Reads.bind {act : Act W α} {next : α → Act W β} {r : Except Fault α}
    {f : α → Except Fault β} (h : act.Reads r) (h' : ∀ a, (next a).Reads (f a)) :
    (act >>= next).Reads (r >>= f) := by
  obtain ⟨notes, hact⟩ := h
  cases r with
  | error e => exact ⟨notes, fun s => on_bind_error (hact s)⟩
  | ok a =>
    obtain ⟨more, hnext⟩ := h' a
    refine ⟨notes ++ more, fun s => ?_⟩
    rw [on_bind_ok (hact s), hnext, ok_bind]
    simp only [List.append_assoc]

theorem reads_mapM {f : α → Act W β} {read : α → Except Fault β} (h : ∀ a, (f a).Reads (read a))
    (as : List α) : (as.mapM f).Reads (as.mapM read) := by
  induction as with
  | nil => exact reads_pure []
  | cons a as ih =>
    rw [List.mapM_cons, List.mapM_cons]
    exact (h a).bind fun b => ih.bind fun bs => reads_pure (b :: bs)

/-- An act leaves the world as it is if all that it does is to read. -/
theorem Reads.world_eq {act : Act W α} {r : Except Fault α} (h : act.Reads r) (s : Stage W) :
    (act.on s).2.world = s.world := by
  obtain ⟨notes, hact⟩ := h
  rw [hact]

theorem Reads.on_eq {act : Act W α} {r : Except Fault α} (h : act.Reads r) (s : Stage W) :
    act.on s = (r, (act.on s).2) := by
  obtain ⟨notes, hact⟩ := h
  rw [hact]

/-- That two acts, each in a world of its own, read the same. -/
def ReadsAs (act : Act W α) (other : Act V α) : Prop := ∃ r, act.Reads r ∧ other.Reads r

theorem readsAs_pure (a : α) : (pure a : Act W α).ReadsAs (pure a : Act V α) :=
  ⟨_, reads_pure a, reads_pure a⟩

theorem ReadsAs.bind {act : Act W α} {other : Act V α} {next : α → Act W β} {next' : α → Act V β}
    (h : act.ReadsAs other) (h' : ∀ a, (next a).ReadsAs (next' a)) :
    (act >>= next).ReadsAs (other >>= next') := by
  obtain ⟨r, hact, hother⟩ := h
  choose f hf hf' using h'
  exact ⟨r >>= f, hact.bind hf, hother.bind hf'⟩

end Act

theorem Value.readsAs_timestamp (v : Value) :
    (v.timestamp : Act W (Option Time.Moment)).ReadsAs (v.timestamp : Act V _) := by
  cases v with
  | text s =>
    rw [Value.timestamp, Value.timestamp]
    split
    · exact Act.readsAs_pure none
    · cases readTimestamp? s with
      | some m => exact Act.readsAs_pure (some m)
      | none =>
        exact Act.ReadsAs.bind ⟨_, Act.reads_note _ _, Act.reads_note _ _⟩
          fun _ => Act.readsAs_pure none
  | _ => exact Act.readsAs_pure none

namespace Event

theorem readsAs_ofEntry (entry : Value) :
    (Event.ofEntry entry : Act W Event).ReadsAs (Event.ofEntry entry : Act V Event) := by
  have hnext {α : Type} {r : Except Fault α} {f : α → Act W Event} {g : α → Act V Event}
      (h : ∀ a, (f a).ReadsAs (g a)) : (Act.ofExcept r >>= f).ReadsAs (Act.ofExcept r >>= g) :=
    Act.ReadsAs.bind ⟨r, Act.reads_ofExcept r, Act.reads_ofExcept r⟩ h
  have hseen {v : Value} {f : Option Time.Moment → Act W Event}
      {g : Option Time.Moment → Act V Event} (h : ∀ m, (f m).ReadsAs (g m)) :
      (v.timestamp >>= f).ReadsAs (v.timestamp >>= g) := v.readsAs_timestamp.bind h
  -- The leaves are read one after the other; only the two timestamps write records.
  exact hnext fun _ => hnext fun _ => hnext fun _ => hnext fun _ => hnext fun _ => hnext fun _ =>
    hnext fun _ => hnext fun _ => hnext fun _ => hnext fun _ => hseen fun _ => hnext fun _ =>
    hnext fun _ => hnext fun _ => hnext fun _ => hnext fun _ => hseen fun _ => hnext fun _ =>
    Act.readsAs_pure _

/-- The event that an entry describes, or why there is none. -/
def read (entry : Value) : Except Fault Event :=
  ((Event.ofEntry entry : Act Unit Event).on { world := () }).1

theorem reads_ofEntry (entry : Value) : (Event.ofEntry entry : Act W Event).Reads (read entry) := by
  obtain ⟨r, hact, hunit⟩ := readsAs_ofEntry (V := Unit) (W := W) entry
  have hread : read entry = r := by
    rw [read, hunit.on_eq]
  rw [hread]
  exact hact

def readEach (entries : Value) : Except Fault (List Event) := do
  let items ← entries.items
  items.mapM read

theorem reads_ofEntries (entries : Value) :
    (Event.ofEntries entries : Act W (List Event)).Reads (readEach entries) :=
  (Act.reads_ofExcept _).bind fun items => Act.reads_mapM reads_ofEntry items

/-- Entries describe events if each describes one. -/
theorem mapM_read_eq_ok {entries : List Value} {events : List Event} :
    entries.mapM read = .ok events ↔ entries.map read = events.map .ok := by
  induction entries generalizing events with
  | nil =>
    cases events with
    | nil => exact ⟨fun _ => rfl, fun _ => rfl⟩
    | cons e es =>
      constructor
      · intro h
        cases h
      · intro h
        cases h
  | cons entry entries ih =>
    rw [List.mapM_cons, bind_eq_ok]
    constructor
    · rintro ⟨e, he, h⟩
      obtain ⟨es, hes, h⟩ := bind_eq_ok.1 h
      cases h
      rw [List.map_cons, List.map_cons, he, ih.1 hes]
    · intro h
      cases events with
      | nil => cases h
      | cons e es =>
        rw [List.map_cons, List.map_cons] at h
        obtain ⟨he, hes⟩ := List.cons.inj h
        exact ⟨e, he, bind_eq_ok.2 ⟨es, ih.2 hes, rfl⟩⟩

end Event

end Tripwire
