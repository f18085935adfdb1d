import Tripwire.Proofs.Config.Unshared

/-!
# Obstacles

A write fails only at a list of clusters on its way that cannot be read by names, its obstacle. Writes
that meet no shared mapping make no obstacles: one that a path has is there from the beginning, and a
write that does not fail takes the obstacles out of the way of its path.
-/

namespace Tripwire

namespace Entries

/-- The fault at the first list of clusters on the way of a path that cannot be read by names. -/
def obstacle? : Entries → List String → Option Fault
  | entries, key :: next :: rest =>
    match mappingOnPath key (entries.get? (.text key)) with
    | .ok (child, _) => obstacle? child (next :: rest)
    | .error f => some f
  | _, _ => none

/-- The obstacle of a path once other paths were written: none if one of them is a part of it. -/
def obstacleAfter? (entries : Entries) (written : List (List String)) (path : List String) :
    Option Fault :=
  if ∃ p ∈ written, p <+: path then none else entries.obstacle? path

/-- The first obstacle to writing paths one after the other, once others were written. -/
def firstObstacle? (entries : Entries) : List (List String) → List (List String) → Option Fault
  | _, [] => none
  | written, path :: rest =>
    (entries.obstacleAfter? written path).or (entries.firstObstacle? (path :: written) rest)

@[simp] theorem obstacle?_nil (path : List String) : obstacle? [] path = none := by
  induction path with
  | nil => rfl
  | cons key rest ih =>
    cases rest with
    | nil => rfl
    | cons next rest => exact ih

/-! ### One write -/

theorem writeAt_eq_error_iff {entries : Entries} {path : List String} {v : Value} {f : Fault} :
    writeAt v entries path = .error f ↔ entries.obstacle? path = some f := by
  induction path generalizing entries with
  | nil => simp [writeAt, obstacle?]
  | cons key rest ih =>
    cases rest with
    | nil => simp [writeAt, obstacle?]
    | cons next rest =>
      rw [writeAt, obstacle?]
      cases mappingOnPath key (entries.get? (.text key)) with
      | error g => simp [error_bind]
      | ok below =>
        obtain ⟨child, anchor⟩ := below
        rw [ok_bind, ← ih]
        dsimp only
        cases writeAt v child (next :: rest) with
        | error g => exact Iff.rfl
        | ok written => exact iff_of_false (by rintro ⟨⟩) (by rintro ⟨⟩)

theorem write_eq_error_iff_obstacle {entries : Entries} {path : List String} {v : Value} {f : Fault} :
    entries.write path v = .error f ↔ entries.obstacle? path = some f := by
  rw [← writeAt_eq_error_iff (v := v), write]
  cases writeAt v entries path <;> simp [Except.map]

theorem exists_write_iff {entries : Entries} {path : List String} {v : Value} :
    (∃ r, entries.write path v = .ok r) ↔ entries.obstacle? path = none := by
  rw [Option.eq_none_iff_forall_ne_some]
  simp only [ne_eq, ← write_eq_error_iff_obstacle (v := v)]
  cases entries.write path v <;> simp

theorem get?_put_text (entries : Entries) (key other : String) (v : Value) :
    (entries.put (.text key) v).get? (.text other) =
      if key = other then some v else entries.get? (.text other) := by
  rw [get?_put, Value.sameKey_text]
  simp only [beq_iff_eq]

section Write

variable {entries r : Entries} {path : List String} {s : String}

theorem obstacle?_write (hu : entries.Unshared path) (hp : path ≠ [])
    (h : entries.write path (.text s) = .ok r) (q : List String) :
    r.obstacle? q = if path <+: q then none else entries.obstacle? q := by
  induction path generalizing entries r q with
  | nil => exact absurd rfl hp
  | cons key rest ih =>
    match q with
    | [] => simp [obstacle?]
    | [other] => simp [obstacle?]
    | other :: second :: q =>
      cases rest with
      | nil =>
        cases h
        rw [obstacle?, get?_put_text]
        simp only [List.cons_prefix_cons]
        by_cases hk : key = other
        · rw [if_pos hk, if_pos ⟨hk, List.nil_prefix⟩, mappingOnPath_text]
          exact obstacle?_nil _
        · rw [if_neg hk, if_neg fun hc => hk hc.1]
          rfl
      | cons next rest =>
        obtain ⟨child, written, hchild, hcu, hwritten, rfl⟩ := write_under_eq_ok hu h
        have hpart : key :: next :: rest <+: other :: second :: q ↔
            key = other ∧ next :: rest <+: second :: q := List.cons_prefix_cons
        rw [obstacle?, get?_put_text]
        simp only [hpart]
        by_cases hk : key = other
        · subst hk
          have hbelow : entries.obstacle? (key :: second :: q) = child.obstacle? (second :: q) := by
            rw [obstacle?, hchild]
          rw [if_pos rfl, mappingOnPath_map, hbelow]
          simp only [true_and]
          exact ih hcu (by simp) hwritten (second :: q)
        · rw [if_neg hk, if_neg fun hc => hk hc.1]
          rfl

theorem Unshared.write {q : List String} (hq : entries.Unshared q) (hu : entries.Unshared path)
    (h : entries.write path (.text s) = .ok r) : r.Unshared q := by
  induction path generalizing entries r q with
  | nil =>
    cases h
    exact hq
  | cons key rest ih =>
    match q with
    | [] => trivial
    | [other] => trivial
    | other :: second :: q =>
      cases rest with
      | nil =>
        cases h
        intro below anchor hbelow
        rw [get?_put_text] at hbelow
        by_cases hk : key = other
        · rw [if_pos hk] at hbelow
          cases hbelow
          exact ⟨rfl, unshared_nil _⟩
        · rw [if_neg hk] at hbelow
          exact hq below anchor hbelow
      | cons next rest =>
        obtain ⟨child, written, hchild, hcu, hwritten, rfl⟩ := write_under_eq_ok hu h
        intro below anchor hbelow
        rw [get?_put_text] at hbelow
        by_cases hk : key = other
        · subst hk
          rw [if_pos rfl] at hbelow
          cases hbelow
          exact ⟨rfl, ih (hq child none hchild).2 hcu hwritten⟩
        · rw [if_neg hk] at hbelow
          exact hq below anchor hbelow

end Write

/-! ### Writes one after the other -/

theorem obstacleAfter?_cons (entries : Entries) (p : List String) (written : List (List String))
    (path : List String) : entries.obstacleAfter? (p :: written) path =
      if p <+: path then none else entries.obstacleAfter? written path := by
  simp only [obstacleAfter?]
  by_cases h : p <+: path
  · simp [h]
  · simp [h]

theorem obstacleAfter?_congr (entries : Entries) {written written' : List (List String)}
    (h : ∀ p, p ∈ written ↔ p ∈ written') (path : List String) :
    entries.obstacleAfter? written path = entries.obstacleAfter? written' path := by
  simp only [obstacleAfter?, h]

theorem obstacle?_of_firstObstacle? {entries : Entries} {written paths : List (List String)} {f : Fault}
    (h : entries.firstObstacle? written paths = some f) :
    ∃ path ∈ paths, entries.obstacle? path = some f := by
  induction paths generalizing written with
  | nil => cases h
  | cons path rest ih =>
    rw [firstObstacle?, Option.or_eq_some_iff] at h
    rcases h with h | ⟨-, h⟩
    · refine ⟨path, List.mem_cons_self, ?_⟩
      rw [obstacleAfter?] at h
      split at h
      · cases h
      · exact h
    · obtain ⟨p, hp, hf⟩ := ih h
      exact ⟨p, List.mem_cons_of_mem _ hp, hf⟩

theorem firstObstacle?_concat (entries : Entries) (written paths : List (List String))
    (path : List String) : entries.firstObstacle? written (paths ++ [path]) =
      (entries.firstObstacle? written paths).or
        (entries.obstacleAfter? (paths ++ written) path) := by
  induction paths generalizing written with
  | nil => simp [firstObstacle?]
  | cons p rest ih =>
    have hmem : ∀ q, q ∈ rest ++ p :: written ↔ q ∈ p :: rest ++ written := fun q => by
      simp only [List.mem_append, List.mem_cons]
      exact or_left_comm.trans or_assoc.symm
    rw [List.cons_append, firstObstacle?, ih, firstObstacle?, Option.or_assoc,
      entries.obstacleAfter?_congr hmem]

theorem obstacleAfter?_of_mem (entries : Entries) {written : List (List String)} {path : List String}
    (h : path ∈ written) : entries.obstacleAfter? written path = none :=
  if_pos ⟨path, h, List.prefix_rfl⟩

/-- That writes set texts, at the ends of paths that are not empty and meet nothing shared. -/
def Writable (entries : Entries) (writes : List (List String × Value)) : Prop :=
  ∀ w ∈ writes, w.1 ≠ [] ∧ entries.Unshared w.1 ∧ ∃ s, w.2 = .text s

theorem Writable.write {entries r : Entries} {writes : List (List String × Value)} {path : List String}
    {v : Value} (h : entries.Writable ((path, v) :: writes)) (hr : entries.write path v = .ok r) :
    r.Writable writes := by
  obtain ⟨⟨-, hu, s, hs⟩, hrest⟩ := List.forall_mem_cons.1 h
  obtain rfl : v = .text s := hs
  intro w hw
  obtain ⟨hne, hwu, htext⟩ := hrest w hw
  exact ⟨hne, hwu.write hu hr, htext⟩

theorem writeAll_cons_eq_ok {entries r : Entries} {writes : List (List String × Value)}
    {path : List String} {v : Value} (h : entries.writeAll ((path, v) :: writes) = .ok r) :
    ∃ first, entries.write path v = .ok first ∧ first.writeAll writes = .ok r := bind_eq_ok.1 h

theorem obstacle?_writeAll {entries r : Entries} {writes : List (List String × Value)}
    (hw : entries.Writable writes) (h : entries.writeAll writes = .ok r) (q : List String) :
    r.obstacle? q = entries.obstacleAfter? (writes.map (·.1)) q := by
  induction writes generalizing entries with
  | nil =>
    cases h
    simp [obstacleAfter?]
  | cons w writes ih =>
    obtain ⟨path, v⟩ := w
    obtain ⟨⟨hne, hu, s, hs⟩, -⟩ := List.forall_mem_cons.1 hw
    obtain rfl : v = .text s := hs
    obtain ⟨first, hfirst, hrest⟩ := writeAll_cons_eq_ok h
    rw [ih (hw.write hfirst) hrest, List.map_cons, obstacleAfter?_cons]
    simp only [obstacleAfter?, obstacle?_write hu hne hfirst]
    split <;> simp

/-- Writes fail at the first obstacle that is left when its path is to be written. -/
theorem writeAll_eq_error_iff {entries : Entries} {writes : List (List String × Value)}
    (hw : entries.Writable writes) {f : Fault} :
    entries.writeAll writes = .error f ↔ entries.firstObstacle? [] (writes.map (·.1)) = some f := by
  suffices h : ∀ (base : Entries) (written : List (List String)),
      (∀ q, entries.obstacle? q = base.obstacleAfter? written q) →
      (entries.writeAll writes = .error f ↔
        base.firstObstacle? written (writes.map (·.1)) = some f) from
    h entries [] fun q => by simp [obstacleAfter?]
  intro base written hbase
  induction writes generalizing entries written with
  | nil => simp [writeAll, firstObstacle?]
  | cons w writes ih =>
    obtain ⟨path, v⟩ := w
    obtain ⟨⟨hne, hu, s, hs⟩, -⟩ := List.forall_mem_cons.1 hw
    obtain rfl : v = .text s := hs
    rw [writeAll, List.map_cons, firstObstacle?, ← hbase]
    cases hfirst : entries.write path (.text s) with
    | error g => simp [error_bind, write_eq_error_iff_obstacle.1 hfirst]
    | ok first =>
      rw [ok_bind, exists_write_iff.1 ⟨first, hfirst⟩, Option.none_or]
      refine ih (hw.write hfirst) (path :: written) fun q => ?_
      rw [obstacle?_write hu hne hfirst, obstacleAfter?_cons, hbase]

end Entries

end Tripwire
