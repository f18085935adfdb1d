import Tripwire.Proofs.Config.InForce

/-!
# Mappings grown from texts

Texts that are written to an empty mapping, at paths of which none is a part of another, grow a mapping
that holds them in some order. It is laid over data as if its texts were written there in this order, if
no path leads through a shared mapping.
-/

namespace Tripwire

/-- That a mapping is grown from texts: it holds what writes set, in the order of the writes. -/
inductive Grown : Entries → List (List String × Value) → Prop where
  | nil : Grown [] []
  | text {key s : String} {rest : Entries} {writes : List (List String × Value)}
      (tail : Grown rest writes) : Grown ((.text key, .text s) :: rest) (([key], .text s) :: writes)
  | map {key : String} {child rest : Entries} {below writes : List (List String × Value)}
      (inner : Grown child below) (filled : below ≠ []) (tail : Grown rest writes) :
      Grown ((.text key, .map child none) :: rest) (below.map (fun w => (key :: w.1, w.2)) ++ writes)

/-- What writes set under a key. -/
inductive GrownAt (key : String) : Value → List (List String × Value) → Prop where
  | text (s : String) : GrownAt key (.text s) [([key], .text s)]
  | map {child : Entries} {below : List (List String × Value)} (inner : Grown child below)
      (filled : below ≠ []) : GrownAt key (.map child none) (below.map fun w => (key :: w.1, w.2))

namespace Grown

variable {entries rest : Entries} {writes more : List (List String × Value)}

theorem cons {key : String} {v : Value} {row : List (List String × Value)} (h : GrownAt key v row)
    (tail : Grown rest writes) : Grown ((.text key, v) :: rest) (row ++ writes) := by
  cases h with
  | text s => exact .text tail
  | map inner filled => exact .map inner filled tail

theorem append (h : Grown entries writes) (h' : Grown rest more) :
    Grown (entries ++ rest) (writes ++ more) := by
  induction h with
  | nil => exact h'
  | text tail ih => exact .text ih
  | map inner filled tail _ ih =>
    rw [List.append_assoc]
    exact .map inner filled ih

theorem concat {key : String} {v : Value} {row : List (List String × Value)}
    (h : Grown entries writes) (hrow : GrownAt key v row) :
    Grown (entries ++ [(.text key, v)]) (writes ++ row) := by
  have hlast := h.append (cons hrow .nil)
  rwa [List.append_nil] at hlast

@[elab_as_elim]
theorem rowInduction
    {motive : (entries : Entries) → (writes : List (List String × Value)) → Grown entries writes → Prop}
    (nil : motive [] [] .nil)
    (cons : ∀ {key : String} {v : Value} {rest : Entries} {row writes : List (List String × Value)}
      (own : GrownAt key v row) (tail : Grown rest writes), motive rest writes tail →
        motive ((.text key, v) :: rest) (row ++ writes) (.cons own tail))
    (h : Grown entries writes) : motive entries writes h := by
  induction h with
  | nil => exact nil
  | text tail ih => exact cons (.text _) tail ih
  | map inner filled tail _ ih => exact cons (.map inner filled) tail ih

/-- What stands under a key is what some writes in a row set, and can be replaced by what others set. -/
theorem exists_row (h : Grown entries writes) {key : String} {v : Value}
    (hv : entries.get? (.text key) = some v) :
    ∃ front row back, writes = front ++ row ++ back ∧ GrownAt key v row ∧
      ∀ v' row', GrownAt key v' row' →
        Grown (entries.put (.text key) v') (front ++ row' ++ back) := by
  induction h using rowInduction with
  | nil => cases hv
  | @cons k w rest own writes hown tail ih =>
    rw [Entries.get?_cons, Value.sameKey_text] at hv
    cases hk : k == key with
    | true =>
      obtain rfl := beq_iff_eq.1 hk
      rw [if_pos hk] at hv
      cases hv
      refine ⟨[], own, writes, rfl, hown, fun v' row' hrow => ?_⟩
      rw [Entries.put, Value.sameKey_text, if_pos hk]
      exact cons hrow tail
    | false =>
      rw [if_neg (Bool.not_eq_true _ ▸ hk)] at hv
      obtain ⟨front, row, back, rfl, hrow, hput⟩ := ih hv
      refine ⟨own ++ front, row, back, by simp, hrow, fun v' row' hrow' => ?_⟩
      rw [Entries.put, Value.sameKey_text, if_neg (Bool.not_eq_true _ ▸ hk), List.append_assoc,
        List.append_assoc, ← List.append_assoc front]
      exact cons hown (hput v' row' hrow')

end Grown

theorem GrownAt.exists_mem {key : String} {v : Value} {row : List (List String × Value)}
    (h : GrownAt key v row) : ∃ w ∈ row, [key] <+: w.1 := by
  cases h with
  | text s => exact ⟨_, List.mem_singleton_self _, List.prefix_rfl⟩
  | map inner filled =>
    obtain ⟨w, rest, rfl⟩ := List.exists_cons_of_ne_nil filled
    exact ⟨_, List.mem_cons_self, by simp⟩

/-- A text that is written beside those that are there is one of the texts from then on. -/
theorem Grown.write {entries r : Entries} {writes : List (List String × Value)} {path : List String}
    {s : String} (h : Grown entries writes) (ht : entries.IsTree) (hp : path ≠ [])
    (hapart : ∀ w ∈ writes, ¬Comparable w.1 path) (hr : entries.write path (.text s) = .ok r) :
    ∃ after, Grown r after ∧ after.Perm ((path, .text s) :: writes) := by
  induction path generalizing entries writes r with
  | nil => exact absurd rfl hp
  | cons key rest ih =>
    cases rest with
    | nil =>
      cases hr
      cases hget : entries.get? (.text key) with
      | none =>
        rw [Entries.put_of_get?_eq_none hget]
        exact ⟨_, h.concat (.text s), List.perm_append_singleton _ _⟩
      | some v =>
        obtain ⟨front, row, back, rfl, hrow, -⟩ := h.exists_row hget
        obtain ⟨w, hw, hkey⟩ := hrow.exists_mem
        exact absurd (.inr hkey) (hapart w (by simp [hw]))
    | cons next rest =>
      obtain ⟨child, made, hchild, -, hmade, rfl⟩ := Entries.write_under_eq_ok (ht.unshared _) hr
      obtain ⟨-, hct⟩ := mappingOnPath_isTree (ht.under _) hchild
      cases hget : entries.get? (.text key) with
      | none =>
        rw [hget] at hchild
        cases hchild
        obtain ⟨after, hafter, hperm⟩ := ih .nil hct (by simp) (by simp) hmade
        obtain rfl := List.perm_singleton.1 hperm
        rw [Entries.put_of_get?_eq_none hget]
        exact ⟨_, h.concat (.map hafter (by simp)), List.perm_append_singleton _ _⟩
      | some v =>
        obtain ⟨front, row, back, rfl, hrow, hput⟩ := h.exists_row hget
        cases hrow with
        | text t => exact absurd (.inl (by simp)) (hapart ([key], .text t) (by simp))
        | @map c below inner filled =>
          rw [hget] at hchild
          cases hchild
          have hbelow : ∀ w ∈ below, ¬Comparable w.1 (next :: rest) := fun w hw hc => by
            have hmem : (key :: w.1, w.2) ∈ below.map fun w => (key :: w.1, w.2) :=
              List.mem_map_of_mem hw
            refine hapart _ (List.mem_append_left _ (List.mem_append_right _ hmem)) ?_
            exact comparable_cons.2 hc
          obtain ⟨after, hafter, hperm⟩ := ih inner hct (by simp) hbelow hmade
          have hfilled : after ≠ [] := fun hnil => by simp [hnil] at hperm
          refine ⟨_, hput _ _ (.map hafter hfilled), ?_⟩
          have hrow := ((hperm.map fun w => (key :: w.1, w.2)).append_left front).append_right back
          rw [List.map_cons, List.append_assoc front (_ :: _), List.cons_append] at hrow
          rw [List.append_assoc front (below.map _)]
          exact hrow.trans List.perm_middle

/-! ### Laying what is grown -/

namespace Entries

theorem put_put (entries : Entries) (key : String) (v w : Value) :
    (entries.put (.text key) v).put (.text key) w = entries.put (.text key) w := by
  induction entries with
  | nil => simp [put]
  | cons e rest ih =>
    obtain ⟨k, old⟩ := e
    cases hk : k.sameKey (.text key) with
    | true => simp [put, hk]
    | false => simp [put, hk, ih]

theorem Writable.mappingOnPath {entries child : Entries} {key : String} {anchor : Option Nat}
    {below : List (List String × Value)}
    (hw : entries.Writable (below.map fun w => (key :: w.1, w.2))) (hpaths : ∀ w ∈ below, w.1 ≠ [])
    (h : mappingOnPath key (entries.get? (.text key)) = .ok (child, anchor)) :
    (below ≠ [] → anchor = none) ∧ child.Writable below := by
  have hu (w : List String × Value) (hmem : w ∈ below) : anchor = none ∧ child.Unshared w.1 := by
    obtain ⟨next, rest, hpath⟩ := List.exists_cons_of_ne_nil (hpaths w hmem)
    have hshared := (hw _ (List.mem_map_of_mem hmem)).2.1
    rw [hpath] at hshared ⊢
    exact hshared child anchor h
  refine ⟨fun hne => ?_, fun w hmem => ?_⟩
  · obtain ⟨w, rest, rfl⟩ := List.exists_cons_of_ne_nil hne
    exact (hu w List.mem_cons_self).1
  · exact ⟨hpaths w hmem, (hu w hmem).2, (hw _ (List.mem_map_of_mem hmem)).2.2⟩

theorem writeAll_under {entries : Entries} {key : String} {below : List (List String × Value)}
    (hw : entries.Writable (below.map fun w => (key :: w.1, w.2))) (hpaths : ∀ w ∈ below, w.1 ≠ [])
    (hne : below ≠ []) :
    entries.writeAll (below.map fun w => (key :: w.1, w.2)) =
      mappingOnPath key (entries.get? (.text key)) >>= fun found =>
        (found.1.writeAll below).map fun made => entries.put (.text key) (.map made none) := by
  induction below generalizing entries with
  | nil => exact absurd rfl hne
  | cons w below ih =>
    obtain ⟨path, v⟩ := w
    obtain ⟨hpath, hrest⟩ := List.forall_mem_cons.1 hpaths
    obtain ⟨next, rest, rfl⟩ := List.exists_cons_of_ne_nil hpath
    rw [List.map_cons] at hw ⊢
    have hu := (hw _ List.mem_cons_self).2.1
    have hwrite := write_under hu v
    rw [writeAll]
    cases hfound : mappingOnPath key (entries.get? (.text key)) with
    | error f =>
      rw [hfound, error_bind] at hwrite
      rw [hwrite]
      rfl
    | ok found =>
      rw [hfound, ok_bind] at hwrite
      rw [hwrite, ok_bind, writeAll]
      cases hmade : found.1.write (next :: rest) v with
      | error f => rfl
      | ok made =>
        rw [hmade] at hwrite
        simp only [Except.map, ok_bind]
        cases below with
        | nil => rfl
        | cons w below =>
          rw [ih (hw.write hwrite) hrest (by simp), get?_put_text, if_pos rfl, mappingOnPath_map,
            ok_bind]
          simp only [put_put]
          rfl

end Entries

namespace Grown

variable {upper : Entries} {writes : List (List String × Value)}

theorem path_ne_nil (h : Grown upper writes) : ∀ w ∈ writes, w.1 ≠ [] := by
  induction h using rowInduction with
  | nil => simp
  | cons own tail ih =>
    refine List.forall_mem_append.2 ⟨?_, ih⟩
    cases own with
    | text s => simp
    | map inner filled =>
      intro w hw
      obtain ⟨below, -, rfl⟩ := List.mem_map.1 hw
      exact List.cons_ne_nil _ _

/-- What stands under a key becomes what the writes below it make of it. -/
theorem layValue_eq {child lower : Entries} {key : String} {below : List (List String × Value)}
    (inner : Grown child below) (filled : below ≠ []) (ht : child.IsTree)
    (hw : lower.Writable (below.map fun w => (key :: w.1, w.2)))
    (hlay : ∀ l : Entries, l.Writable below →
      layEntries [] l child = (l.writeAll below).map fun r => (r, [])) :
    layValue [] (.text key) (lower.get? (.text key)) (.map child none) =
      mappingOnPath key (lower.get? (.text key)) >>= fun found =>
        (found.1.writeAll below).map fun made => (.map made none, []) := by
  have hfound := mappingOnPath_eq key (lower.get? (.text key))
  rw [layValue, hfound]
  rcases hbelow : mappingBelow (.text key) (lower.get? (.text key)) with f | _ | ⟨l, anchor⟩
  · rfl
  · -- Nothing to merge with: the mapping is put as it is, and writes make it anew.
    rw [hbelow] at hfound
    have hempty := (hw.mappingOnPath inner.path_ne_nil hfound).2
    have hmade : Entries.lay [] child = Entries.writeAll [] below := by
      rw [Entries.lay, hlay [] hempty]
      cases Entries.writeAll [] below <;> rfl
    rw [nil_lay ht] at hmade
    simp only [Except.map, ok_bind, Option.getD_none, ← hmade]
    rfl
  · rw [hbelow] at hfound
    obtain ⟨hanchor, hlw⟩ := hw.mappingOnPath inner.path_ne_nil hfound
    obtain rfl := hanchor filled
    simp only [Except.map, ok_bind, Option.getD_some]
    rw [hlay l hlw]
    cases l.writeAll below <;> rfl

theorem layEntries_eq (h : Grown upper writes) (ht : upper.IsTree) {lower : Entries}
    (hw : lower.Writable writes) :
    layEntries [] lower upper = (lower.writeAll writes).map fun r => (r, []) := by
  -- The induction is on what is grown, for whatever it is laid over: entry by entry, and inwards.
  induction h generalizing lower with
  | nil => rfl
  | @text key s rest writes tail ih =>
    obtain ⟨-, -, hrest⟩ := Entries.isTree_cons.1 ht
    have hput : Entries.write lower [key] (.text s) = .ok (lower.put (.text key) (.text s)) := rfl
    rw [Entries.writeAll, hput, ok_bind, ← ih hrest (hw.write hput)]
    rfl
  | @map key child rest below writes inner filled tail ihin ih =>
    obtain ⟨-, hchild, hrest⟩ := Entries.isTree_cons.1 ht
    obtain ⟨-, hct⟩ := Value.isTree_map_iff.1 hchild
    have hfront : lower.Writable (below.map fun w => (key :: w.1, w.2)) := fun w hmem =>
      hw w (List.mem_append_left _ hmem)
    have hlaid := layValue_eq inner filled hct hfront fun _ hl => ihin hct hl
    have hunder := Entries.writeAll_under hfront inner.path_ne_nil filled
    rw [layEntries, hlaid, writeAll_append, hunder]
    cases hfound : mappingOnPath key (lower.get? (.text key)) with
    | error f => rfl
    | ok found =>
      rw [hfound, ok_bind] at hunder
      rw [ok_bind, ok_bind]
      cases hmade : found.1.writeAll below with
      | error f => rfl
      | ok made =>
        rw [hmade] at hunder
        exact ih hrest (hw.writeAll hunder)

theorem lay_eq (h : Grown upper writes) (ht : upper.IsTree) {lower : Entries}
    (hw : lower.Writable writes) : lower.lay upper = lower.writeAll writes := by
  rw [Entries.lay, h.layEntries_eq ht hw]
  cases lower.writeAll writes <;> rfl

end Grown

/-! ### Growing a mapping -/

theorem Entries.IsTree.write {entries r : Entries} {path : List String} {s : String}
    (h : entries.IsTree) (hr : entries.write path (.text s) = .ok r) : r.IsTree := by
  rw [write_eq_lay h (Value.isTree_text s) rfl] at hr
  exact lay_isTree h (branch_isTree (Value.isTree_text s) path) hr

/-- That no write is made at a part of another's path. -/
def Incomparable (writes : List (List String × Value)) : Prop :=
  writes.Pairwise fun w w' => ¬Comparable w.1 w'.1

/-- Writes apart from each other grow a mapping that holds what they set. -/
theorem exists_grown {writes : List (List String × Value)} (hw : Entries.Writable [] writes)
    (hapart : Incomparable writes) : ∃ grown after, Entries.writeAll [] writes = .ok grown ∧ grown.IsTree ∧
      Grown grown after ∧ after.Perm writes := by
  induction writes using List.reverseRecOn with
  | nil => exact ⟨[], [], rfl, Entries.isTree_nil, .nil, .refl _⟩
  | append_singleton writes w ih =>
    obtain ⟨hfront, -, hlast⟩ := List.pairwise_append.1 hapart
    obtain ⟨path, v⟩ := w
    obtain ⟨hp, -, s, hs⟩ := hw (path, v) (by simp)
    obtain rfl : v = .text s := hs
    have hwf : Entries.Writable [] writes := fun w hmem => hw w (List.mem_append_left _ hmem)
    obtain ⟨grown, after, hgrown, ht, hafter, hperm⟩ := ih hwf hfront
    have hfree : grown.obstacle? path = none := by
      rw [Entries.obstacle?_writeAll hwf hgrown, Entries.obstacleAfter?, Entries.obstacle?_nil,
        ite_self]
    obtain ⟨r, hr⟩ := (Entries.exists_write_iff (v := .text s)).2 hfree
    have hbeside : ∀ w ∈ after, ¬Comparable w.1 path := fun w hmem =>
      hlast w (hperm.mem_iff.1 hmem) _ (List.mem_singleton_self _)
    obtain ⟨more, hmore, hperm'⟩ := hafter.write ht hp hbeside hr
    refine ⟨r, more, ?_, ht.write hr, hmore, ?_⟩
    · rw [writeAll_append, hgrown, ok_bind, Entries.writeAll, hr]
      rfl
    · exact hperm'.trans ((hperm.cons _).trans (List.perm_append_singleton _ _).symm)

end Tripwire
