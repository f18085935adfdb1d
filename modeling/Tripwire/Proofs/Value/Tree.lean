import Tripwire.Value.Basic

/-!
# Trees

A tree is a value without anchors in which no mapping has one key twice: what a document without
shared mappings stands for. Looking up keys and setting them keeps to trees.
-/

namespace Tripwire

/-! ### Different keys -/

theorem sameKey_text_iff {name : String} {key : Value} :
    (Value.text name).sameKey key = true ↔ key = .text name := by
  constructor
  · intro h
    obtain ⟨k, hname, hkey⟩ := Value.sameKey_iff.1 h
    cases hname
    cases key <;> simp_all [Value.key?, Value.number?]
  · rintro rfl
    simp

/-- A recursion through a list that makes one thing of each item maps the list. -/
theorem eq_map_of_cons {α β : Type} {f : α → β} {g : List α → List β} (hnil : g [] = [])
    (hcons : ∀ a rest, g (a :: rest) = f a :: g rest) (items : List α) : g items = items.map f := by
  induction items with
  | nil => exact hnil
  | cons a rest ih => rw [hcons, ih, List.map_cons]

namespace Entries

/-- No key occurs twice. -/
def Distinct (entries : Entries) : Prop :=
  entries.Pairwise fun a b => a.1.sameKey b.1 = false

theorem distinct_nil : Distinct [] := List.Pairwise.nil

theorem distinct_cons {k v : Value} {rest : Entries} :
    Distinct ((k, v) :: rest) ↔ (∀ e ∈ rest, k.sameKey e.1 = false) ∧ Distinct rest :=
  List.pairwise_cons

theorem get?_congr {a b : Value} (h : a.sameKey b = true) (entries : Entries) :
    entries.get? a = entries.get? b := by
  induction entries with
  | nil => rfl
  | cons e rest ih =>
    obtain ⟨k, v⟩ := e
    have hk : k.sameKey a = k.sameKey b := by
      rw [Value.sameKey_comm k a, Value.sameKey_comm k b]
      exact Value.sameKey_congr h k
    rw [get?_cons, get?_cons, hk, ih]

/-- Other values under the same keys. -/
theorem get?_map (f : Value → Value) (entries : Entries) (key : Value) :
    Entries.get? (entries.map fun e => (e.1, f e.2)) key = (entries.get? key).map f := by
  induction entries with
  | nil => rfl
  | cons e rest ih =>
    obtain ⟨k, v⟩ := e
    rw [List.map_cons, get?_cons, get?_cons, ih]
    cases k.sameKey key <;> rfl

theorem map_fst_map (f : Value → Value) (entries : Entries) :
    (entries.map fun e => (e.1, f e.2)).map (·.1) = entries.map (·.1) := by
  rw [List.map_map]
  rfl

theorem get?_eq_none {entries : Entries} {key : Value} :
    entries.get? key = none ↔ ∀ e ∈ entries, e.1.sameKey key = false := by
  induction entries with
  | nil => simp
  | cons e rest ih =>
    obtain ⟨k, v⟩ := e
    rw [get?_cons, List.forall_mem_cons, ← ih]
    cases k.sameKey key <;> simp

theorem mem_of_get? {entries : Entries} {key v : Value} (h : entries.get? key = some v) :
    ∃ k, k.sameKey key = true ∧ (k, v) ∈ entries := by
  induction entries with
  | nil => simp at h
  | cons e rest ih =>
    obtain ⟨k, old⟩ := e
    rw [get?_cons] at h
    cases hk : k.sameKey key with
    | true =>
      simp only [hk, if_true, Option.some.injEq] at h
      exact ⟨k, hk, h ▸ List.mem_cons_self ..⟩
    | false =>
      simp only [hk, Bool.false_eq_true, if_false] at h
      obtain ⟨k', hk', hm⟩ := ih h
      exact ⟨k', hk', List.mem_cons_of_mem _ hm⟩

theorem Distinct.get?_tail {k v : Value} {rest : Entries} {key : Value}
    (h : Distinct ((k, v) :: rest)) (hk : k.sameKey key = true) : rest.get? key = none := by
  refine get?_eq_none.2 fun e he => ?_
  have hd := (distinct_cons.1 h).1 e he
  rw [Value.sameKey_congr hk, Value.sameKey_comm] at hd
  exact hd

theorem mem_put {entries : Entries} {key v : Value} {e : Value × Value}
    (h : e ∈ entries.put key v) : e ∈ entries ∨ (e.2 = v ∧ (e.1 = key ∨ e.1 ∈ entries.keys)) := by
  induction entries with
  | nil =>
    simp only [put, List.mem_singleton] at h
    exact Or.inr ⟨by rw [h], Or.inl (by rw [h])⟩
  | cons d rest ih =>
    obtain ⟨k, old⟩ := d
    cases hk : k.sameKey key with
    | true =>
      simp only [put, hk, if_true, List.mem_cons] at h
      rcases h with rfl | h
      · exact Or.inr ⟨rfl, Or.inr (by simp [keys])⟩
      · exact Or.inl (List.mem_cons_of_mem _ h)
    | false =>
      simp only [put, hk, Bool.false_eq_true, if_false, List.mem_cons] at h
      rcases h with rfl | h
      · exact Or.inl (List.mem_cons_self ..)
      · rcases ih h with h | ⟨hv, hkey⟩
        · exact Or.inl (List.mem_cons_of_mem _ h)
        · refine Or.inr ⟨hv, hkey.imp id fun hm => ?_⟩
          exact List.mem_cons_of_mem _ hm

theorem Distinct.put {entries : Entries} (h : entries.Distinct) (key v : Value) :
    (entries.put key v).Distinct := by
  induction entries with
  | nil => simp [Entries.put, Distinct]
  | cons e rest ih =>
    obtain ⟨k, old⟩ := e
    obtain ⟨hd, hrest⟩ := distinct_cons.1 h
    cases hk : k.sameKey key with
    | true =>
      simp only [Entries.put, hk, if_true]
      exact distinct_cons.2 ⟨hd, hrest⟩
    | false =>
      simp only [Entries.put, hk, Bool.false_eq_true, if_false]
      refine distinct_cons.2 ⟨fun e he => ?_, ih hrest⟩
      rcases mem_put he with he | ⟨-, hkey | hkey⟩
      · exact hd e he
      · rw [hkey]
        exact hk
      · obtain ⟨e', he', heq⟩ := List.mem_map.1 hkey
        rw [← heq]
        exact hd e' he'

theorem put_of_get?_eq_none {entries : Entries} {key v : Value} (h : entries.get? key = none) :
    entries.put key v = entries ++ [(key, v)] := by
  induction entries with
  | nil => rfl
  | cons e rest ih =>
    obtain ⟨k, old⟩ := e
    obtain ⟨hk, hrest⟩ := List.forall_mem_cons.1 (get?_eq_none.1 h)
    simp only [put, hk, Bool.false_eq_true, if_false, List.cons_append]
    rw [ih (get?_eq_none.2 hrest)]

theorem put_of_get? {entries : Entries} {key v : Value} (h : entries.get? key = some v) :
    entries.put key v = entries := by
  induction entries with
  | nil => cases h
  | cons e rest ih =>
    obtain ⟨k, old⟩ := e
    rw [get?_cons] at h
    cases hk : k.sameKey key with
    | true =>
      rw [hk, if_pos rfl, Option.some.injEq] at h
      rw [put, if_pos hk, h]
    | false =>
      rw [hk, if_neg (by simp)] at h
      rw [put, if_neg (by simp [hk]), ih h]

theorem Distinct.head_other {k k' v v' key : Value} {rest : Entries}
    (hd : Distinct ((k', v') :: rest)) (hmem : (k, v) ∈ rest) (hk : k.sameKey key = true) :
    k'.sameKey key = false := by
  rw [Value.sameKey_comm, ← Value.sameKey_congr hk, Value.sameKey_comm]
  exact (distinct_cons.1 hd).1 _ hmem

theorem put_of_getElem? {entries : Entries} {key k old v : Value} {i : Nat} (hd : entries.Distinct)
    (hi : entries[i]? = some (k, old)) (hk : k.sameKey key = true) :
    entries.put key v = entries.set i (k, v) := by
  induction entries generalizing i with
  | nil => simp at hi
  | cons e rest ih =>
    obtain ⟨k', old'⟩ := e
    cases i with
    | zero =>
      obtain ⟨rfl, rfl⟩ := Prod.mk.inj (Option.some.inj hi)
      simp [put, hk]
    | succ i =>
      have hother := hd.head_other (List.mem_of_getElem? hi) hk
      simp only [put, hother, Bool.false_eq_true, if_false, List.set_cons_succ]
      rw [ih (distinct_cons.1 hd).2 hi]

theorem get?_of_getElem? {entries : Entries} {key k v : Value} {i : Nat} (hd : entries.Distinct)
    (hi : entries[i]? = some (k, v)) (hk : k.sameKey key = true) : entries.get? key = some v := by
  induction entries generalizing i with
  | nil => simp at hi
  | cons e rest ih =>
    obtain ⟨k', old⟩ := e
    rw [get?_cons]
    cases i with
    | zero =>
      obtain ⟨rfl, rfl⟩ := Prod.mk.inj (Option.some.inj hi)
      simp [hk]
    | succ i =>
      have hother := hd.head_other (List.mem_of_getElem? hi) hk
      simp only [hother, Bool.false_eq_true, if_false]
      exact ih (distinct_cons.1 hd).2 hi

theorem get?_of_mem {entries : Entries} (hd : entries.Distinct) {k v : Value}
    (hmem : (k, v) ∈ entries) (hk : k.key?.isSome = true) : entries.get? k = some v := by
  obtain ⟨i, hi⟩ := List.getElem?_of_mem hmem
  obtain ⟨x, hx⟩ := Option.isSome_iff_exists.1 hk
  exact get?_of_getElem? hd hi (Value.sameKey_iff.2 ⟨x, hx, hx⟩)

theorem get?_foldl_put (pairs base : Entries) (h : pairs.Distinct) (key : Value) :
    (pairs.foldl (fun es p => put es p.1 p.2) base).get? key =
      (pairs.get? key).or (base.get? key) := by
  induction pairs generalizing base with
  | nil => simp
  | cons e rest ih =>
    obtain ⟨k, v⟩ := e
    rw [List.foldl_cons, ih _ (distinct_cons.1 h).2, get?_put, get?_cons]
    cases hk : k.sameKey key with
    | true => simp [h.get?_tail hk]
    | false => simp

end Entries

/-! ### Trees -/

namespace Value

def isMapping : Value → Bool
  | map _ _ => true
  | _ => false

def text? : Value → Option String
  | text s => some s
  | _ => none

theorem text?_eq_some_iff {v : Value} {s : String} : v.text? = some s ↔ v = text s := by
  cases v <;> simp [text?]

/-- Values without anchors in which every mapping has different keys. -/
inductive IsTree : Value → Prop
  | leaf {v : Value} (hlist : v.kind ≠ .list) (hmap : v.kind ≠ .map) : IsTree v
  | list {items : List Value} (h : ∀ v ∈ items, IsTree v) : IsTree (.list items)
  | map {entries : List (Value × Value)} (hkeys : Entries.Distinct entries)
      (h : ∀ e ∈ entries, IsTree e.2) : IsTree (.map entries none)

end Value

namespace Entries

/-- Entries that make up a tree. -/
def IsTree (entries : Entries) : Prop := entries.Distinct ∧ ∀ e ∈ entries, e.2.IsTree

end Entries

namespace Value

theorem isTree_text (s : String) : (text s).IsTree := .leaf (by simp [kind]) (by simp [kind])

theorem isTree_list_iff {items : List Value} : (list items).IsTree ↔ ∀ v ∈ items, v.IsTree := by
  constructor
  · intro h
    cases h with
    | leaf hlist _ => exact absurd rfl hlist
    | list h => exact h
  · exact .list

theorem isTree_map_iff {entries : Entries} {anchor : Option Nat} :
    (map entries anchor).IsTree ↔ anchor = none ∧ Entries.IsTree entries := by
  constructor
  · intro h
    cases h with
    | leaf _ hmap => exact absurd rfl hmap
    | map hkeys h => exact ⟨rfl, hkeys, h⟩
  · rintro ⟨rfl, hkeys, h⟩
    exact .map hkeys h

end Value

theorem Value.exists_of_isMapping {v : Value} (h : v.isMapping = true) :
    ∃ entries anchor, v = .map entries anchor := by
  cases v with
  | map entries anchor => exact ⟨entries, anchor, rfl⟩
  | _ => simp [isMapping] at h

theorem Value.IsTree.exists_of_isMapping {v : Value} (ht : v.IsTree) (h : v.isMapping = true) :
    ∃ entries, v = .map entries none ∧ Entries.IsTree entries := by
  obtain ⟨entries, anchor, rfl⟩ := Value.exists_of_isMapping h
  obtain ⟨rfl, he⟩ := Value.isTree_map_iff.1 ht
  exact ⟨entries, rfl, he⟩

namespace Entries

theorem isTree_nil : IsTree [] := ⟨distinct_nil, by simp⟩

theorem isTree_cons {k v : Value} {rest : Entries} :
    IsTree ((k, v) :: rest) ↔
      (∀ e ∈ rest, k.sameKey e.1 = false) ∧ v.IsTree ∧ IsTree rest := by
  simp only [IsTree, distinct_cons, List.forall_mem_cons]
  constructor
  · rintro ⟨⟨hk, hd⟩, hv, hrest⟩
    exact ⟨hk, hv, hd, hrest⟩
  · rintro ⟨hk, hv, hd, hrest⟩
    exact ⟨⟨hk, hd⟩, hv, hrest⟩

theorem isTree_singleton {k v : Value} (h : v.IsTree) : IsTree [(k, v)] :=
  isTree_cons.2 ⟨by simp, h, isTree_nil⟩

theorem IsTree.get? {entries : Entries} (h : entries.IsTree) {key v : Value}
    (hv : entries.get? key = some v) : v.IsTree := by
  obtain ⟨k, -, hm⟩ := mem_of_get? hv
  exact h.2 _ hm

theorem IsTree.under {entries : Entries} (h : entries.IsTree) (key : Value) :
    ∀ v, entries.get? key = some v → v.IsTree := fun _ hv => h.get? hv

theorem IsTree.put {entries : Entries} (h : entries.IsTree) {v : Value} (hv : v.IsTree)
    (key : Value) : (entries.put key v).IsTree := by
  refine ⟨h.1.put key v, fun e he => ?_⟩
  rcases mem_put he with he | ⟨heq, -⟩
  · exact h.2 e he
  · rw [heq]
    exact hv

end Entries

end Tripwire
