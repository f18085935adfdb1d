import Tripwire.Config.Layer
import Tripwire.Proofs.Outcome
import Tripwire.Proofs.Value.Tree

/-!
# Laying trees over trees

On trees nothing is shared, so laying one over another never makes news. What is left is a recursion
on the upper tree alone, and the equations `lay_cons`, `layOver_map` and `layOver_of_not_mapping` say
how it goes. Writing at the end of a path is laying the tree that has only this path.
-/

namespace Tripwire

/-! ### The mapping below -/

theorem addByName_isTree {byName r : Entries} {place : Nat} {items : List Value}
    (hb : byName.IsTree) (hi : ∀ v ∈ items, v.IsTree) (h : addByName byName place items = .ok r) :
    r.IsTree := by
  induction items generalizing byName place with
  | nil =>
    rw [addByName, Except.ok.injEq] at h
    exact h ▸ hb
  | cons v rest ih =>
    cases v with
    | map entry anchor =>
      rw [addByName, bind_eq_ok] at h
      obtain ⟨name, -, h⟩ := h
      have hv := hi _ (List.mem_cons_self ..)
      exact ih (hb.put hv _) (fun w hw => hi w (List.mem_cons_of_mem _ hw)) h
    | _ => simp [addByName] at h

theorem clustersByName_isTree {items : List Value} {r : Entries} (hi : ∀ v ∈ items, v.IsTree)
    (h : clustersByName items = .ok r) : r.IsTree :=
  addByName_isTree Entries.isTree_nil hi h

theorem mappingBelow_isTree {key : Value} {current : Option Value} {lower : Entries}
    {anchor : Option Nat} (hc : ∀ c, current = some c → c.IsTree)
    (h : mappingBelow key current = .ok (some (lower, anchor))) : anchor = none ∧ lower.IsTree := by
  cases current with
  | none => simp [mappingBelow] at h
  | some c =>
    have ht := hc c rfl
    cases c with
    | map entries a =>
      simp only [mappingBelow, Except.ok.injEq, Option.some.injEq, Prod.mk.injEq] at h
      obtain ⟨rfl, rfl⟩ := h
      exact Value.isTree_map_iff.1 ht
    | list items =>
      rw [mappingBelow] at h
      cases hk : key.isClustersKey with
      | false => simp [hk] at h
      | true =>
        rw [hk, if_pos rfl, map_eq_ok] at h
        obtain ⟨r, hr, heq⟩ := h
        simp only [Option.some.injEq, Prod.mk.injEq] at heq
        obtain ⟨rfl, rfl⟩ := heq
        exact ⟨rfl, clustersByName_isTree (Value.isTree_list_iff.1 ht) hr⟩
    | _ => simp [mappingBelow] at h

theorem mappingBelow_of_other {key : Value} (hk : key.isClustersKey = false)
    (current : Option Value) :
    mappingBelow key current = .ok (match current with
      | some (.map entries anchor) => some (entries, anchor)
      | _ => none) := by
  cases current with
  | none => rfl
  | some c => cases c <;> simp [mappingBelow, hk]

/-! ### No news -/

theorem layValue_of_not_mapping {key v : Value} {current : Option Value}
    (hv : v.isMapping = false) : layValue [] key current v = .ok (v, []) := by
  cases v <;> first | rfl | simp [Value.isMapping] at hv

/-- That laying a value over a tree makes no news and leaves a tree. -/
def LaysTree (v : Value) : Prop :=
  ∀ key current, (∀ c, current = some c → c.IsTree) →
    ∀ laid news, layValue [] key current v = .ok (laid, news) → news = [] ∧ laid.IsTree

theorem layEntries_isTree {lower upper : Entries} (hl : lower.IsTree)
    (hu : ∀ e ∈ upper, LaysTree e.2) {merged : Entries} {news : News}
    (h : layEntries [] lower upper = .ok (merged, news)) : news = [] ∧ merged.IsTree := by
  induction upper generalizing lower with
  | nil =>
    cases h
    exact ⟨rfl, hl⟩
  | cons e rest ih =>
    obtain ⟨key, v⟩ := e
    obtain ⟨hv, hrest⟩ := List.forall_mem_cons.1 hu
    rw [layEntries, bind_eq_ok] at h
    obtain ⟨⟨laid, n⟩, hlaid, h⟩ := h
    obtain ⟨rfl, ht⟩ := hv _ _ (hl.under key) _ _ hlaid
    exact ih (hl.put ht key) hrest h

theorem laysTree {v : Value} (hv : v.IsTree) : LaysTree v := by
  have other {w : Value} (hw : w.IsTree) (hm : w.isMapping = false) : LaysTree w := by
    intro key current _ laid news h
    rw [layValue_of_not_mapping hm] at h
    cases h
    exact ⟨rfl, hw⟩
  induction hv with
  | @leaf v hlist hmap =>
    have hm : v.isMapping = false := by
      cases v <;> first | rfl | exact absurd rfl hmap
    exact other (.leaf hlist hmap) hm
  | list h => exact other (.list h) rfl
  | @map entries hkeys h ih =>
    intro key current hc laid news hlay
    rw [layValue, bind_eq_ok] at hlay
    obtain ⟨below, hb, hlay⟩ := hlay
    cases below with
    | none =>
      cases hlay
      exact ⟨rfl, .map hkeys h⟩
    | some p =>
      obtain ⟨lower, anchor⟩ := p
      obtain ⟨rfl, hl⟩ := mappingBelow_isTree hc hb
      obtain ⟨⟨merged, n⟩, hm, hlay⟩ := bind_eq_ok.1 hlay
      cases hlay
      obtain ⟨rfl, ht⟩ := layEntries_isTree hl ih hm
      exact ⟨rfl, Value.isTree_map_iff.2 ⟨rfl, ht⟩⟩

/-- What stands under a key once a value is laid over what stood there. -/
def layOver (key : Value) (current : Option Value) (v : Value) : Except Fault Value :=
  (layValue [] key current v).map (·.1)

theorem layValue_of_tree {key v : Value} {current : Option Value}
    (hc : ∀ c, current = some c → c.IsTree) (hv : v.IsTree) :
    layValue [] key current v = (layOver key current v).map fun r => (r, []) := by
  unfold layOver
  rcases h : layValue [] key current v with f | ⟨r, n⟩
  · rfl
  · obtain ⟨rfl, -⟩ := laysTree hv key current hc r n h
    rfl

theorem layEntries_of_tree {lower upper : Entries} (hl : lower.IsTree)
    (hu : ∀ e ∈ upper, e.2.IsTree) :
    layEntries [] lower upper = (lower.lay upper).map fun r => (r, []) := by
  unfold Entries.lay
  rcases h : layEntries [] lower upper with f | ⟨r, n⟩
  · rfl
  · obtain ⟨rfl, -⟩ := layEntries_isTree hl (fun e he => laysTree (hu e he)) h
    rfl

theorem layOver_isTree {key v laid : Value} {current : Option Value}
    (hc : ∀ c, current = some c → c.IsTree) (hv : v.IsTree)
    (h : layOver key current v = .ok laid) : laid.IsTree := by
  obtain ⟨⟨r, n⟩, hr, rfl⟩ := map_eq_ok.1 h
  exact (laysTree hv key current hc r n hr).2

theorem lay_isTree {lower upper merged : Entries} (hl : lower.IsTree) (hu : upper.IsTree)
    (h : lower.lay upper = .ok merged) : merged.IsTree := by
  obtain ⟨⟨r, n⟩, hr, rfl⟩ := map_eq_ok.1 h
  exact (layEntries_isTree hl (fun e he => laysTree (hu.2 e he)) hr).2

/-! ### The equations -/

theorem layOver_of_not_mapping {key v : Value} {current : Option Value}
    (hv : v.isMapping = false) : layOver key current v = .ok v := by
  rw [layOver, layValue_of_not_mapping hv]
  rfl

theorem layOver_map {key : Value} {current : Option Value} {upper : Entries}
    (hc : ∀ c, current = some c → c.IsTree) (hu : upper.IsTree) :
    layOver key current (.map upper none) = mappingBelow key current >>= fun below =>
      match below with
      | some (lower, _) => (lower.lay upper).map fun merged => .map merged none
      | none => .ok (.map upper none) := by
  rw [layOver, layValue]
  rcases hb : mappingBelow key current with f | _ | ⟨lower, anchor⟩
  · rfl
  · rfl
  · obtain ⟨rfl, hl⟩ := mappingBelow_isTree hc hb
    rw [ok_bind, ok_bind]
    dsimp only
    rw [layEntries_of_tree hl hu.2]
    rcases lower.lay upper with f | merged <;> rfl

theorem lay_cons {lower rest : Entries} {key v : Value} (hl : lower.IsTree) (hv : v.IsTree) :
    lower.lay ((key, v) :: rest) =
      layOver key (lower.get? key) v >>= fun laid => (lower.put key laid).lay rest := by
  rw [Entries.lay, layEntries, layValue_of_tree (hl.under key) hv]
  rcases layOver key (lower.get? key) v with f | laid <;> rfl

theorem lay_singleton {lower : Entries} {key v : Value} (hl : lower.IsTree) (hv : v.IsTree) :
    lower.lay [(key, v)] = (layOver key (lower.get? key) v).map (lower.put key) := by
  rw [lay_cons hl hv]
  rcases layOver key (lower.get? key) v with f | laid <;> rfl

theorem layOver_none {key v : Value} (hv : v.IsTree) : layOver key none v = .ok v := by
  cases hm : v.isMapping with
  | false => exact layOver_of_not_mapping hm
  | true =>
    obtain ⟨upper, rfl, hu⟩ := hv.exists_of_isMapping hm
    rw [layOver_map (by simp) hu]
    rfl

theorem lay_of_fresh {lower upper : Entries} (hl : lower.IsTree) (hu : upper.IsTree)
    (hf : ∀ e ∈ upper, lower.get? e.1 = none) : lower.lay upper = .ok (lower ++ upper) := by
  induction upper generalizing lower with
  | nil =>
    rw [List.append_nil]
    rfl
  | cons e rest ih =>
    obtain ⟨k, v⟩ := e
    obtain ⟨hd, hv, hrest⟩ := Entries.isTree_cons.1 hu
    obtain ⟨hk, hf⟩ := List.forall_mem_cons.1 hf
    have hput := Entries.put_of_get?_eq_none (v := v) hk
    rw [lay_cons hl hv, hk, layOver_none hv, ok_bind, ih (hl.put hv k) hrest, hput,
      List.append_assoc]
    · rfl
    · intro e he
      rw [Entries.get?_put, hd e he]
      exact hf e he

theorem nil_lay {upper : Entries} (hu : upper.IsTree) : Entries.lay [] upper = .ok upper :=
  lay_of_fresh Entries.isTree_nil hu (by simp)

/-- The mapping that a value holds, or an empty one in place of anything else. -/
def entriesOf : Option Value → Entries
  | some (.map entries _) => entries
  | _ => []

theorem entriesOf_isTree {current : Option Value} (hc : ∀ c, current = some c → c.IsTree) :
    (entriesOf current).IsTree := by
  cases current with
  | none => exact Entries.isTree_nil
  | some c =>
    have ht := hc c rfl
    cases c with
    | map entries anchor => exact (Value.isTree_map_iff.1 ht).2
    | _ => exact Entries.isTree_nil

theorem layOver_map_of_other {key : Value} {current : Option Value} {upper : Entries}
    (hk : key.isClustersKey = false) (hc : ∀ c, current = some c → c.IsTree) (hu : upper.IsTree) :
    layOver key current (.map upper none) =
      ((entriesOf current).lay upper).map fun merged => .map merged none := by
  rw [layOver_map hc hu, mappingBelow_of_other hk, ok_bind]
  cases current with
  | none =>
    rw [entriesOf, nil_lay hu]
    · rfl
    · simp
  | some c =>
    cases c with
    | map entries anchor => rfl
    | _ => simp [entriesOf, nil_lay hu, Except.map]

/-! ### What stands under a key afterwards -/

theorem get?_lay_of_none {lower upper merged : Entries} {key : Value} (hl : lower.IsTree)
    (hu : upper.IsTree) (h : lower.lay upper = .ok merged) (hk : upper.get? key = none) :
    merged.get? key = lower.get? key := by
  induction upper generalizing lower with
  | nil =>
    cases h
    rfl
  | cons e rest ih =>
    obtain ⟨k, v⟩ := e
    obtain ⟨-, hv, hrest⟩ := Entries.isTree_cons.1 hu
    obtain ⟨hne, hnone⟩ := List.forall_mem_cons.1 (Entries.get?_eq_none.1 hk)
    rw [lay_cons hl hv, bind_eq_ok] at h
    obtain ⟨laid, hlaid, h⟩ := h
    have ht := layOver_isTree (hl.under _) hv hlaid
    rw [ih (hl.put ht k) hrest h (Entries.get?_eq_none.2 hnone), Entries.get?_put, hne]
    rfl

theorem get?_lay_of_some {lower upper merged : Entries} {key v : Value} (hl : lower.IsTree)
    (hu : upper.IsTree) (h : lower.lay upper = .ok merged) (hk : upper.get? key = some v) :
    ∃ k laid, k.sameKey key = true ∧ layOver k (lower.get? key) v = .ok laid ∧
      merged.get? key = some laid := by
  induction upper generalizing lower with
  | nil => simp at hk
  | cons e rest ih =>
    obtain ⟨k, w⟩ := e
    obtain ⟨-, hw, hrest⟩ := Entries.isTree_cons.1 hu
    rw [lay_cons hl hw, bind_eq_ok] at h
    obtain ⟨laid, hlaid, h⟩ := h
    have ht := layOver_isTree (hl.under _) hw hlaid
    rw [Entries.get?_cons] at hk
    cases hs : k.sameKey key with
    | true =>
      simp only [hs, if_true, Option.some.injEq] at hk
      have hnone := hu.1.get?_tail hs
      refine ⟨k, laid, hs, ?_, ?_⟩
      · rw [← Entries.get?_congr hs, ← hk]
        exact hlaid
      · rw [get?_lay_of_none (hl.put ht k) hrest h hnone, Entries.get?_put, hs]
        rfl
    | false =>
      simp only [hs, Bool.false_eq_true, if_false] at hk
      obtain ⟨k', laid', hs', hlaid', hget⟩ := ih (hl.put ht k) hrest h hk
      rw [Entries.get?_put, hs] at hlaid'
      exact ⟨k', laid', hs', hlaid', hget⟩

/-! ### Writing a path -/

/-- The tree with one path, at whose end stands a value. -/
def Entries.branch (v : Value) : List String → Entries
  | [] => []
  | [key] => [(.text key, v)]
  | key :: next :: rest => [(.text key, .map (branch v (next :: rest)) none)]

theorem branch_isTree {v : Value} (hv : v.IsTree) (path : List String) :
    (Entries.branch v path).IsTree := by
  induction path with
  | nil => exact Entries.isTree_nil
  | cons key rest ih =>
    cases rest with
    | nil => exact Entries.isTree_singleton hv
    | cons next rest => exact Entries.isTree_singleton (Value.isTree_map_iff.2 ⟨rfl, ih⟩)

/-- A path is written where laying its tree would merge, and into an empty mapping where laying
would replace. -/
theorem mappingOnPath_eq (key : String) (current : Option Value) :
    mappingOnPath key current =
      (mappingBelow (.text key) current).map fun below => below.getD ([], none) := by
  have hk : (Value.text key).isClustersKey = decide (key = clustersKey) := by
    rw [Value.isClustersKey, Value.sameKey_text, Bool.beq_eq_decide_eq]
  cases current with
  | none => rfl
  | some c =>
    cases c with
    | list items =>
      rw [mappingOnPath, mappingBelow, hk]
      by_cases h : key = clustersKey
      · simp only [h, if_true, decide_true]
        rcases clustersByName items with f | entries <;> rfl
      · simp only [h, if_false, decide_false, Bool.false_eq_true]
        rfl
    | _ => rfl

theorem writeAt_eq_lay {entries : Entries} {v : Value} (he : entries.IsTree) (hv : v.IsTree)
    (hm : v.isMapping = false) (path : List String) :
    writeAt v entries path = (entries.lay (Entries.branch v path)).map fun r => (r, []) := by
  induction path generalizing entries with
  | nil => rfl
  | cons key rest ih =>
    cases rest with
    | nil =>
      rw [writeAt, Entries.branch, lay_singleton he hv, layOver_of_not_mapping hm]
      rfl
    | cons next rest =>
      have hb := branch_isTree hv (next :: rest)
      have hc := he.under (.text key)
      rw [writeAt, Entries.branch, lay_singleton he (Value.isTree_map_iff.2 ⟨rfl, hb⟩),
        layOver_map hc hb, mappingOnPath_eq]
      rcases hbelow : mappingBelow (.text key) (entries.get? (.text key)) with f | _ | ⟨child, a⟩
      · rfl
      · simp only [Except.map, ok_bind, Option.getD_none]
        rw [ih Entries.isTree_nil, nil_lay hb]
        rfl
      · obtain ⟨rfl, ht⟩ := mappingBelow_isTree hc hbelow
        simp only [Except.map, ok_bind, Option.getD_some]
        rw [ih ht]
        rcases child.lay (Entries.branch v (next :: rest)) with f | merged <;> rfl

/-- Writing at the end of a path is laying the tree that has only this path. -/
theorem write_eq_lay {entries : Entries} {v : Value} (he : entries.IsTree) (hv : v.IsTree)
    (hm : v.isMapping = false) (path : List String) :
    entries.write path v = entries.lay (Entries.branch v path) := by
  rw [Entries.write, writeAt_eq_lay he hv hm]
  rcases entries.lay (Entries.branch v path) with f | merged <;> rfl

end Tripwire
