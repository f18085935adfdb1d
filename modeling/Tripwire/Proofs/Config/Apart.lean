import Tripwire.Proofs.Config.Precedence

/-!
# Apart from the clusters

What is laid under other keys than that of the clusters neither reads nor changes the clusters, and
what is laid under theirs neither reads nor changes the rest. So the entries apart from the clusters
can be followed on their own.
-/

namespace Tripwire

theorem isClustersKey_iff {key : Value} : key.isClustersKey = true ↔ key = .text clustersKey := by
  rw [Value.isClustersKey, Value.sameKey_comm, sameKey_text_iff]

theorem isClustersKey_clustersKey : (Value.text clustersKey).isClustersKey = true :=
  isClustersKey_iff.2 rfl

theorem isClustersKey_text_of_ne {key : String} (h : key ≠ clustersKey) :
    (Value.text key).isClustersKey = false := by
  simp [Value.isClustersKey, h]

namespace Entries

theorem get?_cons_clusters {k : Value} (h : k.isClustersKey = true) (v : Value) (rest : Entries) :
    get? ((k, v) :: rest) (.text clustersKey) = some v := by
  rw [get?_cons, ← Value.isClustersKey, h]
  rfl

theorem get?_cons_other {k : Value} (h : k.isClustersKey = false) (v : Value) (rest : Entries) :
    get? ((k, v) :: rest) (.text clustersKey) = rest.get? (.text clustersKey) := by
  rw [get?_cons, ← Value.isClustersKey, h]
  rfl

theorem get?_put_clusters (entries : Entries) (v : Value) :
    (entries.put (.text clustersKey) v).get? (.text clustersKey) = some v := by
  rw [get?_put, ← Value.isClustersKey, isClustersKey_clustersKey]
  rfl

theorem get?_put_other {key : Value} (h : key.isClustersKey = false) (entries : Entries)
    (v : Value) : (entries.put key v).get? (.text clustersKey) = entries.get? (.text clustersKey) := by
  rw [get?_put, ← Value.isClustersKey, h]
  rfl

def others (entries : Entries) : Entries := entries.filter fun e => !e.1.isClustersKey

theorem others_cons_of_other {k : Value} (h : k.isClustersKey = false) (v : Value)
    (rest : Entries) : others ((k, v) :: rest) = (k, v) :: others rest := by
  simp [others, h]

theorem others_cons_of_clusters {k : Value} (h : k.isClustersKey = true) (v : Value)
    (rest : Entries) : others ((k, v) :: rest) = others rest := by
  simp [others, h]

theorem get?_others {key : Value} (h : key.isClustersKey = false) (entries : Entries) :
    entries.others.get? key = entries.get? key := by
  induction entries with
  | nil => rfl
  | cons e rest ih =>
    obtain ⟨k, v⟩ := e
    cases hk : k.isClustersKey with
    | false => rw [others_cons_of_other hk, get?_cons, get?_cons, ih]
    | true =>
      have hne : k.sameKey key = false := by
        rw [Bool.eq_false_iff]
        intro hs
        rw [isClustersKey_congr hs, h] at hk
        cases hk
      rw [others_cons_of_clusters hk, get?_cons, hne, ih]
      rfl

/-- Setting one key and leaving the clusters out: the first entry that has the key is the same in both. -/
theorem others_put (entries : Entries) (key v : Value) :
    (entries.put key v).others =
      if key.isClustersKey then entries.others else entries.others.put key v := by
  induction entries with
  | nil =>
    cases h : key.isClustersKey with
    | false => exact others_cons_of_other h v []
    | true => exact others_cons_of_clusters h v []
  | cons e rest ih =>
    obtain ⟨k, old⟩ := e
    rw [put]
    cases hs : k.sameKey key with
    | true =>
      rw [if_pos rfl, ← isClustersKey_congr hs]
      cases hk : k.isClustersKey with
      | false =>
        rw [others_cons_of_other hk, others_cons_of_other hk, put, hs, if_pos rfl, if_neg (by simp)]
      | true => rw [others_cons_of_clusters hk, others_cons_of_clusters hk, if_pos rfl]
    | false =>
      rw [if_neg (by simp)]
      cases hk : k.isClustersKey with
      | false =>
        rw [others_cons_of_other hk, others_cons_of_other hk, ih]
        cases key.isClustersKey with
        | false => rw [if_neg (by simp), if_neg (by simp), put, hs, if_neg (by simp)]
        | true => rw [if_pos rfl, if_pos rfl]
      | true => rw [others_cons_of_clusters hk, others_cons_of_clusters hk, ih]

theorem others_put_of_other {key : Value} (h : key.isClustersKey = false) (entries : Entries)
    (v : Value) : (entries.put key v).others = entries.others.put key v := by
  rw [others_put, h, if_neg (by simp)]

theorem others_put_of_clusters {key : Value} (h : key.isClustersKey = true) (entries : Entries)
    (v : Value) : (entries.put key v).others = entries.others := by
  rw [others_put, h, if_pos rfl]

theorem others_eq_self {entries : Entries} (h : entries.get? (.text clustersKey) = none) :
    entries.others = entries := by
  refine List.filter_eq_self.2 fun e he => ?_
  rw [Bool.not_eq_true']
  exact get?_eq_none.1 h e he

theorem get?_clusters_others (entries : Entries) :
    entries.others.get? (.text clustersKey) = none := by
  refine get?_eq_none.2 fun e he => ?_
  rw [← Bool.not_eq_true']
  exact (List.mem_filter.1 he).2

theorem others_others (entries : Entries) : entries.others.others = entries.others :=
  others_eq_self entries.get?_clusters_others

theorem IsTree.others {entries : Entries} (h : entries.IsTree) : entries.others.IsTree :=
  ⟨List.Pairwise.filter _ h.1, fun e he => h.2 e (List.mem_filter.1 he).1⟩

end Entries

/-! ### Laying -/

/-- If the clusters of two trees can be laid over one another, the rest is laid as if they were not
there. -/
theorem others_lay {lower upper : Entries} (hl : lower.IsTree) (hu : upper.IsTree)
    (hok : ∀ v, upper.get? (.text clustersKey) = some v → ∃ laid,
      layOver (.text clustersKey) (lower.get? (.text clustersKey)) v = .ok laid) :
    (lower.lay upper).map Entries.others = lower.others.lay upper.others := by
  induction upper generalizing lower with
  | nil => rfl
  | cons e rest ih =>
    obtain ⟨k, v⟩ := e
    obtain ⟨-, hv, hrest⟩ := Entries.isTree_cons.1 hu
    rw [lay_cons hl hv]
    cases hk : k.isClustersKey with
    | true =>
      obtain rfl := isClustersKey_iff.1 hk
      obtain ⟨laid, hlaid⟩ := hok v (Entries.get?_cons_clusters hk v rest)
      have ht := hl.put (layOver_isTree (hl.under _) hv hlaid) (.text clustersKey)
      have hnone : Entries.get? rest (.text clustersKey) = none := hu.1.get?_tail hk
      rw [hlaid, ok_bind, Entries.others_cons_of_clusters hk,
        ih ht hrest fun w hw => by simp [hnone] at hw, Entries.others_put_of_clusters hk]
    | false =>
      rw [Entries.others_cons_of_other hk, lay_cons hl.others hv, Entries.get?_others hk]
      rcases hlaid : layOver k (lower.get? k) v with f | laid
      · rfl
      · have ht := hl.put (layOver_isTree (hl.under _) hv hlaid) k
        rw [ok_bind, ok_bind, ih ht hrest fun w hw => ?_, Entries.others_put_of_other hk]
        rw [Entries.get?_put_other hk]
        exact hok w ((Entries.get?_cons_other hk v rest).trans hw)

/-! ### Writing -/

theorem get?_branch_of_other {path : List String} (h : path.head? ≠ some clustersKey) (v : Value) :
    (Entries.branch v path).get? (.text clustersKey) = none := by
  cases path with
  | nil => rfl
  | cons key rest =>
    have hk : (Value.text key).sameKey (.text clustersKey) = false := by
      rw [Value.sameKey_text, beq_eq_false_iff_ne]
      exact fun he => h (congrArg some he)
    cases rest with
    | nil => rw [Entries.branch, Entries.get?_cons, hk]; rfl
    | cons next rest => rw [Entries.branch, Entries.get?_cons, hk]; rfl

/-- Paths that do not begin at the clusters are written as if the clusters were not there, and the
clusters stay. -/
theorem others_writeAll {entries : Entries} {writes : List (List String × Value)}
    (he : entries.IsTree) (hw : ∀ w ∈ writes, ∃ s, w.2 = .text s)
    (ho : ∀ w ∈ writes, w.1.head? ≠ some clustersKey) :
    (entries.writeAll writes).map Entries.others = entries.others.writeAll writes ∧
      ∀ r, entries.writeAll writes = .ok r →
        r.get? (.text clustersKey) = entries.get? (.text clustersKey) := by
  induction writes generalizing entries with
  | nil =>
    refine ⟨rfl, fun r hr => ?_⟩
    cases hr
    rfl
  | cons w rest ih =>
    obtain ⟨path, v⟩ := w
    obtain ⟨⟨s, hv⟩, hrest⟩ := List.forall_mem_cons.1 hw
    obtain ⟨hpath, horest⟩ := List.forall_mem_cons.1 ho
    obtain rfl : v = .text s := hv
    have ht := Value.isTree_text s
    have hb := branch_isTree ht path
    have hnone := get?_branch_of_other hpath (.text s)
    have hlay : (entries.lay (Entries.branch (.text s) path)).map Entries.others =
        entries.others.lay (Entries.branch (.text s) path) := by
      have hlay := others_lay he hb fun w hw => by simp [hnone] at hw
      rwa [Entries.others_eq_self hnone] at hlay
    rw [Entries.writeAll, Entries.writeAll, write_eq_lay he ht rfl, write_eq_lay he.others ht rfl,
      ← hlay]
    rcases hm : entries.lay (Entries.branch (.text s) path) with f | merged
    · exact ⟨rfl, fun r hr => by cases hr⟩
    · obtain ⟨hmap, hget⟩ := ih (lay_isTree he hb hm) hrest horest
      refine ⟨hmap, fun r hr => (hget r hr).trans ?_⟩
      exact get?_lay_of_none he hb hm hnone

section Over

variable {files layer : Entries} {writes : List (List String × Value)}

theorem others_lay_writeAll (hf : files.IsTree) (hl : layer.IsTree)
    (hok : ∀ v, layer.get? (.text clustersKey) = some v → ∃ laid,
      layOver (.text clustersKey) (files.get? (.text clustersKey)) v = .ok laid)
    (hw : ∀ w ∈ writes, ∃ s, w.2 = .text s) (ho : ∀ w ∈ writes, w.1.head? ≠ some clustersKey) :
    (files.lay layer >>= fun merged => merged.writeAll writes).map Entries.others =
      files.others.lay layer.others >>= fun merged => merged.writeAll writes := by
  rw [← others_lay hf hl hok]
  rcases hm : files.lay layer with f | merged
  · rfl
  · exact (others_writeAll (lay_isTree hf hl hm) hw ho).1

theorem get?_lay_writeAll (hf : files.IsTree) (hl : layer.IsTree)
    (hw : ∀ w ∈ writes, ∃ s, w.2 = .text s) (ho : ∀ w ∈ writes, w.1.head? ≠ some clustersKey)
    {r : Entries} (h : (files.lay layer >>= fun merged => merged.writeAll writes) = .ok r) :
    (layer.get? (.text clustersKey) = none →
      r.get? (.text clustersKey) = files.get? (.text clustersKey)) ∧
    ∀ v laid, layer.get? (.text clustersKey) = some v →
      layOver (.text clustersKey) (files.get? (.text clustersKey)) v = .ok laid →
        r.get? (.text clustersKey) = some laid := by
  obtain ⟨merged, hm, hr⟩ := bind_eq_ok.1 h
  rw [(others_writeAll (lay_isTree hf hl hm) hw ho).2 r hr]
  refine ⟨fun hnone => get?_lay_of_none hf hl hm hnone, fun v laid hv hlaid => ?_⟩
  obtain ⟨k, laid', hk, hlaid', hget⟩ := get?_lay_of_some hf hl hm hv
  obtain rfl := isClustersKey_iff.1 hk
  rw [hget, Except.ok.inj (hlaid'.symm.trans hlaid)]

end Over

theorem writeAll_append (entries : Entries) (first second : List (List String × Value)) :
    entries.writeAll (first ++ second) =
      entries.writeAll first >>= fun merged => merged.writeAll second := by
  induction first generalizing entries with
  | nil => rfl
  | cons w rest ih =>
    obtain ⟨path, v⟩ := w
    rw [List.cons_append, Entries.writeAll, Entries.writeAll]
    rcases entries.write path v with f | merged
    · rfl
    · exact ih merged

end Tripwire
