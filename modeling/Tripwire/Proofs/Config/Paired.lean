import Tripwire.Proofs.Config.Addressed
import Tripwire.Proofs.Config.Rekeyed

/-!
# Following two mappings of clusters

Two ways to hold layers whose clusters are read as mappings with other keys are followed through the
same layers and the same paths. As long as only fixed names are addressed they stay in step.
-/

namespace Tripwire

/-- That two ways to hold layers are the same apart from the clusters, and that these are read as
mappings which differ in keys outside the fixed names only. -/
structure Paired (fixed : String → Prop) (x y : Entries) : Prop where
  left : x.IsTree
  right : y.IsTree
  others : x.others = y.others
  clusters : ∃ v w a b, x.get? (.text clustersKey) = some v ∧ y.get? (.text clustersKey) = some w ∧
    ReadAs v a ∧ ReadAs w b ∧ Rekeyed fixed a b ∧ Config.SameClusters v w

variable {fixed : String → Prop} {x y : Entries}

theorem Paired.matches (h : Paired fixed x y) : Config.Matches x y := by
  obtain ⟨v, w, a, b, hx, hy, -, -, -, hsame⟩ := h.clusters
  exact ⟨h.others, v, w, hx, hy, hsame⟩

theorem Paired.put_other (h : Paired fixed x y) {key laid : Value} (hk : key.isClustersKey = false)
    (ht : laid.IsTree) : Paired fixed (x.put key laid) (y.put key laid) := by
  refine ⟨h.left.put ht key, h.right.put ht key, ?_, ?_⟩
  · rw [Entries.others_put_of_other hk, Entries.others_put_of_other hk, h.others]
  · rw [Entries.get?_put_other hk, Entries.get?_put_other hk]
    exact h.clusters

theorem Paired.put_clusters (h : Paired fixed x y) {a b : Entries} (ha : a.IsTree) (hb : b.IsTree)
    (hab : Rekeyed fixed a b) :
    Paired fixed (x.put (.text clustersKey) (.map a none))
      (y.put (.text clustersKey) (.map b none)) := by
  refine ⟨h.left.put (Value.isTree_map_iff.2 ⟨rfl, ha⟩) _,
    h.right.put (Value.isTree_map_iff.2 ⟨rfl, hb⟩) _, ?_, ?_⟩
  · rw [Entries.others_put_of_clusters isClustersKey_clustersKey,
      Entries.others_put_of_clusters isClustersKey_clustersKey, h.others]
  · exact ⟨_, _, a, b, Entries.get?_put_clusters x _, Entries.get?_put_clusters y _, readAs_map ha,
      readAs_map hb, hab, hab.sameClusters ha⟩

theorem Paired.lay_fixed (h : Paired fixed x y) {upper : Entries} (hu : upper.IsTree)
    (hc : ∀ v, upper.get? (.text clustersKey) = some v → ∃ content : Entries,
      v = .map content none ∧ content.TextKeys ∧ ∀ name, content.HasKey name → fixed name) :
    (∃ f, x.lay upper = .error f ∧ y.lay upper = .error f) ∨
      ∃ m n, x.lay upper = .ok m ∧ y.lay upper = .ok n ∧ Paired fixed m n := by
  induction upper generalizing x y with
  | nil => exact Or.inr ⟨x, y, rfl, rfl, h⟩
  | cons e rest ih =>
    obtain ⟨k, v⟩ := e
    obtain ⟨-, hv, hrest⟩ := Entries.isTree_cons.1 hu
    rw [lay_cons h.left hv, lay_cons h.right hv]
    cases hk : k.isClustersKey with
    | true =>
      obtain rfl := isClustersKey_iff.1 hk
      have hnone : Entries.get? rest (.text clustersKey) = none := hu.1.get?_tail hk
      obtain ⟨content, rfl, hkeys, hfixed⟩ := hc v (Entries.get?_cons_clusters hk v rest)
      have hct : content.IsTree := (Value.isTree_map_iff.1 hv).2
      -- From here on the clusters are mappings on both sides.
      obtain ⟨v, w, a, b, hx, hy, ha, hb, hab, -⟩ := h.clusters
      rw [hx, hy, ha.layOver (h.left.get? hx) hct, hb.layOver (h.right.get? hy) hct]
      rcases hab.lay ha.isTree hb.isTree hct hkeys hfixed with ⟨f, hf, hg⟩ | ⟨m, n, hm, hn, hmn⟩
      · exact Or.inl ⟨f, by rw [hf]; rfl, by rw [hg]; rfl⟩
      · rw [hm, hn]
        have hmt := lay_isTree ha.isTree hct hm
        have hnt := lay_isTree hb.isTree hct hn
        exact ih (h.put_clusters hmt hnt hmn) hrest fun v hv => by simp [hnone] at hv
    | false =>
      have hget : x.get? k = y.get? k := by
        rw [← Entries.get?_others hk, h.others, Entries.get?_others hk]
      rw [← hget]
      rcases hlaid : layOver k (x.get? k) v with f | laid
      · exact Or.inl ⟨f, rfl, rfl⟩
      · have ht := layOver_isTree (h.left.under _) hv hlaid
        exact ih (h.put_other hk ht) hrest fun w hw =>
          hc w ((Entries.get?_cons_other hk v rest).trans hw)

theorem Paired.lay (h : Paired fixed x y) {upper : Entries} {added : String → Prop}
    (hu : Addressing upper added) (hadded : ∀ name, added name → fixed name) :
    (∃ f, x.lay upper = .error f ∧ y.lay upper = .error f) ∨
      ∃ m n, x.lay upper = .ok m ∧ y.lay upper = .ok n ∧ Paired fixed m n := by
  obtain ⟨hut, hupper⟩ := hu
  refine h.lay_fixed hut fun v hv => ?_
  rcases hupper with ⟨hnone, -⟩ | ⟨content, hcontent, hkeys, hnames⟩
  · rw [hnone] at hv
    cases hv
  · rw [hcontent, Option.some.injEq] at hv
    exact ⟨content, hv.symm, hkeys, fun name hname => hadded name ((hnames name).2 hname)⟩

theorem Paired.writeAll (h : Paired fixed x y) {writes : List (List String × Value)}
    (hw : ∀ w ∈ writes, ∃ s, w.2 = .text s) (hp : ∀ w ∈ writes, w.1 ≠ [clustersKey])
    (hfixed : ∀ name, AddressedBy writes name → fixed name) :
    Config.Alike (x.writeAll writes) (y.writeAll writes) := by
  induction writes generalizing x y with
  | nil => exact h.matches
  | cons w rest ih =>
    obtain ⟨path, v⟩ := w
    obtain ⟨⟨s, hv⟩, hrest⟩ := List.forall_mem_cons.1 hw
    obtain ⟨hpath, hprest⟩ := List.forall_mem_cons.1 hp
    obtain rfl : v = .text s := hv
    have ht := Value.isTree_text s
    rw [Entries.writeAll, Entries.writeAll, write_eq_lay h.left ht rfl, write_eq_lay h.right ht rfl]
    have hfirst : ∀ name, addressedName? path = some name → fixed name :=
      fun name hname => hfixed name (addressedBy_cons.2 (Or.inl hname))
    rcases h.lay (addressing_branch hpath s) hfirst with ⟨f, hf, hg⟩ | ⟨m, n, hm, hn, hmn⟩
    · rw [hf, hg]
      exact rfl
    · rw [hm, hn]
      exact ih hmn hrest hprest fun name hname => hfixed name (addressedBy_cons.2 (Or.inr hname))

theorem Paired.layersOver (h : Paired fixed x y) {environment overrides : List (String × String)}
    (hv : ∀ w ∈ variableWrites environment, w.1 ≠ [clustersKey])
    (ho : ∀ w ∈ overrideWrites overrides, w.1 ≠ [clustersKey])
    (hfixed : ∀ name, AddressedBy (variableWrites environment) name ∨
      AddressedBy (overrideWrites overrides) name → fixed name) :
    Config.Alike (layersOver x environment overrides) (layersOver y environment overrides) := by
  rw [Tripwire.layersOver, Tripwire.layersOver]
  rcases henv : environmentLayer environment with f | layer
  · exact rfl
  · rw [ok_bind, ok_bind]
    rcases h.lay (addressing_environmentLayer hv henv) fun name hname => hfixed name (Or.inl hname)
      with ⟨f, hf, hg⟩ | ⟨m, n, hm, hn, hmn⟩
    · rw [hf, hg]
      exact rfl
    · rw [hm, hn]
      exact hmn.writeAll (fun w => overrideWrites_text) ho fun name hname =>
        hfixed name (Or.inr hname)

theorem Naming.layersOver {files merged : Entries} {names : String → Prop}
    {environment overrides : List (String × String)} (hn : Naming files names)
    (hv : ∀ w ∈ variableWrites environment, w.1 ≠ [clustersKey])
    (ho : ∀ w ∈ overrideWrites overrides, w.1 ≠ [clustersKey])
    (h : layersOver files environment overrides = .ok merged) :
    Naming merged fun name => names name ∨ AddressedBy (variableWrites environment) name ∨
      AddressedBy (overrideWrites overrides) name := by
  obtain ⟨layer, hlayer, h⟩ := bind_eq_ok.1 h
  obtain ⟨m, hm, h⟩ := bind_eq_ok.1 h
  have hlaid := hn.lay (addressing_environmentLayer hv hlayer) hm
  refine (hlaid.writeAll (fun w => overrideWrites_text) ho h).congr fun name => ?_
  rw [or_assoc]

end Tripwire
