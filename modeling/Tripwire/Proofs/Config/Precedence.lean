import Mathlib
import Tripwire.Proofs.Config.Path

/-!
# Precedence of layers

The layers of a configuration are laid over one another in ascending order; an override counts as a
layer of its own, the tree of its path. The main statement says what the result sets a path to: the
highest layer that sets or cuts the path settles it.
-/

namespace Tripwire

/-- The layers in ascending order: two files, the environment, and one tree for each override. -/
def layers (shared loc fromVariables : Entries) (overrides : List (String × String)) :
    List Entries :=
  shared :: loc :: fromVariables ::
    (overrideWrites overrides).map fun w => Entries.branch w.2 w.1

/-! ### Writes as layers -/

theorem writeAll_eq_foldlM {entries : Entries} {writes : List (List String × Value)}
    (he : entries.IsTree) (hw : ∀ w ∈ writes, ∃ s, w.2 = .text s) :
    entries.writeAll writes =
      (writes.map fun w => Entries.branch w.2 w.1).foldlM Entries.lay entries := by
  induction writes generalizing entries with
  | nil => rfl
  | cons w rest ih =>
    obtain ⟨path, v⟩ := w
    obtain ⟨⟨s, hv⟩, hrest⟩ := List.forall_mem_cons.1 hw
    obtain rfl : v = .text s := hv
    have ht := Value.isTree_text s
    rw [Entries.writeAll, write_eq_lay he ht rfl, List.map_cons, List.foldlM_cons]
    rcases hlay : entries.lay (Entries.branch (.text s) path) with f | merged
    · rfl
    · exact ih (lay_isTree he (branch_isTree ht path) hlay) hrest

theorem variableWrites_text {environment : List (String × String)} {w : List String × Value}
    (hw : w ∈ variableWrites environment) : ∃ s, w.2 = .text s := by
  obtain ⟨⟨name, s⟩, -, h⟩ := List.mem_filterMap.1 hw
  dsimp only at h
  split at h
  · cases h
  · cases h
  · cases h
    exact ⟨s, rfl⟩

theorem overrideWrites_text {overrides : List (String × String)} {w : List String × Value}
    (hw : w ∈ overrideWrites overrides) : ∃ s, w.2 = .text s := by
  obtain ⟨⟨key, s⟩, -, rfl⟩ := List.mem_map.1 hw
  exact ⟨s, rfl⟩

theorem foldlM_lay_isTree {base merged : Entries} {uppers : List Entries} (hb : base.IsTree)
    (hu : ∀ upper ∈ uppers, upper.IsTree) (h : uppers.foldlM Entries.lay base = .ok merged) :
    merged.IsTree := by
  induction uppers generalizing base with
  | nil =>
    cases h
    exact hb
  | cons upper rest ih =>
    obtain ⟨hupper, hrest⟩ := List.forall_mem_cons.1 hu
    rw [List.foldlM_cons, bind_eq_ok] at h
    obtain ⟨m, hm, h⟩ := h
    exact ih (lay_isTree hb hupper hm) hrest h

theorem branches_isTree {writes : List (List String × Value)}
    (hw : ∀ w ∈ writes, ∃ s, w.2 = .text s) :
    ∀ upper ∈ writes.map fun w => Entries.branch w.2 w.1, upper.IsTree := by
  intro upper hupper
  obtain ⟨w, hmem, rfl⟩ := List.mem_map.1 hupper
  obtain ⟨s, hs⟩ := hw w hmem
  rw [hs]
  exact branch_isTree (Value.isTree_text s) w.1

theorem environmentLayer_isTree {environment : List (String × String)} {fromVariables : Entries}
    (h : environmentLayer environment = .ok fromVariables) : fromVariables.IsTree := by
  have hw : ∀ w ∈ variableWrites environment, ∃ s, w.2 = .text s := fun w => variableWrites_text
  rw [environmentLayer, writeAll_eq_foldlM Entries.isTree_nil hw] at h
  exact foldlM_lay_isTree Entries.isTree_nil (branches_isTree hw) h

theorem layers_isTree {shared loc fromVariables : Entries} {overrides : List (String × String)}
    (hs : shared.IsTree) (hl : loc.IsTree) (hv : fromVariables.IsTree) :
    ∀ layer ∈ layers shared loc fromVariables overrides, layer.IsTree := by
  simp only [layers, List.forall_mem_cons]
  exact ⟨hs, hl, hv, branches_isTree fun w => overrideWrites_text⟩

theorem mergeLayers_eq_foldlM {shared loc merged : Entries}
    {environment overrides : List (String × String)} (hs : shared.IsTree) (hl : loc.IsTree)
    (h : mergeLayers shared loc environment overrides = .ok merged) :
    ∃ fromVariables, environmentLayer environment = .ok fromVariables ∧
      (layers shared loc fromVariables overrides).foldlM Entries.lay [] = .ok merged := by
  rw [mergeLayers, bind_eq_ok] at h
  obtain ⟨first, hfirst, h⟩ := h
  obtain ⟨second, hsecond, h⟩ := bind_eq_ok.1 h
  obtain ⟨fromVariables, hv, h⟩ := bind_eq_ok.1 h
  obtain ⟨third, hthird, h⟩ := bind_eq_ok.1 h
  have htree := lay_isTree (lay_isTree (lay_isTree Entries.isTree_nil hs hfirst) hl hsecond)
    (environmentLayer_isTree hv) hthird
  rw [writeAll_eq_foldlM htree fun w => overrideWrites_text] at h
  refine ⟨fromVariables, hv, ?_⟩
  simp only [layers, List.foldlM_cons, hfirst, hsecond, hthird, ok_bind]
  exact h

/-! ### The highest layer that decides -/

theorem follow?_foldlM_of_not_decides {base merged : Entries} {uppers : List Entries}
    {path : List Value} (hb : base.IsTree) (hu : ∀ upper ∈ uppers, upper.IsTree)
    (h : uppers.foldlM Entries.lay base = .ok merged)
    (hp : ∀ key ∈ path, key.isClustersKey = false)
    (hd : ∀ upper ∈ uppers, ¬ upper.Decides path) :
    (merged.follow? path).map Value.outline = (base.follow? path).map Value.outline := by
  induction uppers generalizing base with
  | nil =>
    cases h
    rfl
  | cons upper rest ih =>
    obtain ⟨hupper, hrest⟩ := List.forall_mem_cons.1 hu
    obtain ⟨hdu, hdr⟩ := List.forall_mem_cons.1 hd
    rw [List.foldlM_cons, bind_eq_ok] at h
    obtain ⟨m, hm, h⟩ := h
    rw [ih (lay_isTree hb hupper hm) hrest h hdr]
    exact (follow?_lay hb hupper hm hp).2 hdu

theorem follow?_foldlM_of_decides {base merged top : Entries} {below above : List Entries}
    {path : List Value} (hb : base.IsTree)
    (hu : ∀ upper ∈ below ++ top :: above, upper.IsTree)
    (h : (below ++ top :: above).foldlM Entries.lay base = .ok merged)
    (hp : ∀ key ∈ path, key.isClustersKey = false) (htop : top.Decides path)
    (hd : ∀ upper ∈ above, ¬ upper.Decides path) :
    (merged.follow? path).map Value.outline = (top.follow? path).map Value.outline := by
  obtain ⟨hbelow, htree, habove⟩ : (∀ upper ∈ below, upper.IsTree) ∧ top.IsTree ∧
      ∀ upper ∈ above, upper.IsTree := by
    rw [List.forall_mem_append, List.forall_mem_cons] at hu
    exact hu
  rw [List.foldlM_append, bind_eq_ok] at h
  obtain ⟨under, hunder, h⟩ := h
  rw [List.foldlM_cons, bind_eq_ok] at h
  obtain ⟨m, hm, h⟩ := h
  have hut := foldlM_lay_isTree hb hbelow hunder
  rw [follow?_foldlM_of_not_decides (lay_isTree hut htree hm) habove h hp hd]
  exact (follow?_lay hut htree hm hp).1 htop

theorem follow?_of_outline {merged : Entries} {path : List Value} {v : Value}
    (h : (merged.follow? path).map Value.outline = some v.outline) :
    ∃ w, merged.follow? path = some w ∧ w.isMapping = v.isMapping ∧
      (v.isMapping = false → w = v) := by
  obtain ⟨w, hw, ho⟩ := Option.map_eq_some_iff.1 h
  have hm : w.isMapping = v.isMapping := by
    rw [← Value.isMapping_outline w, ho, Value.isMapping_outline]
  refine ⟨w, hw, hm, fun hv => ?_⟩
  rwa [Value.outline_of_not_mapping hv, Value.outline_of_not_mapping (hm.trans hv)] at ho

/-- A path without the key of the clusters is settled by the highest layer that sets or cuts it. If
there is none, or the layer cuts the path, the result does not set it; if the layer sets it to
something else than a mapping, so does the result; if the layer sets it to a mapping, the result
sets it to a mapping. -/
theorem highest_layer_settles {shared loc merged : Entries}
    {environment overrides : List (String × String)} {path : List Value}
    (hs : shared.IsTree) (hl : loc.IsTree)
    (h : mergeLayers shared loc environment overrides = .ok merged)
    (hp : ∀ key ∈ path, key.isClustersKey = false) :
    ∃ fromVariables, environmentLayer environment = .ok fromVariables ∧
      ((∀ layer ∈ layers shared loc fromVariables overrides, ¬ layer.Decides path) →
        merged.follow? path = none) ∧
      ∀ below top above, layers shared loc fromVariables overrides = below ++ top :: above →
        (∀ layer ∈ above, ¬ layer.Decides path) →
          (top.Cuts path → merged.follow? path = none) ∧
          ∀ v, top.follow? path = some v →
            (v.isMapping = false → merged.follow? path = some v) ∧
            (v.isMapping = true → ∃ w, merged.follow? path = some w ∧ w.isMapping = true) := by
  obtain ⟨fromVariables, hv, hfold⟩ := mergeLayers_eq_foldlM hs hl h
  have htrees : ∀ layer ∈ layers shared loc fromVariables overrides, layer.IsTree :=
    layers_isTree hs hl (environmentLayer_isTree hv)
  refine ⟨fromVariables, hv, fun hd => ?_, fun below top above heq hd => ⟨fun hcut => ?_,
    fun v htop => ?_⟩⟩
  · have hne : path ≠ [] := by
      rintro rfl
      exact hd shared (List.mem_cons_self ..) (Entries.decides_nil shared)
    have ho := follow?_foldlM_of_not_decides Entries.isTree_nil htrees hfold hp hd
    obtain ⟨key, rest, rfl⟩ := List.exists_cons_of_ne_nil hne
    exact Option.map_eq_none_iff.1 ho
  · rw [heq] at hfold htrees
    have ho := follow?_foldlM_of_decides Entries.isTree_nil htrees hfold hp (Or.inr hcut) hd
    rw [Entries.follow?_eq_none_of_cuts hcut] at ho
    exact Option.map_eq_none_iff.1 ho
  · rw [heq] at hfold htrees
    have ho := follow?_foldlM_of_decides Entries.isTree_nil htrees hfold hp (Or.inl ⟨v, htop⟩) hd
    rw [htop] at ho
    obtain ⟨w, hw, hm, hleaf⟩ := follow?_of_outline ho
    refine ⟨fun hv => ?_, fun hv => ⟨w, hw, hm.trans hv⟩⟩
    rw [hw, hleaf hv]

/-- A section that is null in the user's own file hides what the shared file sets in it, also when
the environment sets another key of the section. -/
theorem null_section_hides_timeout :
    ∃ merged, mergeLayers [(.text "waiting", .map [(.text "timeout_seconds", .int 600)] none)]
        [(.text "waiting", .null)] [("FAILFAST_WAITING__POLL_INTERVAL_SECONDS", "2")] [] =
          .ok merged ∧
      merged.follow? [.text "waiting", .text "timeout_seconds"] = none := by
  have hwrites : variableWrites [("FAILFAST_WAITING__POLL_INTERVAL_SECONDS", "2")] =
      [(["waiting", "poll_interval_seconds"], .text "2")] := by cbv
  have hvars : environmentLayer [("FAILFAST_WAITING__POLL_INTERVAL_SECONDS", "2")] =
      .ok [(.text "waiting", .map [(.text "poll_interval_seconds", .text "2")] none)] := by
    rw [environmentLayer, hwrites]
    rfl
  have hmerged : mergeLayers [(.text "waiting", .map [(.text "timeout_seconds", .int 600)] none)]
      [(.text "waiting", .null)] [("FAILFAST_WAITING__POLL_INTERVAL_SECONDS", "2")] [] =
        .ok [(.text "waiting", .map [(.text "poll_interval_seconds", .text "2")] none)] := by
    rw [mergeLayers, hvars]
    rfl
  have hinner : Entries.IsTree [(.text "timeout_seconds", .int 600)] :=
    Entries.isTree_singleton (.leaf (by simp [Value.kind]) (by simp [Value.kind]))
  have hshared := Entries.isTree_singleton (k := .text "waiting")
    (Value.isTree_map_iff.2 ⟨rfl, hinner⟩)
  have hloc : Entries.IsTree [(.text "waiting", .null)] :=
    Entries.isTree_singleton (.leaf (by simp [Value.kind]) (by simp [Value.kind]))
  have hp : ∀ key ∈ [Value.text "waiting", .text "timeout_seconds"],
      key.isClustersKey = false := by
    simp [Value.isClustersKey, clustersKey]
  obtain ⟨fromVariables, hv, -, hsettles⟩ := highest_layer_settles hshared hloc hmerged hp
  obtain rfl := Except.ok.inj (hvars.symm.trans hv)
  refine ⟨_, hmerged, (hsettles [_] _ [_] rfl ?_).1 ?_⟩
  · simp only [List.forall_mem_singleton]
    rw [Entries.decides_cons_iff rfl]
    exact Entries.not_decides_of_get?_eq_none rfl
  · exact ⟨[.text "waiting"], .null, by simp, by simp, by simp, rfl, rfl⟩

end Tripwire
