import Tripwire.Proofs.Config.Contained
import Tripwire.Proofs.Config.Keys
import Tripwire.Proofs.Config.Listed

/-!
# How many clusters there are

Variables and overrides below the clusters address them by name. Whatever they write, the clusters
afterwards have the names from before and the names that were addressed, and as many clusters are read.
-/

namespace Tripwire

/-- The name of the cluster that a path addresses, if it addresses one. -/
def addressedName? : List String → Option String
  | key :: name :: _ => if key = clustersKey then some name else none
  | _ => none

def AddressedBy (writes : List (List String × Value)) (name : String) : Prop :=
  ∃ w ∈ writes, addressedName? w.1 = some name

theorem addressedBy_cons {w : List String × Value} {rest : List (List String × Value)}
    {name : String} :
    AddressedBy (w :: rest) name ↔ addressedName? w.1 = some name ∨ AddressedBy rest name := by
  simp [AddressedBy]

theorem congr_names {P : (String → Prop) → Prop} {names names' : String → Prop} (h : P names)
    (heq : ∀ name, names' name ↔ names name) : P names' := by
  obtain rfl : names' = names := funext fun name => propext (heq name)
  exact h

/-- That a layer has no clusters and addresses nothing, or has its clusters in a mapping from the
names that it addresses. -/
def Addressing (layer : Entries) (names : String → Prop) : Prop :=
  layer.IsTree ∧
    ((layer.get? (.text clustersKey) = none ∧ ∀ name, ¬ names name) ∨
      ∃ content : Entries, layer.get? (.text clustersKey) = some (.map content none) ∧ content.TextKeys ∧
        ∀ name, names name ↔ content.HasKey name)

theorem Addressing.congr {layer : Entries} {names names' : String → Prop}
    (h : Addressing layer names) (heq : ∀ name, names' name ↔ names name) :
    Addressing layer names' :=
  congr_names (P := Addressing layer) h heq

theorem addressing_branch {path : List String} (h : path ≠ [clustersKey]) (s : String) :
    Addressing (Entries.branch (.text s) path) fun name => addressedName? path = some name := by
  refine ⟨branch_isTree (Value.isTree_text s) path, ?_⟩
  cases path with
  | nil => exact Or.inl ⟨rfl, by simp [addressedName?]⟩
  | cons key rest =>
    cases rest with
    | nil =>
      have hk : key ≠ clustersKey := fun he => h (by rw [he])
      refine Or.inl ⟨get?_branch_of_other ?_ _, by simp [addressedName?]⟩
      simpa using hk
    | cons next rest =>
      by_cases hk : key = clustersKey
      · subst hk
        obtain ⟨v, hv⟩ : ∃ v, Entries.branch (.text s) (next :: rest) = [(.text next, v)] := by
          cases rest with
          | nil => exact ⟨_, rfl⟩
          | cons third rest => exact ⟨_, rfl⟩
        refine Or.inr ⟨Entries.branch (.text s) (next :: rest), ?_, ?_, fun name => ?_⟩
        · exact Entries.get?_cons_clusters isClustersKey_clustersKey _ _
        · rw [hv]
          exact List.forall_mem_singleton.2 ⟨next, rfl⟩
        · rw [hv, Entries.hasKey_cons]
          simp [addressedName?, Entries.not_hasKey_nil]
      · refine Or.inl ⟨get?_branch_of_other ?_ _, by simp [addressedName?, hk]⟩
        simpa using hk

section Clusters

variable {lower upper merged content : Entries} (hl : lower.IsTree) (hu : upper.IsTree)
  (h : lower.lay upper = .ok merged)
  (hcontent : upper.get? (.text clustersKey) = some (.map content none))
include hl hu h hcontent

theorem get?_clusters_lay_of_none (hnone : lower.get? (.text clustersKey) = none) :
    merged.get? (.text clustersKey) = some (.map content none) := by
  obtain ⟨k, laid, -, hlaid, hget⟩ := get?_lay_of_some hl hu h hcontent
  rw [hnone, layOver_none (hu.get? hcontent)] at hlaid
  cases hlaid
  exact hget

/-- A mapping is laid over the mapping as which the clusters below are merged. -/
theorem get?_clusters_lay {clusters : Value} {byName : Entries}
    (hclusters : lower.get? (.text clustersKey) = some clusters)
    (hbelow : mappingBelow (.text clustersKey) (some clusters) = .ok (some (byName, none))) :
    ∃ m, byName.lay content = .ok m ∧ merged.get? (.text clustersKey) = some (.map m none) := by
  obtain ⟨k, laid, hk, hlaid, hget⟩ := get?_lay_of_some hl hu h hcontent
  obtain rfl := isClustersKey_iff.1 hk
  have hct := (Value.isTree_map_iff.1 (hu.get? hcontent)).2
  rw [layOver_map (hl.under _) hct, hclusters, hbelow, ok_bind] at hlaid
  obtain ⟨m, hm, rfl⟩ := map_eq_ok.1 hlaid
  exact ⟨m, hm, hget⟩

end Clusters

theorem Addressing.lay {lower upper merged : Entries} {names added : String → Prop}
    (hl : Addressing lower names) (hu : Addressing upper added)
    (h : lower.lay upper = .ok merged) :
    Addressing merged fun name => names name ∨ added name := by
  obtain ⟨hlt, hlower⟩ := hl
  obtain ⟨hut, hupper⟩ := hu
  refine ⟨lay_isTree hlt hut h, ?_⟩
  rcases hupper with ⟨hnone, hadded⟩ | ⟨content, hcontent, hkeys, hadded⟩
  · rw [get?_lay_of_none hlt hut h hnone]
    simpa [hadded] using hlower
  · have hct : content.IsTree := (Value.isTree_map_iff.1 (hut.get? hcontent)).2
    right
    rcases hlower with ⟨hnone, hnames⟩ | ⟨below, hbelow, hbelowKeys, hnames⟩
    · have hget := get?_clusters_lay_of_none hlt hut h hcontent hnone
      exact ⟨content, hget, hkeys, by simpa [hnames] using hadded⟩
    · have hbt : below.IsTree := (Value.isTree_map_iff.1 (hlt.get? hbelow)).2
      obtain ⟨m, hm, hget⟩ := get?_clusters_lay hlt hut h hcontent hbelow rfl
      refine ⟨m, hget, textKeys_lay hbt hct hbelowKeys hkeys hm, fun name => ?_⟩
      rw [hasKey_lay hbt hct hm]
      exact or_congr (hnames name) (hadded name)

/-- Paths are written by laying the tree of each over what the ones before it have left. -/
theorem writeAll_induction {P : List (List String × Value) → Entries → Prop}
    {entries merged : Entries} {writes : List (List String × Value)}
    (htree : ∀ done lower, P done lower → lower.IsTree)
    (hw : ∀ w ∈ writes, ∃ s, w.2 = .text s)
    (hstep : ∀ done, ∀ w ∈ writes, ∀ s lower laid, P done lower →
      lower.lay (Entries.branch (.text s) w.1) = .ok laid → P (done ++ [w]) laid)
    (hp : P [] entries) (h : entries.writeAll writes = .ok merged) : P writes merged := by
  induction writes generalizing entries P with
  | nil =>
    cases h
    exact hp
  | cons w rest ih =>
    obtain ⟨path, v⟩ := w
    obtain ⟨⟨s, hv⟩, hrest⟩ := List.forall_mem_cons.1 hw
    obtain rfl : v = .text s := hv
    rw [Entries.writeAll, write_eq_lay (htree [] _ hp) (Value.isTree_text s) rfl, bind_eq_ok] at h
    obtain ⟨m, hm, h⟩ := h
    have hfirst := hstep [] _ (List.mem_cons_self ..) s entries m hp hm
    -- The first path is among those that are done already for the rest.
    refine ih (P := fun done => P ((path, .text s) :: done)) (fun done => htree _) hrest ?_ hfirst h
    intro done w hmem
    exact hstep _ w (List.mem_cons_of_mem _ hmem)

theorem addressedBy_append_singleton {writes : List (List String × Value)}
    {w : List String × Value} {name : String} :
    AddressedBy (writes ++ [w]) name ↔ AddressedBy writes name ∨ addressedName? w.1 = some name := by
  simp [AddressedBy, or_and_right, exists_or]

/-- What laying keeps, with the names that it adds, writing keeps with the names that are addressed. -/
theorem writeAll_named {H : Entries → (String → Prop) → Prop} {layers merged : Entries}
    {names : String → Prop} {writes : List (List String × Value)}
    (htree : ∀ lower names, H lower names → lower.IsTree)
    (hlay : ∀ lower upper laid names added, H lower names → Addressing upper added →
      lower.lay upper = .ok laid → H laid fun name => names name ∨ added name)
    (hw : ∀ w ∈ writes, ∃ s, w.2 = .text s) (hp : ∀ w ∈ writes, w.1 ≠ [clustersKey])
    (hl : H layers names) (h : layers.writeAll writes = .ok merged) :
    H merged fun name => names name ∨ AddressedBy writes name := by
  refine writeAll_induction (P := fun done lower => H lower fun name =>
    names name ∨ AddressedBy done name) (fun _ _ => htree _ _) hw ?_
    (congr_names (P := H layers) hl (by simp [AddressedBy])) h
  intro done w hmem s lower laid hn hlaid
  have hstep := hlay _ _ _ _ _ hn (addressing_branch (hp w hmem) s) hlaid
  refine congr_names (P := H laid) hstep fun name => ?_
  rw [addressedBy_append_singleton, or_assoc]

theorem Addressing.writeAll {layer merged : Entries} {names : String → Prop}
    {writes : List (List String × Value)} (hl : Addressing layer names)
    (hw : ∀ w ∈ writes, ∃ s, w.2 = .text s) (hp : ∀ w ∈ writes, w.1 ≠ [clustersKey])
    (h : layer.writeAll writes = .ok merged) :
    Addressing merged fun name => names name ∨ AddressedBy writes name :=
  writeAll_named (fun _ _ ha => ha.1) (fun _ _ _ _ _ => Addressing.lay) hw hp hl h

theorem addressing_environmentLayer {environment : List (String × String)} {layer : Entries}
    (hp : ∀ w ∈ variableWrites environment, w.1 ≠ [clustersKey])
    (h : environmentLayer environment = .ok layer) :
    Addressing layer (AddressedBy (variableWrites environment)) := by
  have hnil : Addressing [] fun _ => False := ⟨Entries.isTree_nil, Or.inl ⟨rfl, by simp⟩⟩
  refine (hnil.writeAll (fun w => variableWrites_text) hp h).congr fun name => ?_
  rw [false_or]

/-! ### How many clusters are read -/

theorem length_clustersFrom {place : Nat} {items : List Value} {cs : List Cluster}
    (h : Config.clustersFrom place items = .ok cs) : cs.length = items.length := by
  induction items generalizing place cs with
  | nil =>
    cases h
    rfl
  | cons item rest ih =>
    rw [Config.clustersFrom, bind_eq_ok] at h
    obtain ⟨c, -, h⟩ := h
    obtain ⟨cs', hcs, h⟩ := bind_eq_ok.1 h
    cases h
    rw [List.length_cons, List.length_cons, ih hcs]

theorem length_clustersOf_map {entries : Entries} {anchor : Option Nat} {cs : List Cluster}
    (h : Config.clustersOf (.map entries anchor) = .ok cs) : cs.length = entries.length := by
  obtain ⟨items, hitems, hcs⟩ := bind_eq_ok.1 h
  rw [length_clustersFrom hcs, length_mapM_ok hitems]

theorem length_resolveItems (lookup : String → Option String) (items : List Value) :
    (resolveItems lookup items).length = items.length := by
  rw [resolveItems_eq_map, List.length_map]

theorem length_clustersOf_list {lookup : Option (String → Option String)} {items : List Value}
    {cs : List Cluster} (h : Config.clustersOf (Config.readBy lookup (.list items)) = .ok cs) :
    cs.length = items.length := by
  cases lookup with
  | none => exact length_clustersFrom h
  | some lookup => exact (length_clustersFrom h).trans (length_resolveItems lookup items)

theorem length_resolveEntries (lookup : String → Option String) (entries : Entries) :
    (resolveEntries lookup entries).length = entries.length := by
  rw [resolveEntries_eq_map, List.length_map]

/-- The mapping from names as which clusters are merged and, where it is a list, the list: as many
clusters are read from them as the mapping has entries. -/
structure ReadAs (clusters : Value) (byName : Entries) : Prop where
  isTree : byName.IsTree
  below : mappingBelow (.text clustersKey) (some clusters) = .ok (some (byName, none))
  counted : ∀ lookup cs, Config.clustersOf (Config.readBy lookup clusters) = .ok cs →
    cs.length = byName.length

theorem readAs_map {byName : Entries} (h : byName.IsTree) :
    ReadAs (.map byName none) byName := by
  refine ⟨h, rfl, fun lookup cs hcs => ?_⟩
  cases lookup with
  | none => exact length_clustersOf_map hcs
  | some lookup => exact (length_clustersOf_map hcs).trans (length_resolveEntries lookup byName)

theorem readAs_list {items : List Value} {names : List String} (ht : ∀ v ∈ items, v.IsTree)
    (hnames : listedNames 0 items = .ok names) (hd : (names.map Text.lowercase).Nodup) :
    ReadAs (.list items) (underKeys (names.map Text.lowercase) items) := by
  have hby := clustersByName_eq hnames hd
  have hlen : (underKeys (names.map Text.lowercase) items).length = items.length := by
    rw [underKeys, List.length_zipWith, List.length_map, length_listedNames hnames, Nat.min_self]
  refine ⟨clustersByName_isTree ht hby, ?_, fun lookup cs hcs => ?_⟩
  · rw [mappingBelow, isClustersKey_clustersKey, if_pos rfl, hby]
    rfl
  · rw [hlen, length_clustersOf_list hcs]

theorem ReadAs.layOver {clusters : Value} {byName upper : Entries} (h : ReadAs clusters byName)
    (hc : clusters.IsTree) (hu : upper.IsTree) :
    layOver (.text clustersKey) (some clusters) (.map upper none) =
      (byName.lay upper).map fun merged => .map merged none := by
  have hcurrent : ∀ c, some clusters = some c → c.IsTree := by
    rintro c ⟨⟩
    exact hc
  rw [layOver_map hcurrent hu, h.below]
  rfl

/-- That the clusters of layers are read as a mapping from given names. -/
def Naming (layers : Entries) (names : String → Prop) : Prop :=
  layers.IsTree ∧ ∃ clusters byName, layers.get? (.text clustersKey) = some clusters ∧
    ReadAs clusters byName ∧ byName.TextKeys ∧ ∀ name, names name ↔ byName.HasKey name

theorem Naming.congr {layers : Entries} {names names' : String → Prop}
    (h : Naming layers names) (heq : ∀ name, names' name ↔ names name) :
    Naming layers names' :=
  congr_names (P := Naming layers) h heq

theorem Naming.lay {lower upper merged : Entries} {names added : String → Prop}
    (hl : Naming lower names) (hu : Addressing upper added) (h : lower.lay upper = .ok merged) :
    Naming merged fun name => names name ∨ added name := by
  obtain ⟨hlt, clusters, byName, hclusters, hread, hkeys, hnames⟩ := hl
  obtain ⟨hut, hupper⟩ := hu
  refine ⟨lay_isTree hlt hut h, ?_⟩
  rcases hupper with ⟨hnone, hadded⟩ | ⟨content, hcontent, hcontentKeys, hadded⟩
  · refine ⟨clusters, byName, ?_, hread, hkeys, by simpa [hadded] using hnames⟩
    rw [get?_lay_of_none hlt hut h hnone, hclusters]
  · have hct : content.IsTree := (Value.isTree_map_iff.1 (hut.get? hcontent)).2
    obtain ⟨m, hm, hget⟩ := get?_clusters_lay hlt hut h hcontent hclusters hread.below
    refine ⟨_, m, hget, readAs_map (lay_isTree hread.isTree hct hm),
      textKeys_lay hread.isTree hct hkeys hcontentKeys hm, fun name => ?_⟩
    rw [hasKey_lay hread.isTree hct hm]
    exact or_congr (hnames name) (hadded name)

theorem Naming.writeAll {layers merged : Entries} {names : String → Prop}
    {writes : List (List String × Value)} (hl : Naming layers names)
    (hw : ∀ w ∈ writes, ∃ s, w.2 = .text s) (hp : ∀ w ∈ writes, w.1 ≠ [clustersKey])
    (h : layers.writeAll writes = .ok merged) :
    Naming merged fun name => names name ∨ AddressedBy writes name :=
  writeAll_named (fun _ _ hn => hn.1) (fun _ _ _ _ _ => Naming.lay) hw hp hl h

theorem clustersOf_of_ofLayers {lookup : Option (String → Option String)} {layers : Entries}
    {clusters : Value} {config : Config} (hget : layers.get? (.text clustersKey) = some clusters)
    (h : Config.ofLayers lookup layers = .ok config) :
    Config.clustersOf (Config.readBy lookup clusters) = .ok config.clusters := by
  obtain ⟨entries, hentries, hat⟩ := Config.readBy_map lookup layers
  rw [Config.ofLayers, hentries] at h
  have hcs := (Config.ofValue_eq_ok_iff.1 h).2.2
  rwa [Config.valueAt_clusters (v := Config.readBy lookup clusters)] at hcs
  rw [hat, hget]
  rfl

theorem Naming.length_clusters {layers : Entries} {names : String → Prop} (hn : Naming layers names)
    {lookup : Option (String → Option String)} {config : Config}
    (h : Config.ofLayers lookup layers = .ok config) {all : Finset String}
    (hall : ∀ name, name ∈ all ↔ names name) : config.clusters.length = all.card := by
  obtain ⟨-, clusters, byName, hget, hread, hkeys, hnames⟩ := hn
  rw [hread.counted lookup _ (clustersOf_of_ofLayers hget h)]
  exact (Entries.card_eq_length hkeys hread.isTree.1 fun name =>
    (hall name).trans (hnames name)).symm

end Tripwire
