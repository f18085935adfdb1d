import Tripwire.Proofs.Config.Forms

/-!
# Clusters that overrides leave alone

The first variable or override that addresses a cluster turns a list of clusters into the mapping from
their names in lower case. Entries with different names keep their places there, and what is written
below other names does not reach them; of entries with one name only the last is left.
-/

namespace Tripwire

/-! ### Places in a mapping -/

theorem getElem?_put {entries : Entries} {i : Nat} {k v : Value} (h : entries[i]? = some (k, v))
    (key x : Value) :
    ∃ w, (entries.put key x)[i]? = some (k, w) ∧ (k.sameKey key = false → w = v) := by
  induction entries generalizing i with
  | nil => simp at h
  | cons e rest ih =>
    obtain ⟨k', v'⟩ := e
    cases hk : k'.sameKey key with
    | true =>
      rw [Entries.put, if_pos hk]
      cases i with
      | zero =>
        cases h
        exact ⟨x, rfl, fun hne => by simp [hk] at hne⟩
      | succ i => exact ⟨v, h, fun _ => rfl⟩
    | false =>
      rw [Entries.put, if_neg (by simp [hk])]
      cases i with
      | zero =>
        cases h
        exact ⟨v, rfl, fun _ => rfl⟩
      | succ i => exact ih h

/-- Entries keep their places when others are laid over them, and their values where nothing is laid
under their keys. -/
theorem getElem?_lay {lower upper merged : Entries} (hl : lower.IsTree) (hu : upper.IsTree)
    (h : lower.lay upper = .ok merged) {i : Nat} {k v : Value} (hi : lower[i]? = some (k, v)) :
    ∃ w, merged[i]? = some (k, w) ∧ (upper.get? k = none → w = v) := by
  induction upper generalizing lower v with
  | nil =>
    cases h
    exact ⟨v, hi, fun _ => rfl⟩
  | cons e rest ih =>
    obtain ⟨key, x⟩ := e
    obtain ⟨-, hx, hrest⟩ := Entries.isTree_cons.1 hu
    rw [lay_cons hl hx, bind_eq_ok] at h
    obtain ⟨laid, hlaid, h⟩ := h
    obtain ⟨u, hput, hsame⟩ := getElem?_put hi key laid
    have ht := hl.put (layOver_isTree (hl.under _) hx hlaid) key
    obtain ⟨w, hw, hkept⟩ := ih ht hrest h hput
    refine ⟨w, hw, fun hnone => ?_⟩
    obtain ⟨hne, hnone⟩ := List.forall_mem_cons.1 (Entries.get?_eq_none.1 hnone)
    rw [Value.sameKey_comm] at hne
    rw [hkept (Entries.get?_eq_none.2 hnone), hsame hne]

/-! ### Layers over a list -/

/-- That a mapping has the entries of another one in their places, with entries for the names that were
addressed after them, and that an entry is as it was unless it was addressed. -/
structure Extends (byName : Entries) (names : String → Prop) (m : Entries) : Prop where
  isTree : m.IsTree
  textKeys : m.TextKeys
  hasKey : ∀ name, m.HasKey name ↔ byName.HasKey name ∨ names name
  places : ∀ (i : Nat) (key : String) (v : Value), byName[i]? = some (.text key, v) →
    ∃ w : Value, m[i]? = some (.text key, w) ∧ (¬names key → w = v)

theorem Extends.refl {byName : Entries} (ht : byName.IsTree) (hk : byName.TextKeys)
    {names : String → Prop} (hnames : ∀ name, ¬names name) : Extends byName names byName :=
  ⟨ht, hk, by simp [hnames], fun _ _ v hi => ⟨v, hi, fun _ => rfl⟩⟩

theorem Extends.lay {byName m content merged : Entries} {names added : String → Prop}
    (h : Extends byName names m) (hc : content.IsTree) (hck : content.TextKeys)
    (hadded : ∀ name, added name ↔ content.HasKey name) (hm : m.lay content = .ok merged) :
    Extends byName (fun name => names name ∨ added name) merged := by
  refine ⟨lay_isTree h.isTree hc hm, textKeys_lay h.isTree hc h.textKeys hck hm, fun name => ?_,
    fun i key v hi => ?_⟩
  · rw [hasKey_lay h.isTree hc hm, h.hasKey, hadded, or_assoc]
  · obtain ⟨u, hu, hsame⟩ := h.places i key v hi
    obtain ⟨w, hw, hkept⟩ := getElem?_lay h.isTree hc hm hu
    refine ⟨w, hw, fun hnot => ?_⟩
    obtain ⟨hnames, hnew⟩ := not_or.1 hnot
    rw [hadded, Entries.HasKey, Bool.not_eq_true, Option.isSome_eq_false_iff,
      Option.isNone_iff_eq_none] at hnew
    rw [hkept hnew, hsame hnames]

/-- That layers have clusters as a list as long as none was addressed, and then by their names. -/
def Overridden (items : List Value) (byName : Entries) (names : String → Prop) (layers : Entries) :
    Prop :=
  layers.IsTree ∧
    ((layers.get? (.text clustersKey) = some (.list items) ∧ ∀ name, ¬names name) ∨
      ∃ m, layers.get? (.text clustersKey) = some (.map m none) ∧ Extends byName names m)

section Overridden

variable {items : List Value} {byName layers merged : Entries} {names : String → Prop}

theorem Overridden.congr {names' : String → Prop} (h : Overridden items byName names layers)
    (heq : ∀ name, names' name ↔ names name) : Overridden items byName names' layers :=
  congr_names (P := fun names => Overridden items byName names layers) h heq

variable (hbelow : mappingBelow (.text clustersKey) (some (.list items)) = .ok (some (byName, none)))
  (hb : byName.IsTree) (hk : byName.TextKeys)
include hbelow hb hk

theorem Overridden.lay {upper : Entries} {added : String → Prop}
    (h : Overridden items byName names layers) (hu : Addressing upper added)
    (hm : layers.lay upper = .ok merged) :
    Overridden items byName (fun name => names name ∨ added name) merged := by
  obtain ⟨ht, hclusters⟩ := h
  obtain ⟨hut, ⟨hnone, hadded⟩ | ⟨content, hcontent, hck, hadded⟩⟩ := hu
  · have hsame : Overridden items byName names merged := by
      refine ⟨lay_isTree ht hut hm, ?_⟩
      rwa [get?_lay_of_none ht hut hm hnone]
    exact hsame.congr (by simp [hadded])
  · have hct : content.IsTree := (Value.isTree_map_iff.1 (hut.get? hcontent)).2
    refine ⟨lay_isTree ht hut hm, .inr ?_⟩
    obtain ⟨hlist, hnames⟩ | ⟨m, hmap, hext⟩ := hclusters
    · obtain ⟨r, hr, hget⟩ := get?_clusters_lay ht hut hm hcontent hlist hbelow
      exact ⟨r, hget, (Extends.refl hb hk hnames).lay hct hck hadded hr⟩
    · obtain ⟨r, hr, hget⟩ := get?_clusters_lay ht hut hm hcontent hmap rfl
      exact ⟨r, hget, hext.lay hct hck hadded hr⟩

theorem Overridden.writeAll {writes : List (List String × Value)}
    (h : Overridden items byName names layers) (hw : ∀ w ∈ writes, ∃ s, w.2 = .text s)
    (hp : ∀ w ∈ writes, w.1 ≠ [clustersKey]) (hm : layers.writeAll writes = .ok merged) :
    Overridden items byName (fun name => names name ∨ AddressedBy writes name) merged :=
  writeAll_named (H := fun layers names => Overridden items byName names layers)
    (fun _ _ ho => ho.1) (fun _ _ _ _ _ ho => ho.lay hbelow hb hk) hw hp h hm

theorem Overridden.layersOver {environment overrides : List (String × String)}
    (h : Overridden items byName names layers)
    (hv : ∀ w ∈ variableWrites environment, w.1 ≠ [clustersKey])
    (ho : ∀ w ∈ overrideWrites overrides, w.1 ≠ [clustersKey])
    (hm : layersOver layers environment overrides = .ok merged) :
    Overridden items byName
      (fun name => names name ∨ name ∈ addressed environment overrides) merged := by
  obtain ⟨layer, hlayer, hm⟩ := bind_eq_ok.1 hm
  obtain ⟨laid, hlaid, hm⟩ := bind_eq_ok.1 hm
  have hlay := h.lay hbelow hb hk (addressing_environmentLayer hv hlayer) hlaid
  refine (hlay.writeAll hbelow hb hk (fun w => overrideWrites_text) ho hm).congr fun name => ?_
  rw [mem_addressed, or_assoc]

end Overridden

/-! ### Clusters by their places -/

theorem getElem?_clustersFrom {place : Nat} {items : List Value} {cs : List Cluster}
    (h : Config.clustersFrom place items = .ok cs) {i : Nat} {item : Value} (hi : items[i]? = some item) :
    ∃ c, cs[i]? = some c ∧ Config.clusterOf (place + i) item = .ok c := by
  induction items generalizing place cs i with
  | nil => simp at hi
  | cons first rest ih =>
    obtain ⟨c, hc, h⟩ := bind_eq_ok.1 h
    obtain ⟨cs', hcs, h⟩ := bind_eq_ok.1 h
    cases h
    cases i with
    | zero =>
      cases hi
      exact ⟨c, rfl, hc⟩
    | succ i =>
      obtain ⟨c', hget, hc'⟩ := ih hcs hi
      refine ⟨c', hget, ?_⟩
      rwa [Nat.add_right_comm] at hc'

theorem getElem?_resolveItems (lookup : String → Option String) (items : List Value) (i : Nat) :
    (resolveItems lookup items)[i]? = items[i]?.map (Value.resolve lookup) := by
  rw [resolveItems_eq_map, List.getElem?_map]

theorem getElem?_resolveEntries (lookup : String → Option String) (entries : Entries) (i : Nat) :
    (resolveEntries lookup entries)[i]? =
      entries[i]?.map fun e => (e.1, e.2.resolve lookup) := by
  rw [resolveEntries_eq_map, List.getElem?_map]

namespace Config

variable {lookup : Option (String → Option String)} {cs : List Cluster} {i : Nat}

theorem getElem?_clustersOf_list {items : List Value}
    (h : clustersOf (readBy lookup (.list items)) = .ok cs) {item : Value} (hi : items[i]? = some item) :
    ∃ c, cs[i]? = some c ∧ clusterOf i (readBy lookup item) = .ok c := by
  have hfrom {read : List Value} (h : clustersFrom 0 read = .ok cs)
      (hi : read[i]? = some (readBy lookup item)) :
      ∃ c, cs[i]? = some c ∧ clusterOf i (readBy lookup item) = .ok c := by
    simpa using getElem?_clustersFrom h hi
  cases lookup with
  | none => exact hfrom h hi
  | some lookup => exact hfrom h (by rw [getElem?_resolveItems, hi]; rfl)

theorem getElem?_clustersOf_map {entries : Entries} {anchor : Option Nat}
    (h : clustersOf (readBy lookup (.map entries anchor)) = .ok cs) {key v : Value}
    (hi : entries[i]? = some (key, v)) :
    ∃ item c, namedEntry key (readBy lookup v) = .ok item ∧ cs[i]? = some c ∧
      clusterOf i item = .ok c := by
  have hof {read : Entries} {a : Option Nat} (h : clustersOf (.map read a) = .ok cs)
      (hi : read[i]? = some (key, readBy lookup v)) :
      ∃ item c, namedEntry key (readBy lookup v) = .ok item ∧ cs[i]? = some c ∧
        clusterOf i item = .ok c := by
    obtain ⟨named, hnamed, h⟩ := bind_eq_ok.1 h
    obtain ⟨item, hitem, hentry⟩ := getElem?_mapM_ok hnamed hi
    obtain ⟨c, hc, hcluster⟩ := getElem?_clustersFrom h hitem
    rw [Nat.zero_add] at hcluster
    exact ⟨item, c, hentry, hc, hcluster⟩
  cases lookup with
  | none => exact hof h hi
  | some lookup => exact hof h (by rw [getElem?_resolveEntries, hi]; rfl)

/-- An entry says the same in the list and under its name, at the same place. -/
theorem clusterOf_namedEntry {entry : Entries} {anchor : Option Nat} {name : String}
    (hd : entry.Distinct) (hname : clusterName entry i = .ok name) {item : Value}
    (hitem : namedEntry (.text (Text.lowercase name)) (readBy lookup (.map entry anchor)) = .ok item) :
    clusterOf i item = clusterOf i (readBy lookup (.map entry anchor)) := by
  have hof {read : Entries} {a : Option Nat} (hkeys : read.map (·.1) = entry.map (·.1))
      (hnone : read.get? (.text "name") = none → entry.get? (.text "name") = none)
      (hitem : namedEntry (.text (Text.lowercase name)) (.map read a) = .ok item) :
      clusterOf i item = clusterOf i (.map read a) := by
    cases hitem
    refine clusterOf_ofPairs_name (hd.of_keys hkeys) (fun h => ?_) a
    rw [clusterName, hnone h] at hname
    cases hname
    exact lowercase_placeName i
  cases lookup with
  | none => exact hof rfl id hitem
  | some lookup =>
    refine hof (map_fst_resolveEntries lookup entry) (fun h => ?_) hitem
    rw [get?_resolveEntries] at h
    exact Option.map_eq_none_iff.1 h

end Config

/-! ### What is kept -/

theorem getElem?_listedNames {place : Nat} {items : List Value} {names : List String}
    (h : listedNames place items = .ok names) {i : Nat} {name : String} (hi : names[i]? = some name) :
    ∃ entry anchor, items[i]? = some (.map entry anchor) ∧ clusterName entry (place + i) = .ok name := by
  induction items generalizing place names i with
  | nil =>
    cases h
    simp at hi
  | cons item rest ih =>
    obtain ⟨entry, anchor, first, names', rfl, hname, hrest, rfl⟩ := listedNames_cons h
    cases i with
    | zero =>
      cases hi
      exact ⟨entry, anchor, rfl, hname⟩
    | succ i =>
      obtain ⟨entry', anchor', hget, hname'⟩ := ih hrest hi
      refine ⟨entry', anchor', hget, ?_⟩
      rwa [Nat.add_right_comm] at hname'

/-- The mapping from the names of a list has just these names, whether or not they are different. -/
theorem exists_addByName {byName : Entries} {place : Nat} {items : List Value} {names : List String}
    (hk : byName.TextKeys) (h : listedNames place items = .ok names) :
    ∃ r, addByName byName place items = .ok r ∧ r.TextKeys ∧
      ∀ name, r.HasKey name ↔ byName.HasKey name ∨ name ∈ names.map Text.lowercase := by
  induction items generalizing byName place names with
  | nil =>
    cases h
    exact ⟨byName, rfl, hk, by simp⟩
  | cons item rest ih =>
    obtain ⟨entry, anchor, first, names', rfl, hname, hrest, rfl⟩ := listedNames_cons h
    obtain ⟨r, hr, hrk, hkeys⟩ := ih (hk.put (Text.lowercase first) (.map entry anchor)) hrest
    refine ⟨r, by rw [addByName, hname, ok_bind, hr], hrk, fun name => ?_⟩
    rw [hkeys, Entries.hasKey_put, List.map_cons, List.mem_cons, eq_comm, or_assoc, or_left_comm]

section Loads

variable {data : Entries} {items : List Value} {environment overrides : List (String × String)}
  {lookup : Option (String → Option String)} {config : Config} (ht : data.IsTree)
  (hlist : data.get? (.text clustersKey) = some (.list items))
include ht hlist

theorem clustersOf_without
    (hnone : ∀ w ∈ variableWrites environment ++ overrideWrites overrides,
      w.1.head? ≠ some clustersKey)
    (h : layersOver data environment overrides >>= Config.ofLayers lookup = .ok config) :
    Config.clustersOf (Config.readBy lookup (.list items)) = .ok config.clusters := by
  obtain ⟨hv, ho⟩ := List.forall_mem_append.1 hnone
  obtain ⟨merged, hm, h⟩ := bind_eq_ok.1 h
  obtain ⟨layer, hlayer, hm⟩ := bind_eq_ok.1 hm
  have hnot : layer.get? (.text clustersKey) = none :=
    (others_writeAll Entries.isTree_nil (fun w => variableWrites_text) hv).2 layer hlayer
  have hget := (get?_lay_writeAll ht (environmentLayer_isTree hlayer) (fun w => overrideWrites_text)
    ho hm).1 hnot
  exact clustersOf_of_ofLayers (hget.trans hlist) h

theorem clustersOf_with {names : List String} (hnames : listedNames 0 items = .ok names)
    (hpaths : ∀ w ∈ variableWrites environment ++ overrideWrites overrides, w.1 ≠ [clustersKey])
    (haddressed : (addressed environment overrides).Nonempty)
    (h : layersOver data environment overrides >>= Config.ofLayers lookup = .ok config) :
    ∃ byName m, clustersByName items = .ok byName ∧
      (∀ name, byName.HasKey name ↔ name ∈ names.map Text.lowercase) ∧
      Extends byName (fun name => name ∈ addressed environment overrides) m ∧
      Config.clustersOf (Config.readBy lookup (.map m none)) = .ok config.clusters := by
  obtain ⟨hv, ho⟩ := List.forall_mem_append.1 hpaths
  obtain ⟨merged, hm, h⟩ := bind_eq_ok.1 h
  have hempty : Entries.TextKeys [] := by simp [Entries.TextKeys]
  obtain ⟨byName, hby, hk, hkeys⟩ := exists_addByName hempty hnames
  have hbt : byName.IsTree := clustersByName_isTree (Value.isTree_list_iff.1 (ht.get? hlist)) hby
  have hbelow : mappingBelow (.text clustersKey) (some (.list items)) = .ok (some (byName, none)) := by
    rw [mappingBelow, isClustersKey_clustersKey, if_pos rfl, clustersByName, hby]
    rfl
  have hstart : Overridden items byName (fun _ => False) data := ⟨ht, .inl ⟨hlist, by simp⟩⟩
  have hmerged : Overridden items byName (fun name => name ∈ addressed environment overrides) merged :=
    (hstart.layersOver hbelow hbt hk hv ho hm).congr (by simp)
  obtain ⟨-, ⟨-, hnot⟩ | ⟨m, hget, hext⟩⟩ := hmerged
  · obtain ⟨name, hname⟩ := haddressed
    exact absurd hname (hnot name)
  · exact ⟨byName, m, hby, by simpa [Entries.not_hasKey_nil] using hkeys, hext,
      clustersOf_of_ofLayers hget h⟩

end Loads

/-- That there are no fewer clusters than before, and that those under other names than the given ones
are still there. -/
structure Keeps (keys : List String) (named : Finset String) (before after : List Cluster) : Prop where
  count : before.length ≤ after.length
  kept : ∀ (i : Nat) (key : String) (c : Cluster),
    keys[i]? = some key → key ∉ named → before[i]? = some c → c ∈ after

section Keeping

variable {items : List Value} {names : List String} {byName m : Entries} {named : Finset String}
  {lookup lookup' : Option (String → Option String)} {before after : List Cluster}
  (hnames : listedNames 0 items = .ok names)
  (hext : Extends byName (fun name => name ∈ named) m)
  (hafter : Config.clustersOf (Config.readBy lookup' (.map m none)) = .ok after)
include hext hafter

theorem length_extended (hkeys : ∀ name, byName.HasKey name ↔ name ∈ names.map Text.lowercase) :
    after.length = ((names.map Text.lowercase).toFinset ∪ named).card := by
  rw [(readAs_map hext.isTree).counted lookup' after hafter]
  refine (Entries.card_eq_length hext.textKeys hext.isTree.1 fun name => ?_).symm
  rw [Finset.mem_union, List.mem_toFinset, hext.hasKey, hkeys]

include hnames

/-- A cluster whose name is not addressed is read from the mapping as it is from the list, if the names
are different. -/
theorem getElem?_extended (ht : ∀ item ∈ items, item.IsTree) (hby : clustersByName items = .ok byName)
    (hd : (names.map Text.lowercase).Nodup)
    (hlookup : ∀ item ∈ items, Config.readBy lookup' item = Config.readBy lookup item)
    (hbefore : Config.clustersOf (Config.readBy lookup (.list items)) = .ok before)
    {i : Nat} {key : String} {c : Cluster} (hkey : (names.map Text.lowercase)[i]? = some key)
    (hnot : key ∉ named) (hc : before[i]? = some c) : after[i]? = some c := by
  obtain ⟨name, hname, rfl⟩ : ∃ name, names[i]? = some name ∧ Text.lowercase name = key := by
    simpa using hkey
  obtain ⟨entry, anchor, hitem, hcluster⟩ := getElem?_listedNames hnames hname
  rw [Nat.zero_add] at hcluster
  have hmem := List.mem_of_getElem? hitem
  have hplace : byName[i]? = some (.text (Text.lowercase name), .map entry anchor) := by
    rw [clustersByName_eq hnames hd, Except.ok.injEq] at hby
    rw [← hby, underKeys, List.getElem?_zipWith, hkey, hitem]
  obtain ⟨w, hw, hsame⟩ := hext.places i _ _ hplace
  obtain rfl := hsame hnot
  obtain ⟨item, new, hentry, hnew, hread⟩ := Config.getElem?_clustersOf_map hafter hw
  obtain ⟨old, hold, hread'⟩ := Config.getElem?_clustersOf_list hbefore hitem
  obtain rfl : old = c := Option.some.inj (hold.symm.trans hc)
  have hdistinct : Entries.Distinct entry := (Value.isTree_map_iff.1 (ht _ hmem)).2.1
  rw [Config.clusterOf_namedEntry hdistinct hcluster hentry, hlookup _ hmem] at hread
  rw [hnew, Except.ok.inj (hread.symm.trans hread')]

end Keeping

/-- An entry of a list with a name and an address. -/
def listedEntry (name url : String) : Value :=
  .map [(.text "name", .text name), (.text "url", .text url)] none

theorem isTree_listed {items : List Value} (h : ∀ item ∈ items, ∃ name url, item = listedEntry name url) :
    Entries.IsTree [(.text clustersKey, .list items)] := by
  refine Entries.isTree_singleton (Value.isTree_list_iff.2 fun item hitem => ?_)
  obtain ⟨name, url, rfl⟩ := h item hitem
  exact Value.isTree_map_iff.2 ⟨rfl, Entries.isTree_cons.2
    ⟨by simp, Value.isTree_text _, Entries.isTree_singleton (Value.isTree_text _)⟩⟩

/-- With variables and overrides that address clusters of a list by their names, the configuration has
one cluster for each of the names, those of the list in lower case and those that are addressed; so it
has no fewer than without them exactly if as many names are new as entries have the name of a later one.
If the names in the list are different in lower case, every cluster that is not addressed is at its place
as it was; and if only names in the list are addressed, clusters are kept in no other case. -/
theorem clusters_kept_if_names_differ {shared loc data : Entries} {items : List Value}
    {names : List String} {environment overrides environment' overrides' : List (String × String)}
    {lookup lookup' : Option (String → Option String)} {before after : Config}
    (hfiles : fileLayers shared loc = .ok data) (ht : data.IsTree)
    (hlist : data.get? (.text clustersKey) = some (.list items))
    (hnames : listedNames 0 items = .ok names)
    (hnone : ∀ w ∈ variableWrites environment ++ overrideWrites overrides,
      w.1.head? ≠ some clustersKey)
    (hpaths : ∀ w ∈ variableWrites environment' ++ overrideWrites overrides', w.1 ≠ [clustersKey])
    (haddressed : (addressed environment' overrides').Nonempty)
    (hlookup : ∀ item ∈ items, Config.readBy lookup' item = Config.readBy lookup item)
    (hbefore : mergeLayers shared loc environment overrides >>= Config.ofLayers lookup = .ok before)
    (hafter : mergeLayers shared loc environment' overrides' >>= Config.ofLayers lookup' = .ok after) :
    let keys := names.map Text.lowercase
    let named := addressed environment' overrides'
    (before.clusters.length ≤ after.clusters.length ↔ keys.length ≤ (keys.toFinset ∪ named).card) ∧
    (keys.Nodup → Keeps keys named before.clusters after.clusters ∧
      ∀ (i : Nat) (key : String) (c : Cluster), keys[i]? = some key → key ∉ named →
        before.clusters[i]? = some c → after.clusters[i]? = some c) ∧
    (named ⊆ keys.toFinset → (Keeps keys named before.clusters after.clusters ↔ keys.Nodup)) := by
  intro keys named
  rw [mergeLayers_eq_layersOver hfiles] at hbefore hafter
  have hold := clustersOf_without ht hlist hnone hbefore
  obtain ⟨byName, m, hby, hkeys, hext, hnew⟩ :=
    clustersOf_with ht hlist hnames hpaths haddressed hafter
  have hcount : before.clusters.length ≤ after.clusters.length ↔
      keys.length ≤ (keys.toFinset ∪ named).card := by
    rw [length_clustersOf_list hold, ← length_listedNames hnames, length_extended hext hnew hkeys,
      List.length_map]
  have hplaces (hd : keys.Nodup) (i : Nat) (key : String) (c : Cluster) (hkey : keys[i]? = some key)
      (hnot : key ∉ named) (hc : before.clusters[i]? = some c) : after.clusters[i]? = some c :=
    getElem?_extended hnames hext hnew (Value.isTree_list_iff.1 (ht.get? hlist)) hby hd hlookup hold
      hkey hnot hc
  have hkeeps (hd : keys.Nodup) : Keeps keys named before.clusters after.clusters := by
    refine ⟨hcount.2 ?_, fun i key c hkey hnot hc => ?_⟩
    · rw [← List.toFinset_card_of_nodup hd]
      exact Finset.card_le_card Finset.subset_union_left
    · exact List.mem_of_getElem? (hplaces hd i key c hkey hnot hc)
  refine ⟨hcount, fun hd => ⟨hkeeps hd, hplaces hd⟩, fun hsub => ⟨fun h => ?_, hkeeps⟩⟩
  have hle := hcount.1 h.count
  rw [Finset.union_eq_left.2 hsub] at hle
  exact Multiset.coe_nodup.1 (Multiset.toFinset_card_eq_card_iff_nodup.1
    (Nat.le_antisymm (List.toFinset_card_le keys) hle))

/-- One listed cluster gets a token from a variable and an override adds a third; the second is as it
was. -/
theorem second_cluster_is_kept :
    let items := [listedEntry "Main" "https://1", listedEntry "other" "https://2"]
    let files : Entries := [(.text clustersKey, .list items)]
    let environment := [("FAILFAST_CLUSTERS__MAIN__TOKEN", "t")]
    let overrides := [("clusters.extra.url", "https://3")]
    ∃ before after, mergeLayers [] files [] [] >>= Config.ofLayers none = .ok before ∧
      mergeLayers [] files environment overrides >>= Config.ofLayers none = .ok after ∧
      Keeps ["main", "other"] {"main", "extra"} before.clusters after.clusters ∧
      ∀ c, before.clusters[1]? = some c → after.clusters[1]? = some c := by
  intro items files environment overrides
  have hfiles : fileLayers [] files = .ok files := rfl
  have ht : files.IsTree := isTree_listed (by simp [items])
  have hlist : files.get? (.text clustersKey) = some (.list items) := rfl
  have hnames : listedNames 0 items = .ok ["Main", "other"] := rfl
  have hkeys : ["Main", "other"].map Text.lowercase = ["main", "other"] := by cbv
  have hvariables : variableWrites environment = [(["clusters", "main", "token"], .text "t")] := by cbv
  have hwrites : overrideWrites overrides = [(["clusters", "extra", "url"], .text "https://3")] := by cbv
  have hnamed : addressed environment overrides = {"main", "extra"} := by
    simp [addressed, hvariables, hwrites, addressedName?, clustersKey]
  obtain ⟨before, hbefore⟩ : ∃ c, mergeLayers [] files [] [] >>= Config.ofLayers none = .ok c := ⟨_, rfl⟩
  obtain ⟨after, hafter⟩ :
      ∃ c, mergeLayers [] files environment overrides >>= Config.ofLayers none = .ok c := by
    have henv : environmentLayer environment = .ok [(.text "clusters", .map [(.text "main",
        .map [(.text "token", .text "t")] none)] none)] := by
      rw [environmentLayer, hvariables]
      rfl
    rw [mergeLayers_eq_layersOver hfiles, layersOver, henv, hwrites]
    exact ⟨_, rfl⟩
  obtain ⟨-, hkept, -⟩ := clusters_kept_if_names_differ hfiles ht hlist hnames
    (by simp [variableWrites, overrideWrites]) (by simp [hvariables, hwrites]) (by simp [hnamed])
    (fun _ _ => rfl) hbefore hafter
  rw [hkeys, hnamed] at hkept
  obtain ⟨hkeeps, hplaces⟩ := hkept (by decide)
  exact ⟨before, after, hbefore, hafter, hkeeps, fun c => hplaces 1 "other" c rfl (by decide)⟩

/-- A variable for one of three clusters, of which two have the same name in lower case: there are two
clusters left. -/
theorem names_alike_lose_cluster :
    let items := [listedEntry "a" "https://1", listedEntry "A" "https://2", listedEntry "b" "https://3"]
    let files : Entries := [(.text clustersKey, .list items)]
    let environment := [("FAILFAST_CLUSTERS__B__TOKEN", "t")]
    ∃ names before after, listedNames 0 items = .ok names ∧
      mergeLayers [] files [] [] >>= Config.ofLayers none = .ok before ∧
      mergeLayers [] files environment [] >>= Config.ofLayers none = .ok after ∧
      ¬Keeps (names.map Text.lowercase) (addressed environment []) before.clusters after.clusters := by
  intro items files environment
  have hfiles : fileLayers [] files = .ok files := rfl
  have ht : files.IsTree := isTree_listed (by simp [items])
  have hlist : files.get? (.text clustersKey) = some (.list items) := rfl
  have hnames : listedNames 0 items = .ok ["a", "A", "b"] := rfl
  have hkeys : ["a", "A", "b"].map Text.lowercase = ["a", "a", "b"] := by cbv
  have hwrites : variableWrites environment = [(["clusters", "b", "token"], .text "t")] := by cbv
  have hnamed : addressed environment [] = {"b"} := by
    simp [addressed, hwrites, overrideWrites, addressedName?, clustersKey]
  obtain ⟨before, hbefore⟩ : ∃ c, mergeLayers [] files [] [] >>= Config.ofLayers none = .ok c := ⟨_, rfl⟩
  obtain ⟨after, hafter⟩ :
      ∃ c, mergeLayers [] files environment [] >>= Config.ofLayers none = .ok c := by
    have henv : environmentLayer environment = .ok [(.text "clusters", .map [(.text "b",
        .map [(.text "token", .text "t")] none)] none)] := by
      rw [environmentLayer, hwrites]
      rfl
    rw [mergeLayers_eq_layersOver hfiles, layersOver, henv]
    exact ⟨_, rfl⟩
  refine ⟨_, before, after, hnames, hbefore, hafter, fun h => ?_⟩
  rw [mergeLayers_eq_layersOver hfiles] at hbefore hafter
  have hold := clustersOf_without ht hlist (by simp [variableWrites, overrideWrites]) hbefore
  obtain ⟨byName, m, -, hhas, hext, hnew⟩ := clustersOf_with ht hlist hnames
    (by simp [hwrites, overrideWrites]) (by simp [hnamed]) hafter
  have hle := h.count
  rw [length_clustersOf_list hold, length_extended hext hnew hhas, hkeys, hnamed] at hle
  revert hle
  decide

end Tripwire
