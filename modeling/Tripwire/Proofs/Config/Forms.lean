import Tripwire.Proofs.Config.Called

/-!
# Two forms of clusters

The same clusters can be written as a list of entries with names and as a mapping from these names. A
variable or an override addresses an entry by its name in lower case in the first form, and by its name
as it is spelled in the second. So the two forms agree as long as every name that is addressed is both
or none, and part over a name that is only one of them: in the other form it makes a new cluster.
-/

namespace Tripwire

/-! ### The forms -/

/-- That a name, not the empty one, stands in an entry. -/
def NamedAs (name : String) (item : Value) : Prop :=
  name ≠ "" ∧ ∃ entry : Entries, item = .map entry none ∧
    entry.get? (.text "name") = some (.text name)

/-- Entries of clusters under their names, different in lower case, that can be written as a list and
as a mapping. -/
structure Spelled (names : List String) (items : List Value) : Prop where
  isTree : ∀ item ∈ items, item.IsTree
  named : List.Forall₂ NamedAs names items
  different : (names.map Text.lowercase).Nodup

def listForm (files : Entries) (items : List Value) : Entries :=
  files.put (.text clustersKey) (.list items)

def mappingForm (files : Entries) (names : List String) (items : List Value) : Entries :=
  files.put (.text clustersKey) (.map (underKeys names items) none)

theorem listedNames_of_named {names : List String} {items : List Value}
    (h : List.Forall₂ NamedAs names items) (place : Nat) :
    listedNames place items = .ok names := by
  induction h generalizing place with
  | nil => rfl
  | @cons name item _ _ hitem _ ih =>
    obtain ⟨hne, entry, rfl, hname⟩ := hitem
    have hcluster : clusterName entry place = .ok name := by
      rw [clusterName, hname]
      simp [Value.isTruthy, hne, Value.toText]
    rw [listedNames, hcluster, ok_bind, ih, ok_bind]
    rfl

namespace Spelled

variable {names : List String} {items : List Value} (h : Spelled names items)
include h

theorem listedNames : listedNames 0 items = .ok names := listedNames_of_named h.named 0

theorem length_eq : names.length = items.length := length_listedNames h.listedNames

theorem nodup : names.Nodup := List.Nodup.of_map _ h.different

theorem underKeys_isTree {keys : List String} (hlen : keys.length = items.length)
    (hd : keys.Nodup) : (underKeys keys items).IsTree := by
  refine ⟨underKeys_distinct hlen hd, fun e he => ?_⟩
  rw [underKeys, ← List.map_uncurry_zip_eq_zipWith] at he
  obtain ⟨⟨key, item⟩, hmem, rfl⟩ := List.mem_map.1 he
  exact h.isTree item (List.of_mem_zip hmem).2

end Spelled

theorem hasKey_underKeys {keys : List String} {items : List Value}
    (hlen : keys.length = items.length) (name : String) :
    (underKeys keys items).HasKey name ↔ name ∈ keys := by
  induction keys generalizing items with
  | nil => simp [underKeys, Entries.not_hasKey_nil]
  | cons key keys ih =>
    cases items with
    | nil => simp at hlen
    | cons item rest =>
      have hrest := ih (Nat.succ.inj hlen)
      rw [underKeys] at hrest ⊢
      rw [List.zipWith_cons_cons, Entries.hasKey_cons, hrest, List.mem_cons, eq_comm]

theorem textKeys_underKeys (keys : List String) (items : List Value) :
    (underKeys keys items).TextKeys := by
  intro e he
  rw [underKeys, ← List.map_uncurry_zip_eq_zipWith] at he
  obtain ⟨⟨key, item⟩, -, rfl⟩ := List.mem_map.1 he
  exact ⟨key, rfl⟩

theorem get?_listForm (files : Entries) (items : List Value) :
    (listForm files items).get? (.text clustersKey) = some (.list items) := by
  rw [listForm, Entries.get?_put_clusters]

theorem get?_mappingForm (files : Entries) (names : List String) (items : List Value) :
    (mappingForm files names items).get? (.text clustersKey) =
      some (.map (underKeys names items) none) := by
  rw [mappingForm, Entries.get?_put_clusters]

theorem naming_listForm {files : Entries} {names : List String} {items : List Value}
    (hf : files.IsTree) (h : Spelled names items) :
    Naming (listForm files items) fun name => name ∈ names.map Text.lowercase := by
  have hlen : (names.map Text.lowercase).length = items.length := by
    rw [List.length_map, h.length_eq]
  exact ⟨hf.put (Value.isTree_list_iff.2 h.isTree) _, .list items, _, get?_listForm files items,
    readAs_list h.isTree h.listedNames h.different, textKeys_underKeys _ _,
    fun name => (hasKey_underKeys hlen name).symm⟩

theorem naming_mappingForm {files : Entries} {names : List String} {items : List Value}
    (hf : files.IsTree) (h : Spelled names items) :
    Naming (mappingForm files names items) fun name => name ∈ names := by
  have ht := h.underKeys_isTree h.length_eq h.nodup
  exact ⟨hf.put (Value.isTree_map_iff.2 ⟨rfl, ht⟩) _, _, _, get?_mappingForm files names items,
    readAs_map ht, textKeys_underKeys _ _, fun name => (hasKey_underKeys h.length_eq name).symm⟩

theorem keyed_of_named {names : List String} {items : List Value}
    (h : List.Forall₂ NamedAs names items)
    (ht : ∀ item ∈ items, item.IsTree) (place : Nat) :
    Keyed place items (underKeys names items) := by
  induction h generalizing place with
  | nil => exact .nil
  | @cons name item _ _ hitem _ ih =>
    obtain ⟨hfirst, hrest⟩ := List.forall_mem_cons.1 ht
    obtain ⟨-, entry, rfl, hname⟩ := hitem
    refine .cons (Value.isTree_map_iff.1 hfirst).2.1 (fun hnone => ?_) (ih hrest (place + 1))
    rw [hname] at hnone
    cases hnone

/-- Entries under their names in lower case and under their names as spelled, where no name that is
spelled otherwise is fixed in either spelling. -/
theorem rekeyed_of_named {fixed : String → Prop} {names : List String} {items : List Value}
    (h : List.Forall₂ NamedAs names items)
    (hfixed : ∀ name ∈ names, Text.lowercase name ≠ name →
      ¬ fixed (Text.lowercase name) ∧ ¬ fixed name) :
    Rekeyed fixed (underKeys (names.map Text.lowercase) items) (underKeys names items) := by
  induction h with
  | nil => exact .nil
  | @cons name item _ _ hitem _ ih =>
    obtain ⟨hfirst, hrest⟩ := List.forall_mem_cons.1 hfixed
    refine .cons ?_ (ih hrest)
    by_cases hlow : Text.lowercase name = name
    · rw [hlow]
      exact .same _ _
    · obtain ⟨hl, hn⟩ := hfirst hlow
      obtain ⟨-, entry, rfl, hname⟩ := hitem
      exact .other hl hn ⟨entry, rfl, Entries.hasKey_iff.2 ⟨_, hname⟩⟩

theorem paired_forms {fixed : String → Prop} {files : Entries} {names : List String}
    {items : List Value} (hf : files.IsTree) (h : Spelled names items)
    (hfixed : ∀ name ∈ names, Text.lowercase name ≠ name →
      ¬ fixed (Text.lowercase name) ∧ ¬ fixed name) :
    Paired fixed (listForm files items) (mappingForm files names items) := by
  have hkeyed := keyed_of_named h.named h.isTree 0
  refine ⟨(naming_listForm hf h).1, (naming_mappingForm hf h).1, ?_, .list items, _, _, _,
    get?_listForm files items, get?_mappingForm files names items,
    readAs_list h.isTree h.listedNames h.different,
    readAs_map (h.underKeys_isTree h.length_eq h.nodup), rekeyed_of_named h.named hfixed,
    fun lookup => (hkeyed.sameClusters none lookup).symm⟩
  rw [listForm, mappingForm, Entries.others_put_of_clusters isClustersKey_clustersKey,
    Entries.others_put_of_clusters isClustersKey_clustersKey]

/-- Names under which clusters are written, each with the key that its entry stands under. -/
def owners (key : String → String) (names : List String) : List (Value × Option Value) :=
  names.map fun name => (.text (key name), some (.text name))

theorem map_fst_owners (key : String → String) (names : List String) :
    (owners key names).map (·.1) = (names.map key).map .text := by
  rw [owners, List.map_map, List.map_map]
  rfl

theorem map_nameOrKey_owners (key : String → String) (names : List String)
    (lookup : Option (String → Option String)) :
    (owners key names).map (nameOrKey lookup) = names.map fun name => Config.readBy lookup (.text name) := by
  rw [owners, List.map_map]
  rfl

theorem owned_of_named {names : List String} {items : List Value}
    (h : List.Forall₂ NamedAs names items) (key : String → String) :
    Owned (underKeys (names.map key) items) (owners key names) := by
  induction h with
  | nil => exact .nil
  | @cons name item _ _ hitem _ ih =>
    obtain ⟨-, entry, rfl, hname⟩ := hitem
    exact .cons hname ih

theorem calling_mappingForm {files : Entries} {names : List String} {items : List Value}
    (hf : files.IsTree) (h : Spelled names items) :
    Calling (mappingForm files names items) (owners id names) := by
  have ht := h.underKeys_isTree h.length_eq h.nodup
  have howned := owned_of_named h.named id
  rw [List.map_id] at howned
  refine ⟨(naming_mappingForm hf h).1, _, _, [], get?_mappingForm files names items,
    readAs_map ht, ?_⟩
  rw [nameless, List.map_nil, List.append_nil]
  exact ⟨howned, howned.called ht⟩

theorem calling_listForm {files : Entries} {names : List String} {items : List Value}
    (hf : files.IsTree) (h : Spelled names items) :
    Calling (listForm files items) (owners Text.lowercase names) := by
  refine ⟨(naming_listForm hf h).1, .list items, _, [], get?_listForm files items,
    readAs_list h.isTree h.listedNames h.different, ?_⟩
  rw [nameless, List.map_nil, List.append_nil]
  refine ⟨owned_of_named h.named Text.lowercase, fun lookup cs hcs => ?_⟩
  have howned := owned_of_named h.named id
  rw [List.map_id] at howned
  have hcalled := howned.called (h.underKeys_isTree h.length_eq h.nodup)
  rw [← (keyed_of_named h.named h.isTree 0).sameClusters none lookup] at hcs
  rw [map_nameOrKey_owners, ← map_nameOrKey_owners id]
  exact hcalled lookup cs hcs

/-! ### When they agree -/

/-- That two readings give the same clusters, or both fail. -/
def Agree : Except Fault Config → Except Fault Config → Prop
  | .ok a, .ok b => a.clusters = b.clusters
  | .error _, .error _ => True
  | _, _ => False

theorem agree_refl (x : Except Fault Config) : Agree x x := by
  cases x with
  | error f => exact trivial
  | ok c => exact rfl

section Addressed

variable (names : List String) (environment overrides : List (String × String))

/-- The names of clusters that variables and overrides address. -/
def addressed : Finset String :=
  ((variableWrites environment ++ overrideWrites overrides).filterMap
    fun w => addressedName? w.1).toFinset

/-- The names that are addressed and belong to a cluster in the list only. -/
def onlyListed : Finset String :=
  (addressed environment overrides).filter fun name =>
    name ∈ (names.map Text.lowercase).toFinset ∧ name ∉ names.toFinset

/-- The names that are addressed and belong to a cluster in the mapping only. -/
def onlyMapped : Finset String :=
  (addressed environment overrides).filter fun name =>
    name ∈ names.toFinset ∧ name ∉ (names.map Text.lowercase).toFinset

theorem mem_addressed {name : String} : name ∈ addressed environment overrides ↔
    AddressedBy (variableWrites environment) name ∨ AddressedBy (overrideWrites overrides) name := by
  simp only [addressed, List.mem_toFinset, List.mem_filterMap, AddressedBy, List.mem_append]
  constructor
  · rintro ⟨w, hw | hw, h⟩
    · exact Or.inl ⟨w, hw, h⟩
    · exact Or.inr ⟨w, hw, h⟩
  · rintro (⟨w, hw, h⟩ | ⟨w, hw, h⟩)
    · exact ⟨w, Or.inl hw, h⟩
    · exact ⟨w, Or.inr hw, h⟩

variable {names} {environment} {overrides}

/-- If every addressed name belongs to clusters of both forms or of none, then no name that is spelled
with capitals is addressed, neither as it is spelled nor in lower case. -/
theorem not_addressed_of_capitals (hd : (names.map Text.lowercase).Nodup)
    (hl : onlyListed names environment overrides = ∅)
    (hm : onlyMapped names environment overrides = ∅) {name : String} (hname : name ∈ names)
    (hcapital : Text.lowercase name ≠ name) :
    Text.lowercase name ∉ addressed environment overrides ∧
      name ∉ addressed environment overrides := by
  -- No two names are the same in lower case, so a name with capitals has none beside it.
  have hinj := List.inj_on_of_nodup_map hd
  constructor
  · intro ha
    have hlow : Text.lowercase name ∈ names := by
      by_contra hnot
      have hmem : Text.lowercase name ∈ onlyListed names environment overrides := by
        simp only [onlyListed, Finset.mem_filter, List.mem_toFinset]
        exact ⟨ha, List.mem_map_of_mem hname, hnot⟩
      rw [hl] at hmem
      cases hmem
    exact hcapital (hinj hlow hname (Text.lowercase_lowercase name))
  · intro ha
    have hlow : name ∈ names.map Text.lowercase := by
      by_contra hnot
      have hmem : name ∈ onlyMapped names environment overrides := by
        simp only [onlyMapped, Finset.mem_filter, List.mem_toFinset]
        exact ⟨ha, hname, hnot⟩
      rw [hm] at hmem
      cases hmem
    obtain ⟨other, -, rfl⟩ := List.mem_map.1 hlow
    exact hcapital (Text.lowercase_lowercase other)

/-- If every addressed name belongs to clusters of both forms or of none, the forms give the same
configuration or the same fault. -/
theorem forms_eq {files : Entries} {items : List Value} (hf : files.IsTree)
    (h : Spelled names items) (hv : ∀ w ∈ variableWrites environment, w.1 ≠ [clustersKey])
    (ho : ∀ w ∈ overrideWrites overrides, w.1 ≠ [clustersKey])
    (hl : onlyListed names environment overrides = ∅)
    (hm : onlyMapped names environment overrides = ∅)
    (lookup : Option (String → Option String)) :
    layersOver (listForm files items) environment overrides >>= Config.ofLayers lookup =
      layersOver (mappingForm files names items) environment overrides >>=
        Config.ofLayers lookup := by
  have hpaired : Paired (fun name => name ∈ addressed environment overrides)
      (listForm files items) (mappingForm files names items) :=
    paired_forms hf h fun name => not_addressed_of_capitals h.different hl hm
  have halike := hpaired.layersOver hv ho fun name hname =>
    (mem_addressed environment overrides).2 hname
  exact halike.ofLayers_eq lookup

/-- When the configuration is read from both forms, the list has more clusters by the names that are
addressed in the mapping only, and fewer by those that are addressed in the list only. -/
theorem length_forms {files : Entries} {items : List Value} (hf : files.IsTree)
    (h : Spelled names items) (hv : ∀ w ∈ variableWrites environment, w.1 ≠ [clustersKey])
    (ho : ∀ w ∈ overrideWrites overrides, w.1 ≠ [clustersKey])
    {lookup : Option (String → Option String)} {a b : Config}
    (ha : layersOver (listForm files items) environment overrides >>= Config.ofLayers lookup = .ok a)
    (hb : layersOver (mappingForm files names items) environment overrides >>=
      Config.ofLayers lookup = .ok b) :
    a.clusters.length + (onlyListed names environment overrides).card =
      b.clusters.length + (onlyMapped names environment overrides).card := by
  obtain ⟨m, hm, ha⟩ := bind_eq_ok.1 ha
  obtain ⟨n, hn, hb⟩ := bind_eq_ok.1 hb
  have hall (base : List String) (name : String) :
      name ∈ base.toFinset ∪ addressed environment overrides ↔
        name ∈ base ∨ AddressedBy (variableWrites environment) name ∨
          AddressedBy (overrideWrites overrides) name := by
    rw [Finset.mem_union, List.mem_toFinset, mem_addressed]
  have hlist := ((naming_listForm hf h).layersOver hv ho hm).length_clusters ha (hall _)
  have hmap := ((naming_mappingForm hf h).layersOver hv ho hn).length_clusters hb (hall _)
  have hsize : (names.map Text.lowercase).toFinset.card = names.toFinset.card := by
    rw [List.toFinset_card_of_nodup h.different, List.toFinset_card_of_nodup h.nodup,
      List.length_map]
  rw [hlist, hmap]
  exact card_union_add_card_filter hsize

/-- When the same clusters are read from both forms, and nothing was written over an entry or its name,
no name was addressed in the mapping only. In the list its cluster would be called by that name, and in
the mapping none is called so but those in the entries. -/
theorem onlyMapped_eq_empty {files : Entries} {items : List Value} (hf : files.IsTree)
    (h : Spelled names items)
    (hv : ∀ w ∈ variableWrites environment, w.1 ≠ [clustersKey] ∧ ¬ Renames w.1)
    (ho : ∀ w ∈ overrideWrites overrides, w.1 ≠ [clustersKey] ∧ ¬ Renames w.1)
    {lookup : Option (String → Option String)} {a b : Config}
    (ha : layersOver (listForm files items) environment overrides >>= Config.ofLayers lookup = .ok a)
    (hb : layersOver (mappingForm files names items) environment overrides >>=
      Config.ofLayers lookup = .ok b) (hsame : a.clusters = b.clusters) :
    onlyMapped names environment overrides = ∅ := by
  obtain ⟨m, hm, ha⟩ := bind_eq_ok.1 ha
  obtain ⟨n, hn, hb⟩ := bind_eq_ok.1 hb
  have hv' := fun w hw => (hv w hw).1
  have ho' := fun w hw => (ho w hw).1
  obtain ⟨added, hcalls, hnames, -⟩ := ((calling_listForm hf h).layersOver hv ho hm).calls
    ((naming_listForm hf h).layersOver hv' ho' hm) ha
  obtain ⟨added', hcalls', -, hnew⟩ := ((calling_mappingForm hf h).layersOver hv ho hn).calls
    ((naming_mappingForm hf h).layersOver hv' ho' hn) hb
  rw [map_nameOrKey_owners] at hcalls hcalls'
  rw [map_fst_owners] at hnames hnew
  obtain ⟨calls, more, hfirst, hmore, heq⟩ := callsFrom_append hcalls
  obtain ⟨calls', more', hfirst', hmore', heq'⟩ := callsFrom_append hcalls'
  -- The clusters that were written are called alike in both forms, so those that were added are too.
  have hcallsEq : calls = calls' := Except.ok.inj (hfirst.symm.trans hfirst')
  have hmoreEq : more = more' := by
    rw [hsame, heq', ← hcallsEq] at heq
    exact (List.append_cancel_left heq).symm
  refine Finset.eq_empty_of_forall_notMem fun name hmem => ?_
  simp only [onlyMapped, Finset.mem_filter, List.mem_toFinset] at hmem
  obtain ⟨haddressed, hname, hlow⟩ := hmem
  have hin : name ∈ added := by
    rcases (hnames name).1 (Or.inr ((mem_addressed _ _).1 haddressed)) with hin | hin
    · exact absurd (by simpa using hin) hlow
    · exact hin
  have hne : name ≠ "" := by
    obtain ⟨i, hi, rfl⟩ := List.getElem_of_mem hname
    have hi' : i < items.length := h.length_eq ▸ hi
    exact (h.named.get hi hi').1
  have hcall := (mem_callsFrom hmore).1 hin hne
  rw [hmoreEq] at hcall
  rcases (mem_callsFrom hmore').2 hcall with hin' | ⟨i, rfl⟩
  · exact hnew name hin' (by simpa using hname)
  · exact hlow (List.mem_map.2 ⟨_, hname, lowercase_placeName i⟩)

theorem apart_of_same_clusters {files : Entries} {items : List Value} (hf : files.IsTree)
    (h : Spelled names items) (hv : ∀ w ∈ variableWrites environment, w.1 ≠ [clustersKey])
    (ho : ∀ w ∈ overrideWrites overrides, w.1 ≠ [clustersKey])
    {lookup : Option (String → Option String)} {a b : Config}
    (ha : layersOver (listForm files items) environment overrides >>= Config.ofLayers lookup = .ok a)
    (hb : layersOver (mappingForm files names items) environment overrides >>=
      Config.ofLayers lookup = .ok b) (hsame : a.clusters = b.clusters) :
    (onlyListed names environment overrides = ∅ ∧ onlyMapped names environment overrides = ∅) ∨
      (∃ w ∈ variableWrites environment ++ overrideWrites overrides, Renames w.1) ∧
        (onlyListed names environment overrides).card =
          (onlyMapped names environment overrides).card ∧
        onlyListed names environment overrides ≠ ∅ := by
  have hlength := length_forms hf h hv ho ha hb
  rw [hsame] at hlength
  have hcard := Nat.add_left_cancel hlength
  by_cases hempty : onlyListed names environment overrides = ∅
  · rw [hempty, Finset.card_empty] at hcard
    exact Or.inl ⟨hempty, Finset.card_eq_zero.1 hcard.symm⟩
  · refine Or.inr ⟨?_, hcard, hempty⟩
    by_contra hnone
    have hplain : ∀ w ∈ variableWrites environment ++ overrideWrites overrides, ¬ Renames w.1 :=
      fun w hw hr => hnone ⟨w, hw, hr⟩
    have hmapped := onlyMapped_eq_empty hf h
      (fun w hw => ⟨hv w hw, hplain w (List.mem_append_left _ hw)⟩)
      (fun w hw => ⟨ho w hw, hplain w (List.mem_append_right _ hw)⟩) ha hb hsame
    rw [hmapped, Finset.card_empty] at hcard
    exact hempty (Finset.card_eq_zero.1 hcard)

/-- The two forms give the same clusters or both fail exactly if every name that is addressed belongs to
clusters of both forms or of none, or both fail. Beyond that they agree only by accident: something was
written over an entry or its name, as many names are addressed in the list only as in the mapping only,
and the clusters have come to be the same. -/
theorem forms_agree_iff {files : Entries} {items : List Value} (hf : files.IsTree)
    (h : Spelled names items) (hv : ∀ w ∈ variableWrites environment, w.1 ≠ [clustersKey])
    (ho : ∀ w ∈ overrideWrites overrides, w.1 ≠ [clustersKey])
    (lookup : Option (String → Option String)) :
    let list := layersOver (listForm files items) environment overrides >>= Config.ofLayers lookup
    let mapping :=
      layersOver (mappingForm files names items) environment overrides >>= Config.ofLayers lookup
    Agree list mapping ↔
      (onlyListed names environment overrides = ∅ ∧ onlyMapped names environment overrides = ∅) ∨
      (∃ f g, list = .error f ∧ mapping = .error g) ∨
      ((∃ w ∈ variableWrites environment ++ overrideWrites overrides, Renames w.1) ∧
        (onlyListed names environment overrides).card =
          (onlyMapped names environment overrides).card ∧
        onlyListed names environment overrides ≠ ∅ ∧
        ∃ a b, list = .ok a ∧ mapping = .ok b ∧ a.clusters = b.clusters) := by
  intro list mapping
  constructor
  · intro hagree
    rcases hlist : list with f | a
    · rcases hmapping : mapping with g | b
      · exact Or.inr (Or.inl ⟨f, g, rfl, rfl⟩)
      · rw [hlist, hmapping] at hagree
        exact absurd hagree id
    · rcases hmapping : mapping with g | b
      · rw [hlist, hmapping] at hagree
        exact absurd hagree id
      · rw [hlist, hmapping] at hagree
        have hsame : a.clusters = b.clusters := hagree
        rcases apart_of_same_clusters hf h hv ho hlist hmapping hsame with hnone | ⟨hr, hcard, hne⟩
        · exact Or.inl hnone
        · exact Or.inr (Or.inr ⟨hr, hcard, hne, a, b, rfl, rfl, hsame⟩)
  · rintro (⟨hl, hm⟩ | ⟨f, g, hlist, hmapping⟩ | ⟨-, -, -, a, b, hlist, hmapping, hsame⟩)
    · have heq : list = mapping := forms_eq hf h hv ho hl hm lookup
      rw [heq]
      exact agree_refl mapping
    · rw [hlist, hmapping]
      exact trivial
    · rw [hlist, hmapping]
      exact hsame

end Addressed

theorem spelled_one (name : String) (h : name ≠ "") :
    Spelled [name] [.map [(.text "name", .text name), (.text "url", .text "https://m")] none] := by
  have hentry : Entries.IsTree [(.text "name", .text name), (.text "url", .text "https://m")] :=
    Entries.isTree_cons.2 ⟨by simp, Value.isTree_text _, Entries.isTree_singleton (Value.isTree_text _)⟩
  refine ⟨List.forall_mem_singleton.2 (Value.isTree_map_iff.2 ⟨rfl, hentry⟩), ?_, by simp⟩
  exact .cons ⟨h, _, rfl, rfl⟩ .nil

/-- A variable that addresses a cluster spelled in lower case sets its token in either form. -/
theorem lower_case_forms_agree :
    Agree
      (layersOver (listForm [] [.map [(.text "name", .text "master"),
          (.text "url", .text "https://m")] none])
        [("FAILFAST_CLUSTERS__MASTER__TOKEN", "abc")] [] >>= Config.ofLayers none)
      (layersOver (mappingForm [] ["master"] [.map [(.text "name", .text "master"),
          (.text "url", .text "https://m")] none])
        [("FAILFAST_CLUSTERS__MASTER__TOKEN", "abc")] [] >>= Config.ofLayers none) := by
  have hwrites : variableWrites [("FAILFAST_CLUSTERS__MASTER__TOKEN", "abc")] =
      [(["clusters", "master", "token"], .text "abc")] := by cbv
  have hlow : Text.lowercase "master" = "master" := by cbv
  refine (forms_agree_iff Entries.isTree_nil (spelled_one "master" (by decide)) ?_ ?_ none).2
    (Or.inl ⟨?_, ?_⟩)
  · rw [hwrites]
    simp
  · simp [overrideWrites]
  · simp [onlyListed, hlow]
  · simp [onlyMapped, hlow]

/-- The same variable for a cluster spelled with a capital sets its token in the list. In the mapping it
makes a second cluster, which has no address. -/
theorem mixed_case_forms_differ :
    Spelled ["Master"] [.map [(.text "name", .text "Master"), (.text "url", .text "https://m")] none] ∧
    ¬ Agree
      (layersOver (listForm [] [.map [(.text "name", .text "Master"),
          (.text "url", .text "https://m")] none])
        [("FAILFAST_CLUSTERS__MASTER__TOKEN", "abc")] [] >>= Config.ofLayers none)
      (layersOver (mappingForm [] ["Master"] [.map [(.text "name", .text "Master"),
          (.text "url", .text "https://m")] none])
        [("FAILFAST_CLUSTERS__MASTER__TOKEN", "abc")] [] >>= Config.ofLayers none) := by
  refine ⟨spelled_one "Master" (by decide), ?_⟩
  have hwrites : variableWrites [("FAILFAST_CLUSTERS__MASTER__TOKEN", "abc")] =
      [(["clusters", "master", "token"], .text "abc")] := by cbv
  have henv : environmentLayer [("FAILFAST_CLUSTERS__MASTER__TOKEN", "abc")] =
      .ok [(.text "clusters", .map [(.text "master",
        .map [(.text "token", .text "abc")] none)] none)] := by
    rw [environmentLayer, hwrites]
    rfl
  obtain ⟨c, hlist⟩ : ∃ c, layersOver (listForm [] [.map [(.text "name", .text "Master"),
        (.text "url", .text "https://m")] none])
      [("FAILFAST_CLUSTERS__MASTER__TOKEN", "abc")] [] >>= Config.ofLayers none = .ok c := by
    rw [layersOver, henv]
    exact ⟨_, rfl⟩
  have hmapping : layersOver (mappingForm [] ["Master"] [.map [(.text "name", .text "Master"),
        (.text "url", .text "https://m")] none])
      [("FAILFAST_CLUSTERS__MASTER__TOKEN", "abc")] [] >>= Config.ofLayers none =
        .error (.config .clusterWithoutUrl) := by
    rw [layersOver, henv]
    rfl
  rw [hlist, hmapping]
  exact id

end Tripwire
