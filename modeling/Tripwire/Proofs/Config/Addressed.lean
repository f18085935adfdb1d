import Tripwire.Proofs.Config.Listed

/-!
# A variable that addresses a listed cluster

Over data whose clusters are a list, a variable that addresses one of them acts as if its value had
been written in that cluster's entry. The two results do not look alike, one having the clusters in a
mapping and the other in a list, but the same configuration is read from both.
-/

namespace Tripwire

/-- The layers of the environment and of overrides put over what the files hold. -/
def layersOver (files : Entries) (environment overrides : List (String × String)) :
    Except Fault Entries := do
  let fromVariables ← environmentLayer environment
  let merged ← files.lay fromVariables
  merged.writeAll (overrideWrites overrides)

def fileLayers (shared loc : Entries) : Except Fault Entries := do
  let merged ← Entries.lay [] shared
  merged.lay loc

theorem mergeLayers_eq_layersOver {shared loc files : Entries}
    (h : fileLayers shared loc = .ok files) (environment overrides : List (String × String)) :
    mergeLayers shared loc environment overrides = layersOver files environment overrides := by
  obtain ⟨merged, hm, hf⟩ := bind_eq_ok.1 h
  rw [mergeLayers, hm, ok_bind, hf, ok_bind, layersOver]

/-- Data with the content of a listed cluster changed; if its mapping is shared, then in all its
places. -/
def Entries.setListed (data : Entries) (items : List Value) (i : Nat) (content : Entries)
    (anchor : Option Nat) : Entries :=
  (News.add [] anchor content).apply
    (data.put (.text clustersKey) (.list (items.set i (.map content anchor))))

/-- That each item's keys are different and that one anchor stands for one mapping. -/
structure Sound (items : List Value) : Prop where
  distinct : ∀ entry anchor, Value.map entry anchor ∈ items → Entries.Distinct entry
  shared : ∀ a b anchor, Value.map a (some anchor) ∈ items → Value.map b (some anchor) ∈ items →
    a = b

theorem Sound.of_isTree {items : List Value} (h : ∀ v ∈ items, v.IsTree) : Sound items := by
  refine ⟨fun entry anchor he => ?_, fun a b anchor ha => ?_⟩
  · exact (Value.isTree_map_iff.1 (h _ he)).2.1
  · exact absurd (Value.isTree_map_iff.1 (h _ ha)).1 (by simp)

theorem layValue_listed {items : List Value} {byName entry : Entries} {anchor : Option Nat}
    {name : String} (hby : clustersByName items = .ok byName)
    (hget : byName.get? (.text name) = some (.map entry anchor)) (field v : String) :
    layValue [] (.text clustersKey) (some (.list items))
        (.map (Entries.branch (.text v) [name, field]) none) =
      .ok (.map ((News.add [] anchor (entry.put (.text field) (.text v))).apply
        (byName.put (.text name) (.map (entry.put (.text field) (.text v)) anchor))) none,
        News.add [] anchor (entry.put (.text field) (.text v))) := by
  have hbelow : mappingBelow (.text clustersKey) (some (.list items)) =
      .ok (some (byName, none)) := by
    rw [mappingBelow, isClustersKey_clustersKey, if_pos rfl, hby]
    rfl
  rw [Entries.branch, Entries.branch, layValue, hbelow, ok_bind]
  dsimp only
  rw [layEntries, hget, layValue, mappingBelow, ok_bind]
  rfl

/-- That a name in lower case is the one of the entry at a place of the listed clusters. -/
structure Addresses (name : String) (data : Entries) (items : List Value) (i : Nat)
    (entry : Entries) (anchor : Option Nat) : Prop where
  listed : data.get? (.text clustersKey) = some (.list items)
  names : ∃ names, listedNames 0 items = .ok names ∧ (names.map Text.lowercase).Nodup ∧
    (names.map Text.lowercase)[i]? = some name
  item : items[i]? = some (.map entry anchor)

section Addressed

variable {data entry : Entries} {items : List Value} {i : Nat} {anchor : Option Nat}
  {name : String}

theorem Addresses.byName (h : Addresses name data items i entry anchor) :
    ∃ byName, clustersByName items = .ok byName ∧ byName.Distinct ∧
      byName[i]? = some (.text name, .map entry anchor) ∧
      ((∀ entry anchor, Value.map entry anchor ∈ items → Entries.Distinct entry) →
        Keyed 0 items byName) := by
  obtain ⟨names, hnames, hd, hname⟩ := h.names
  have hlen : (names.map Text.lowercase).length = items.length := by
    rw [List.length_map, length_listedNames hnames]
  refine ⟨underKeys (names.map Text.lowercase) items, clustersByName_eq hnames hd,
    underKeys_distinct hlen hd, ?_, keyed_underKeys hnames⟩
  rw [underKeys, List.getElem?_zipWith, hname, h.item]

theorem keyed_put {byName content : Entries} (hk : Keyed 0 items byName) (hd : byName.Distinct)
    (hat : byName[i]? = some (.text name, .map entry anchor))
    (hitem : items[i]? = some (.map entry anchor)) (hc : content.Distinct)
    (hname : content.get? (.text "name") = none → entry.get? (.text "name") = none) :
    Keyed 0 (items.set i (.map content anchor))
      (byName.put (.text name) (.map content anchor)) := by
  rw [Entries.put_of_getElem? hd hat (by simp)]
  exact hk.set hitem hat hc hname

theorem get?_put_name {field v : String}
    (h : (entry.put (.text field) (.text v)).get? (.text "name") = none) :
    entry.get? (.text "name") = none := by
  rw [Entries.get?_put] at h
  split at h
  · cases h
  · exact h

/-- The mapping and the list stay in step when all places of a shared entry are brought up to date,
which the mapping is twice. -/
theorem keyed_applyValue {byName content : Entries} (hs : Sound items)
    (hitem : items[i]? = some (.map entry anchor)) (hc : content.Distinct)
    (hname : content.get? (.text "name") = none → entry.get? (.text "name") = none)
    (hk : Keyed 0 (items.set i (.map content anchor)) byName) :
    ∃ items' byName',
      (News.add [] anchor content).applyValue (.list (items.set i (.map content anchor))) =
        .list items' ∧
      (News.add [] anchor content).applyValue
        (.map ((News.add [] anchor content).apply byName) none) = .map byName' none ∧
      Keyed 0 items' byName' := by
  cases anchor with
  | none => exact ⟨_, _, rfl, rfl, hk⟩
  | some a =>
    have htwice : renewEntries a content (renewEntries a content byName) =
        renewEntries a content byName := renewEntries_renewEntries a content byName
    refine ⟨renewItems a content (items.set i (.map content (some a))),
      renewEntries a content byName, rfl, ?_, hk.renew hc fun other hother hnone => ?_⟩
    · simp [News.add, News.apply, News.applyValue, Value.renew, htwice]
    · rcases List.mem_or_eq_of_mem_set hother with hmem | heq
      · rw [hs.shared _ _ _ hmem (List.mem_of_getElem? hitem)]
        exact hname hnone
      · cases heq
        exact hnone

theorem lay_field_alone (h : Addresses name data items i entry anchor) (hs : Sound items)
    (field v : String) :
    ∃ merged, data.lay [(.text clustersKey, .map (Entries.branch (.text v) [name, field]) none)] =
        .ok merged ∧
      Config.Matches merged
        (data.setListed items i (entry.put (.text field) (.text v)) anchor) := by
  obtain ⟨byName, hby, hd, hat, hkeyed⟩ := h.byName
  have hget : byName.get? (.text name) = some (.map entry anchor) :=
    Entries.get?_of_getElem? hd hat (by simp)
  have hdistinct := hs.distinct entry anchor (List.mem_of_getElem? h.item)
  let content := entry.put (.text field) (.text v)
  let news := News.add [] anchor content
  have hcontent : content.Distinct := hdistinct.put _ _
  have hown : content.get? (.text "name") = none → entry.get? (.text "name") = none :=
    get?_put_name
  have hput := keyed_put (hkeyed hs.distinct) hd hat h.item hcontent hown
  obtain ⟨items', byName', hitems, hbyName, hboth⟩ :=
    keyed_applyValue hs h.item hcontent hown hput
  refine ⟨news.apply (data.put (.text clustersKey)
    (.map (news.apply (byName.put (.text name) (.map content anchor))) none)), ?_, ?_, ?_⟩
  · rw [Entries.lay, layEntries, h.listed, layValue_listed hby hget]
    rfl
  · rw [Entries.setListed, others_apply, others_apply,
      Entries.others_put_of_clusters isClustersKey_clustersKey,
      Entries.others_put_of_clusters isClustersKey_clustersKey]
  · refine ⟨.map byName' none, .list items', ?_, ?_, hboth.sameClusters none⟩
    · rw [get?_apply, Entries.get?_put_clusters, Option.map_some, hbyName]
    · rw [Entries.setListed, get?_apply, Entries.get?_put_clusters, Option.map_some, hitems]

theorem lay_field_among (h : Addresses name data items i entry anchor) (ht : data.IsTree)
    {layer : Entries} (hlayer : layer.IsTree) {field v : String}
    (hget : layer.get? (.text clustersKey) =
      some (.map (Entries.branch (.text v) [name, field]) none))
    {writes : List (List String × Value)} (hw : ∀ w ∈ writes, ∃ s, w.2 = .text s)
    (ho : ∀ w ∈ writes, w.1.head? ≠ some clustersKey) :
    Config.Alike (data.lay layer >>= fun merged => merged.writeAll writes)
      ((data.setListed items i (entry.put (.text field) (.text v)) anchor).lay layer.others >>=
        fun merged => merged.writeAll writes) := by
  obtain ⟨byName, hby, hd, hat, hkeyed⟩ := h.byName
  have hitems := Value.isTree_list_iff.1 (ht.get? h.listed)
  have hs := Sound.of_isTree hitems
  obtain ⟨rfl, hentry⟩ := Value.isTree_map_iff.1 (hitems _ (List.mem_of_getElem? h.item))
  let content := entry.put (.text field) (.text v)
  have hcontent : content.IsTree := hentry.put (Value.isTree_text v) _
  have hput := keyed_put (hkeyed hs.distinct) hd hat h.item hcontent.1 get?_put_name
  have hbyGet : byName.get? (.text name) = some (.map entry none) :=
    Entries.get?_of_getElem? hd hat (by simp)
  have hover : layOver (.text clustersKey) (data.get? (.text clustersKey))
      (.map (Entries.branch (.text v) [name, field]) none) =
        .ok (.map (byName.put (.text name) (.map content none)) none) := by
    rw [h.listed, layOver, layValue_listed hby hbyGet]
    rfl
  let data' := data.put (.text clustersKey) (.list (items.set i (.map content none)))
  have ht' : data'.IsTree := by
    refine ht.put (Value.isTree_list_iff.2 fun item hitem => ?_) _
    rcases List.mem_or_eq_of_mem_set hitem with hmem | rfl
    · exact hitems item hmem
    · exact Value.isTree_map_iff.2 ⟨rfl, hcontent⟩
  have hnone := layer.get?_clusters_others
  -- Apart from the clusters both sides are one; the clusters of each are known by themselves.
  refine Config.Alike.of_others ?_ (fun m hm => ?_) (fun m hm => ?_) (hput.sameClusters none)
  · have hokLayer : ∀ w, layer.get? (.text clustersKey) = some w → ∃ laid,
        layOver (.text clustersKey) (data.get? (.text clustersKey)) w = .ok laid := by
      intro w hv
      rw [hget, Option.some.injEq] at hv
      exact ⟨_, hv ▸ hover⟩
    rw [others_lay_writeAll ht hlayer hokLayer hw ho]
    refine (Eq.trans (others_lay_writeAll ht' hlayer.others (fun w hv => ?_) hw ho) ?_).symm
    · rw [hnone] at hv
      cases hv
    · rw [Entries.others_put_of_clusters isClustersKey_clustersKey, Entries.others_others]
  · exact (get?_lay_writeAll ht hlayer hw ho hm).2 _ _ hget hover
  · rw [(get?_lay_writeAll ht' hlayer.others hw ho hm).1 hnone, Entries.get?_put_clusters]

end Addressed

/-! ### The layer of the environment -/

theorem variableWrites_insert {var : String} {path : List String}
    (hpath : variablePath? var = some path) (hne : path ≠ []) (v : String)
    (before after : List (String × String)) :
    variableWrites (before ++ (var, v) :: after) =
      variableWrites before ++ (path, .text v) :: variableWrites after := by
  obtain ⟨key, rest, rfl⟩ := List.exists_cons_of_ne_nil hne
  rw [variableWrites, List.filterMap_append, List.filterMap_cons_some]
  · rfl
  · simp [hpath]

/-- A variable below the clusters, among others that do not address them, puts its tree under their
key and leaves the rest of the layer as it is without the variable. -/
theorem environmentLayer_insert {var next : String} {rest : List String}
    (hpath : variablePath? var = some (clustersKey :: next :: rest)) (v : String)
    {before after : List (String × String)}
    (ho : ∀ w ∈ variableWrites (before ++ after), w.1.head? ≠ some clustersKey) :
    (environmentLayer (before ++ (var, v) :: after)).map Entries.others =
        environmentLayer (before ++ after) ∧
      ∀ layer, environmentLayer (before ++ (var, v) :: after) = .ok layer →
        layer.get? (.text clustersKey) =
          some (.map (Entries.branch (.text v) (next :: rest)) none) := by
  have hwrites := variableWrites_insert hpath (by simp) v before after
  have hboth : variableWrites (before ++ after) = variableWrites before ++ variableWrites after :=
    List.filterMap_append
  rw [hboth] at ho
  obtain ⟨hob, hoa⟩ := List.forall_mem_append.1 ho
  have htb : ∀ w ∈ variableWrites before, ∃ s, w.2 = .text s := fun w => variableWrites_text
  have hta : ∀ w ∈ variableWrites after, ∃ s, w.2 = .text s := fun w => variableWrites_text
  rw [environmentLayer, environmentLayer, hwrites, hboth, writeAll_append, writeAll_append]
  rcases hfirst : Entries.writeAll [] (variableWrites before) with f | first
  · exact ⟨rfl, fun layer h => by cases h⟩
  · have htree : first.IsTree := environmentLayer_isTree hfirst
    have hnone : first.get? (.text clustersKey) = none :=
      (others_writeAll Entries.isTree_nil htb hob).2 first hfirst
    have hb : (Value.map (Entries.branch (.text v) (next :: rest)) none).IsTree :=
      Value.isTree_map_iff.2 ⟨rfl, branch_isTree (Value.isTree_text v) _⟩
    have hwrite : first.write (clustersKey :: next :: rest) (.text v) =
        .ok (first.put (.text clustersKey)
          (.map (Entries.branch (.text v) (next :: rest)) none)) := by
      rw [write_eq_lay htree (Value.isTree_text v) rfl, Entries.branch, lay_singleton htree hb, hnone,
        layOver_none hb]
      rfl
    obtain ⟨hmap, hget⟩ := others_writeAll (htree.put hb _) hta hoa
    rw [ok_bind, ok_bind, Entries.writeAll, hwrite, ok_bind]
    refine ⟨?_, fun layer h => ?_⟩
    · rw [hmap, Entries.others_put_of_clusters isClustersKey_clustersKey,
        Entries.others_eq_self hnone]
    · rw [hget layer h, Entries.get?_put_clusters]

/-- A variable that addresses a listed cluster by its name acts as if its value had been written in
that cluster's entry: with the same other variables and overrides, none of them at the clusters, the
same configuration is read, or there is the same fault. Where mappings of the data are shared, another
override may reach the clusters through one of them; so there the variable has to be alone. -/
theorem variable_sets_listed_cluster {shared loc data entry : Entries}
    {before after overrides : List (String × String)} {cluster field v : String}
    {items : List Value} {i : Nat} {anchor : Option Nat}
    (hfiles : fileLayers shared loc = .ok data)
    (haddr : Addresses (Text.lowercase cluster) data items i entry anchor)
    (hc : IsPart cluster) (hf : IsPart field)
    (hvariables : ∀ w ∈ variableWrites (before ++ after), w.1.head? ≠ some clustersKey)
    (hoverrides : ∀ w ∈ overrideWrites overrides, w.1.head? ≠ some clustersKey)
    (hdata : data.IsTree ∨
      (Sound items ∧ variableWrites (before ++ after) = [] ∧ overrides = []))
    (lookup : Option (String → Option String)) :
    mergeLayers shared loc (before ++ (clusterVariable cluster field, v) :: after) overrides >>=
        Config.ofLayers lookup =
      layersOver
          (data.setListed items i (entry.put (.text (Text.lowercase field)) (.text v)) anchor)
          (before ++ after) overrides >>=
        Config.ofLayers lookup := by
  have hpath := variablePath?_clusterVariable hc hf
  obtain ⟨hothers, hlayer⟩ := environmentLayer_insert hpath v hvariables
  rw [mergeLayers_eq_layersOver hfiles]
  refine Config.Alike.ofLayers_eq ?_ lookup
  rw [layersOver, layersOver, ← hothers]
  rcases henv : environmentLayer (before ++ (clusterVariable cluster field, v) :: after) with
    f | layer
  · exact rfl
  · have htree := environmentLayer_isTree henv
    have hget := hlayer layer henv
    rcases hdata with ht | ⟨hs, hnone, rfl⟩
    · exact lay_field_among haddr ht htree hget (fun w => overrideWrites_text) hoverrides
    · have hboth : variableWrites before ++ variableWrites after = [] :=
        List.filterMap_append.symm.trans hnone
      obtain ⟨hb, ha⟩ := List.append_eq_nil_iff.1 hboth
      have hlayerEq : layer = [(.text clustersKey, .map (Entries.branch (.text v)
          [Text.lowercase cluster, Text.lowercase field]) none)] := by
        rw [environmentLayer, variableWrites_insert hpath (by simp), hb, ha] at henv
        exact (Except.ok.inj henv).symm
      obtain ⟨merged, hmerged, hmatch⟩ := lay_field_alone haddr hs (Text.lowercase field) v
      rw [hlayerEq, ok_bind, hmerged]
      exact hmatch

/-- A variable in upper case sets the token of a cluster whose name is in mixed case. -/
theorem upper_case_variable_sets_token :
    mergeLayers []
        [(.text "clusters",
          .list [.map [(.text "name", .text "Master"), (.text "url", .text "m")] none])]
        ([] ++ (clusterVariable "MASTER" "TOKEN", "abc") :: []) [("settings.page_size", "7")] >>=
          Config.ofLayers none =
      layersOver
          [(.text "clusters", .list [.map [(.text "name", .text "Master"), (.text "url", .text "m"),
            (.text "token", .text "abc")] none])]
          ([] ++ []) [("settings.page_size", "7")] >>=
        Config.ofLayers none := by
  let entry : Entries := [(.text "name", .text "Master"), (.text "url", .text "m")]
  let data : Entries := [(.text "clusters", .list [.map entry none])]
  have hmaster : "MASTER".toList = ['M', 'A', 'S', 'T', 'E', 'R'] := by decide
  have htoken : "TOKEN".toList = ['T', 'O', 'K', 'E', 'N'] := by decide
  have hc : IsPart "MASTER" :=
    .of_chars hmaster (by decide) (by decide) (by decide) (by decide)
  have hf : IsPart "TOKEN" := .of_chars htoken (by decide) (by decide) (by decide) (by decide)
  have hvariables : ∀ w ∈ variableWrites ([] ++ []), w.1.head? ≠ some clustersKey := by
    simp [variableWrites]
  have hwrites : overrideWrites [("settings.page_size", "7")] =
      [(["settings", "page_size"], .text "7")] := by cbv
  have hoverrides : ∀ w ∈ overrideWrites [("settings.page_size", "7")],
      w.1.head? ≠ some clustersKey := by
    rw [hwrites]
    simp [clustersKey]
  have hentry : entry.IsTree := Entries.isTree_cons.2
    ⟨by simp, Value.isTree_text _, Entries.isTree_singleton (Value.isTree_text _)⟩
  have hitems : ∀ item ∈ [Value.map entry none], item.IsTree :=
    List.forall_mem_singleton.2 (Value.isTree_map_iff.2 ⟨rfl, hentry⟩)
  have hdata : data.IsTree := Entries.isTree_singleton (Value.isTree_list_iff.2 hitems)
  have haddr : Addresses (Text.lowercase "MASTER") data [.map entry none] 0 entry none :=
    ⟨rfl, ⟨["Master"], rfl, by simp, by decide⟩, rfl⟩
  have hfiles : fileLayers [] data = .ok data := rfl
  exact variable_sets_listed_cluster hfiles haddr hc hf hvariables hoverrides (Or.inl hdata) none

end Tripwire
