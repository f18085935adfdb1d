import Tripwire.Proofs.Config.Paired

/-!
# How clusters are called

A cluster is called by the name in its entry, or else by the key of the entry. Paths that write neither
an entry as a whole nor its name leave clusters called as they are, and call each cluster that they add
by its key.
-/

namespace Tripwire

/-! ### The names in entries -/

/-- Mappings under keys, each with the name that stands in it, if one does. -/
inductive Owned : Entries → List (Value × Option Value) → Prop where
  | nil : Owned [] []
  | cons {key : Value} {entry rest : Entries} {name : Option Value}
      {owned : List (Value × Option Value)} (own : entry.get? (.text "name") = name)
      (tail : Owned rest owned) : Owned ((key, .map entry none) :: rest) ((key, name) :: owned)

def nameless (keys : List String) : List (Value × Option Value) := keys.map fun key => (.text key, none)

namespace Owned

variable {entries : Entries} {owned : List (Value × Option Value)} {key : Value}

theorem map_fst (h : Owned entries owned) : entries.map (·.1) = owned.map (·.1) := by
  induction h with
  | nil => rfl
  | cons own tail ih => rw [List.map_cons, List.map_cons, ih]

theorem exists_of_get? (h : Owned entries owned) {v : Value} (hv : entries.get? key = some v) :
    ∃ entry, v = .map entry none := by
  induction h with
  | nil => cases hv
  | @cons k entry rest name owned own tail ih =>
    rw [Entries.get?_cons] at hv
    cases hk : k.sameKey key with
    | true =>
      rw [hk, if_pos rfl, Option.some.injEq] at hv
      exact ⟨entry, hv.symm⟩
    | false =>
      rw [hk] at hv
      exact ih hv

theorem append {more : Entries} {owned' : List (Value × Option Value)} (h : Owned entries owned)
    (h' : Owned more owned') : Owned (entries ++ more) (owned ++ owned') := by
  induction h with
  | nil => exact h'
  | cons own tail ih => exact .cons own ih

theorem put (h : Owned entries owned) {entry new : Entries}
    (hget : entries.get? key = some (.map entry none))
    (hname : new.get? (.text "name") = entry.get? (.text "name")) :
    Owned (entries.put key (.map new none)) owned := by
  induction h with
  | nil => cases hget
  | @cons k first rest name owned own tail ih =>
    rw [Entries.get?_cons] at hget
    rw [Entries.put]
    cases hk : k.sameKey key with
    | true =>
      rw [hk, if_pos rfl, Option.some.injEq, Value.map.injEq] at hget
      obtain ⟨rfl, -⟩ := hget
      exact .cons (hname.trans own) tail
    | false =>
      rw [hk] at hget
      exact .cons own (ih hget)

/-- Entries without names that are laid over others leave these their names, and are added without
names where they are new. -/
theorem lay {lower upper merged : Entries} {keys : List String} (hl : lower.IsTree)
    (hu : upper.IsTree) (h : Owned lower owned) (hn : Owned upper (nameless keys))
    (hm : lower.lay upper = .ok merged) :
    ∃ fresh, Owned merged (owned ++ nameless fresh) := by
  induction upper generalizing lower owned keys with
  | nil =>
    cases hm
    exact ⟨[], by simpa [nameless] using h⟩
  | cons e rest ih =>
    cases keys with
    | nil => cases hn
    | cons name keys =>
      cases hn with
      | @cons _ entry _ _ _ own tail =>
        obtain ⟨-, hv, hrest⟩ := Entries.isTree_cons.1 hu
        rw [lay_cons hl hv, bind_eq_ok] at hm
        obtain ⟨laid, hlaid, hm⟩ := hm
        have ht := hl.put (layOver_isTree (hl.under _) hv hlaid) (.text name)
        cases hget : lower.get? (.text name) with
        | none =>
          rw [hget, layOver_none hv] at hlaid
          cases hlaid
          have hput := Entries.put_of_get?_eq_none (v := .map entry none) hget
          have hadded : Owned (lower.put (.text name) (.map entry none))
              (owned ++ [(.text name, none)]) := by
            rw [hput]
            exact h.append (.cons own .nil)
          obtain ⟨fresh, hfresh⟩ := ih ht hrest hadded tail hm
          refine ⟨name :: fresh, ?_⟩
          rw [List.append_assoc] at hfresh
          exact hfresh
        | some current =>
          obtain ⟨below, rfl⟩ := h.exists_of_get? hget
          have het := (Value.isTree_map_iff.1 hv).2
          have hbt := (Value.isTree_map_iff.1 (hl.get? hget)).2
          rw [layOver_map (hl.under _) het, hget, mappingBelow, ok_bind] at hlaid
          obtain ⟨m, hmerge, rfl⟩ := map_eq_ok.1 hlaid
          -- The entry above has no name, so the merged one has the name that stood below.
          have hname := get?_lay_of_none hbt het hmerge own
          exact ih ht hrest (h.put hget hname) tail hm

end Owned

/-! ### The names that are read -/

def callOf (place : Nat) (name : Value) : Except Fault String :=
  if name.isTruthy then name.toText else .ok ("cluster-" ++ toString place)

def callsFrom (place : Nat) : List Value → Except Fault (List String)
  | [] => .ok []
  | name :: rest => do
    let call ← callOf place name
    let calls ← callsFrom (place + 1) rest
    return call :: calls

/-- The name of an entry as it is read, or else its key. -/
def nameOrKey (lookup : Option (String → Option String)) (owned : Value × Option Value) : Value :=
  (owned.2.map (Config.readBy lookup)).getD owned.1

/-- That clusters are read, if they can be read, under names that stand in their entries or else under
the keys of these. -/
def Called (clusters : Value) (owned : List (Value × Option Value)) : Prop :=
  ∀ lookup cs, Config.clustersOf (Config.readBy lookup clusters) = .ok cs →
    callsFrom 0 (owned.map (nameOrKey lookup)) = .ok (cs.map (·.name))

theorem callsFrom_append {place : Nat} {first second : List Value} {calls : List String}
    (h : callsFrom place (first ++ second) = .ok calls) :
    ∃ a b, callsFrom place first = .ok a ∧ callsFrom (place + first.length) second = .ok b ∧
      calls = a ++ b := by
  induction first generalizing place calls with
  | nil => exact ⟨[], calls, rfl, h, rfl⟩
  | cons name rest ih =>
    rw [List.cons_append, callsFrom, bind_eq_ok] at h
    obtain ⟨call, hcall, h⟩ := h
    obtain ⟨calls', hcalls, h⟩ := bind_eq_ok.1 h
    cases h
    obtain ⟨a, b, ha, hb, rfl⟩ := ih hcalls
    refine ⟨call :: a, b, ?_, ?_, rfl⟩
    · rw [callsFrom, hcall, ok_bind, ha]
      rfl
    · rw [List.length_cons, Nat.add_comm rest.length, ← Nat.add_assoc]
      exact hb

/-- Texts are names as they are, apart from the empty one. -/
theorem mem_callsFrom {place : Nat} {names calls : List String}
    (h : callsFrom place (names.map .text) = .ok calls) {name : String} :
    (name ∈ names → name ≠ "" → name ∈ calls) ∧
      (name ∈ calls → name ∈ names ∨ ∃ i : Nat, name = "cluster-" ++ toString i) := by
  induction names generalizing place calls with
  | nil =>
    cases h
    simp
  | cons first rest ih =>
    rw [List.map_cons, callsFrom, bind_eq_ok] at h
    obtain ⟨call, hcall, h⟩ := h
    obtain ⟨calls', hcalls, h⟩ := bind_eq_ok.1 h
    cases h
    obtain ⟨hto, hof⟩ := ih hcalls
    -- An empty text is no name, and the cluster is called by its place.
    by_cases hempty : first = ""
    · subst hempty
      have hplace : "cluster-" ++ toString place = call := Except.ok.inj hcall
      constructor
      · intro hname hne
        have hrest : name ∈ rest := by simpa [hne] using hname
        exact List.mem_cons_of_mem _ (hto hrest hne)
      · intro hname
        rcases List.mem_cons.1 hname with rfl | hname
        · exact Or.inr ⟨place, hplace.symm⟩
        · exact (hof hname).imp_left (List.mem_cons_of_mem _)
    · obtain rfl : first = call := by
        simpa [callOf, Value.isTruthy, hempty, Value.toText] using hcall
      constructor
      · intro hname hne
        rcases List.mem_cons.1 hname with rfl | hname
        · exact List.mem_cons_self ..
        · exact List.mem_cons_of_mem _ (hto hname hne)
      · intro hname
        rcases List.mem_cons.1 hname with rfl | hname
        · exact Or.inl (List.mem_cons_self ..)
        · exact (hof hname).imp_left (List.mem_cons_of_mem _)

theorem name_of_clusterOf {place : Nat} {entry : Entries} {anchor : Option Nat} {c : Cluster}
    (h : Config.clusterOf place (.map entry anchor) = .ok c) :
    clusterName entry place = .ok c.name := by
  rw [Config.clusterOf] at h
  dsimp only at h
  split at h
  · cases h
  · obtain ⟨name, hname, h⟩ := bind_eq_ok.1 h
    obtain ⟨_, -, h⟩ := bind_eq_ok.1 h
    obtain ⟨_, -, h⟩ := bind_eq_ok.1 h
    obtain ⟨_, -, h⟩ := bind_eq_ok.1 h
    obtain ⟨_, -, h⟩ := bind_eq_ok.1 h
    cases h
    exact hname

theorem Owned.resolve {entries : Entries} {owned : List (Value × Option Value)}
    (h : Owned entries owned) (lookup : String → Option String) :
    Owned (resolveEntries lookup entries) (owned.map fun o => (o.1, o.2.map (Value.resolve lookup))) := by
  induction h with
  | nil => exact .nil
  | cons own tail ih =>
    refine .cons ?_ ih
    rw [get?_resolveEntries, own]

theorem Owned.callsFrom_eq {entries : Entries} {owned : List (Value × Option Value)}
    (h : Owned entries owned) (hd : DistinctWithin entries) {place : Nat} {named : List Value}
    {cs : List Cluster} (hnamed : entries.mapM (fun e => Config.namedEntry e.1 e.2) = .ok named)
    (hcs : Config.clustersFrom place named = .ok cs) :
    callsFrom place (owned.map fun o => o.2.getD o.1) = .ok (cs.map (·.name)) := by
  induction h generalizing place named cs with
  | nil =>
    cases hnamed
    cases hcs
    rfl
  | @cons key entry rest name owned own tail ih =>
    obtain ⟨hfirst, hrest⟩ := List.forall_mem_cons.1 hd
    rw [List.mapM_cons, bind_eq_ok] at hnamed
    obtain ⟨item, hitem, hnamed⟩ := hnamed
    obtain ⟨items, hitems, hnamed⟩ := bind_eq_ok.1 hnamed
    cases hnamed
    obtain ⟨shown, -, hitem⟩ := bind_eq_ok.1 hitem
    cases hitem
    rw [Config.clustersFrom, bind_eq_ok] at hcs
    obtain ⟨c, hc, hcs⟩ := hcs
    obtain ⟨cs', hcs', hcs⟩ := bind_eq_ok.1 hcs
    cases hcs
    have hown : (Entries.ofPairs ((.text "name", key) :: entry)).get? (.text "name") =
        some (name.getD key) := by
      rw [get?_ofPairs_name (hfirst entry none rfl), own]
      cases name <;> rfl
    have hcall : callOf place (name.getD key) = .ok c.name := by
      have hname := name_of_clusterOf hc
      rw [clusterName, hown] at hname
      exact hname
    rw [List.map_cons, callsFrom, hcall, ok_bind, ih hrest hitems hcs']
    rfl

theorem Owned.called {entries : Entries} {owned : List (Value × Option Value)}
    (h : Owned entries owned) (ht : entries.IsTree) : Called (.map entries none) owned := by
  intro lookup cs hcs
  have hd := distinctWithin_of_isTree ht
  cases lookup with
  | none =>
    obtain ⟨named, hnamed, hcs⟩ := bind_eq_ok.1 hcs
    have hcalls := h.callsFrom_eq hd hnamed hcs
    have hsame : owned.map (nameOrKey none) = owned.map fun o => o.2.getD o.1 := by
      refine List.map_congr_left fun o _ => ?_
      rw [nameOrKey, show Config.readBy none = id from rfl, Option.map_id, id]
    rw [hsame, hcalls]
  | some lookup =>
    obtain ⟨named, hnamed, hcs⟩ := bind_eq_ok.1 hcs
    have hcalls := (h.resolve lookup).callsFrom_eq (hd.resolve lookup) hnamed hcs
    rw [List.map_map] at hcalls
    exact hcalls

/-! ### Layers over clusters -/

/-- That a path replaces an entry of the clusters or writes its name. -/
def Renames (path : List String) : Prop :=
  ∃ key, path = [clustersKey, key] ∨ ∃ rest, path = clustersKey :: key :: "name" :: rest

/-- That a layer has no clusters, or has them in a mapping to entries without names. -/
def Plain (layer : Entries) : Prop :=
  layer.IsTree ∧ (layer.get? (.text clustersKey) = none ∨ ∃ (content : Entries) (keys : List String),
    layer.get? (.text clustersKey) = some (.map content none) ∧ Owned content (nameless keys))

/-- That layers have clusters with given names in their entries, and others after them that are called
by their keys. -/
def Calling (layers : Entries) (owned : List (Value × Option Value)) : Prop :=
  layers.IsTree ∧ ∃ clusters byName fresh, layers.get? (.text clustersKey) = some clusters ∧
    ReadAs clusters byName ∧ Owned byName (owned ++ nameless fresh) ∧
    Called clusters (owned ++ nameless fresh)

theorem plain_branch {path : List String} (h : path ≠ [clustersKey]) (hr : ¬ Renames path)
    (s : String) : Plain (Entries.branch (.text s) path) := by
  refine ⟨branch_isTree (Value.isTree_text s) path, ?_⟩
  by_cases hk : path.head? = some clustersKey
  · right
    match path, hk with
    | [key], hk =>
      rw [List.head?_cons, Option.some.injEq] at hk
      exact absurd (by rw [hk]) h
    | [key, name], hk =>
      rw [List.head?_cons, Option.some.injEq] at hk
      exact absurd ⟨name, Or.inl (by rw [hk])⟩ hr
    | key :: name :: field :: rest, hk =>
      rw [List.head?_cons, Option.some.injEq] at hk
      subst hk
      have hfield : field ≠ "name" := fun he => hr ⟨name, Or.inr ⟨rest, by rw [he]⟩⟩
      have hnone : (Entries.branch (.text s) (field :: rest)).get? (.text "name") = none := by
        cases rest with
        | nil => simp [Entries.branch, Entries.get?_cons, Value.sameKey_text, hfield]
        | cons next rest => simp [Entries.branch, Entries.get?_cons, Value.sameKey_text, hfield]
      exact ⟨_, [name], Entries.get?_cons_clusters isClustersKey_clustersKey _ _, .cons hnone .nil⟩
  · exact Or.inl (get?_branch_of_other hk _)

theorem Plain.lay {lower upper merged : Entries} (hl : Plain lower) (hu : Plain upper)
    (h : lower.lay upper = .ok merged) : Plain merged := by
  obtain ⟨hlt, hlower⟩ := hl
  obtain ⟨hut, hupper⟩ := hu
  refine ⟨lay_isTree hlt hut h, ?_⟩
  rcases hupper with hnone | ⟨content, keys, hcontent, hkeys⟩
  · rw [get?_lay_of_none hlt hut h hnone]
    exact hlower
  · have hct : content.IsTree := (Value.isTree_map_iff.1 (hut.get? hcontent)).2
    right
    rcases hlower with hnone | ⟨below, names, hbelow, hnames⟩
    · exact ⟨content, keys, get?_clusters_lay_of_none hlt hut h hcontent hnone, hkeys⟩
    · have hbt : below.IsTree := (Value.isTree_map_iff.1 (hlt.get? hbelow)).2
      obtain ⟨m, hm, hget⟩ := get?_clusters_lay hlt hut h hcontent hbelow rfl
      obtain ⟨fresh, hfresh⟩ := hnames.lay hbt hct hkeys hm
      refine ⟨m, names ++ fresh, hget, ?_⟩
      rw [nameless, List.map_append]
      exact hfresh

theorem Calling.lay {lower upper merged : Entries} {owned : List (Value × Option Value)}
    (hl : Calling lower owned) (hu : Plain upper) (h : lower.lay upper = .ok merged) :
    Calling merged owned := by
  obtain ⟨hlt, clusters, byName, fresh, hclusters, hread, howned, hcalled⟩ := hl
  obtain ⟨hut, hupper⟩ := hu
  refine ⟨lay_isTree hlt hut h, ?_⟩
  rcases hupper with hnone | ⟨content, keys, hcontent, hkeys⟩
  · refine ⟨clusters, byName, fresh, ?_, hread, howned, hcalled⟩
    rw [get?_lay_of_none hlt hut h hnone, hclusters]
  · have hct : content.IsTree := (Value.isTree_map_iff.1 (hut.get? hcontent)).2
    obtain ⟨m, hm, hget⟩ := get?_clusters_lay hlt hut h hcontent hclusters hread.below
    obtain ⟨more, hmore⟩ := howned.lay hread.isTree hct hkeys hm
    rw [List.append_assoc, nameless, nameless, ← List.map_append] at hmore
    have hmt := lay_isTree hread.isTree hct hm
    exact ⟨_, m, fresh ++ more, hget, readAs_map hmt, hmore, hmore.called hmt⟩

theorem plain_environmentLayer {environment : List (String × String)} {layer : Entries}
    (hp : ∀ w ∈ variableWrites environment, w.1 ≠ [clustersKey] ∧ ¬ Renames w.1)
    (h : environmentLayer environment = .ok layer) : Plain layer := by
  have hnil : Plain [] := ⟨Entries.isTree_nil, Or.inl rfl⟩
  refine writeAll_induction (P := fun _ lower => Plain lower) (fun _ _ hl => hl.1)
    (fun w => variableWrites_text) ?_ hnil h
  intro _ w hw s lower laid hl hlaid
  obtain ⟨hpath, hr⟩ := hp w hw
  exact hl.lay (plain_branch hpath hr s) hlaid

theorem Calling.layersOver {files merged : Entries} {owned : List (Value × Option Value)}
    {environment overrides : List (String × String)} (hc : Calling files owned)
    (hv : ∀ w ∈ variableWrites environment, w.1 ≠ [clustersKey] ∧ ¬ Renames w.1)
    (ho : ∀ w ∈ overrideWrites overrides, w.1 ≠ [clustersKey] ∧ ¬ Renames w.1)
    (h : layersOver files environment overrides = .ok merged) : Calling merged owned := by
  obtain ⟨layer, hlayer, h⟩ := bind_eq_ok.1 h
  obtain ⟨m, hm, h⟩ := bind_eq_ok.1 h
  refine writeAll_induction (P := fun _ lower => Calling lower owned) (fun _ _ hl => hl.1)
    (fun w => overrideWrites_text) ?_ (hc.lay (plain_environmentLayer hv hlayer) hm) h
  intro _ w hw s lower laid hl hlaid
  obtain ⟨hpath, hr⟩ := ho w hw
  exact hl.lay (plain_branch hpath hr s) hlaid

/-- Clusters are called by the names in their entries, and then by the keys of those that were added;
these are all names that the clusters have, and no key was there before. -/
theorem Calling.calls {layers : Entries} {names : String → Prop}
    {owned : List (Value × Option Value)} (hc : Calling layers owned) (hn : Naming layers names)
    {lookup : Option (String → Option String)} {config : Config}
    (h : Config.ofLayers lookup layers = .ok config) :
    ∃ fresh : List String, callsFrom 0 (owned.map (nameOrKey lookup) ++ fresh.map .text) =
        .ok (config.clusters.map (·.name)) ∧
      (∀ name, names name ↔ .text name ∈ owned.map (·.1) ∨ name ∈ fresh) ∧
      ∀ name ∈ fresh, .text name ∉ owned.map (·.1) := by
  obtain ⟨-, clusters, byName, fresh, hget, hread, howned, hcalled⟩ := hc
  obtain ⟨-, clusters', byName', hget', hread', hkeys, hnames⟩ := hn
  obtain rfl : clusters = clusters' := Option.some.inj (hget.symm.trans hget')
  obtain rfl : byName = byName' := by
    have hbelow := hread.below.symm.trans hread'.below
    rw [Except.ok.injEq, Option.some.injEq, Prod.mk.injEq] at hbelow
    exact hbelow.1
  have hfst : byName.map (·.1) = owned.map (·.1) ++ fresh.map .text := by
    rw [howned.map_fst, List.map_append, nameless, List.map_map]
    rfl
  refine ⟨fresh, ?_, fun name => ?_, fun name hname hin => ?_⟩
  · have hcalls := hcalled lookup _ (clustersOf_of_ofLayers hget h)
    rw [List.map_append, nameless, List.map_map] at hcalls
    exact hcalls
  · rw [hnames, Entries.hasKey_iff_mem hkeys, hfst, List.mem_append]
    simp
  · have hd := (Entries.distinct_iff byName).1 hread.isTree.1
    rw [hfst, List.pairwise_append] at hd
    have hne := hd.2.2 _ hin _ (List.mem_map_of_mem hname)
    rw [Value.sameKey_text, beq_self_eq_true] at hne
    cases hne

end Tripwire
