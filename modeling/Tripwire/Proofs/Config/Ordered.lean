import Tripwire.Proofs.Config.Kept
import Tripwire.Proofs.Config.Path

/-!
# The order of keys, and laying twice

Laying a tree keeps the keys of the mapping below in their order and puts the ones that it lacks after
them, at the top and wherever two mappings meet. Under each key of the upper tree there stands afterwards
what laying its value has left there; laying that value once more leaves the same, so that laying the
whole tree again changes nothing.
-/

namespace Tripwire

/-! ### The order of keys -/

/-- Keys, and after them those of others that are not among them, in their order. -/
def extendKeys (keys others : List Value) : List Value :=
  keys ++ others.filter fun other => !keys.any (·.sameKey other)

theorem extendKeys_nil (keys : List Value) : extendKeys keys [] = keys := by
  rw [extendKeys, List.filter_nil, List.append_nil]

theorem nil_extendKeys (others : List Value) : extendKeys [] others = others := by
  simp [extendKeys]

theorem extendKeys_singleton (keys : List Value) (key : Value) :
    extendKeys keys [key] = if keys.any (·.sameKey key) then keys else keys ++ [key] := by
  cases h : keys.any (·.sameKey key) <;> simp [extendKeys, h]

theorem extendKeys_cons {keys others : List Value} {key : Value}
    (h : ∀ other ∈ others, key.sameKey other = false) :
    extendKeys keys (key :: others) = extendKeys (extendKeys keys [key]) others := by
  rw [extendKeys_singleton]
  cases ha : keys.any (·.sameKey key) with
  | true =>
    rw [if_pos rfl, extendKeys, extendKeys, List.filter_cons_of_neg (by simp [ha])]
  | false =>
    have hsame : others.filter (fun other => !(keys ++ [key]).any (·.sameKey other)) =
        others.filter fun other => !keys.any (·.sameKey other) := by
      refine List.filter_congr fun other hother => ?_
      rw [List.any_append, List.any_cons, List.any_nil, h other hother, Bool.or_false, Bool.or_false]
    rw [if_neg (by simp), extendKeys, extendKeys, List.filter_cons_of_pos (by simp [ha]), hsame,
      List.append_assoc, List.singleton_append]

theorem keys_lay {lower upper merged : Entries} (hl : lower.IsTree) (hu : upper.IsTree)
    (h : lower.lay upper = .ok merged) : merged.keys = extendKeys lower.keys upper.keys := by
  induction upper generalizing lower with
  | nil =>
    cases h
    exact (extendKeys_nil _).symm
  | cons e rest ih =>
    obtain ⟨key, v⟩ := e
    obtain ⟨hne, hv, hrest⟩ := Entries.isTree_cons.1 hu
    rw [lay_cons hl hv, bind_eq_ok] at h
    obtain ⟨laid, hlaid, h⟩ := h
    have ht := hl.put (layOver_isTree (hl.under _) hv hlaid) key
    have hnew : ∀ other ∈ Entries.keys rest, key.sameKey other = false := List.forall_mem_map.2 hne
    rw [ih ht hrest h, Entries.keys_put, ← extendKeys_singleton]
    exact (extendKeys_cons hnew).symm

/-! ### Where mappings meet -/

/-- What a value under a key is read as where a mapping comes over it. -/
inductive ReadUnder (key : Value) : Value → Entries → Prop
  | mapping (entries : Entries) : ReadUnder key (.map entries none) entries
  | clusters {items : List Value} {byName : Entries} (hkey : key = .text clustersKey)
      (hby : clustersByName items = .ok byName) : ReadUnder key (.list items) byName

/-- That following a path in two trees leads to mappings in both, the second of which comes over the
first. -/
inductive MeetAt : Entries → Entries → List Value → Entries → Entries → Prop
  | top (lower upper : Entries) : MeetAt lower upper [] lower upper
  | under {lower upper below above lo up : Entries} {key v : Value} {rest : List Value}
      (hlower : lower.get? key = some v) (hread : ReadUnder key v below)
      (hupper : upper.get? key = some (.map above none)) (hrest : MeetAt below above rest lo up) :
      MeetAt lower upper (key :: rest) lo up

theorem ReadUnder.mappingBelow {key k v : Value} {below : Entries} (h : ReadUnder key v below)
    (hk : k.sameKey key = true) : mappingBelow k (some v) = .ok (some (below, none)) := by
  cases h with
  | mapping => rfl
  | clusters hkey hby =>
    have hclusters : k.isClustersKey = true := by rw [Value.isClustersKey, ← hkey, hk]
    rw [Tripwire.mappingBelow, hclusters, if_pos rfl, hby]
    rfl

/-- Where mappings meet, the upper one is laid over the lower one. -/
theorem MeetAt.lay {lower upper merged lo up : Entries} {path : List Value}
    (hm : MeetAt lower upper path lo up) (hl : lower.IsTree) (hu : upper.IsTree)
    (h : lower.lay upper = .ok merged) :
    ∃ r, lo.IsTree ∧ up.IsTree ∧ lo.lay up = .ok r ∧ merged.follow? path = some (.map r none) := by
  induction hm generalizing merged with
  | top => exact ⟨merged, hl, hu, h, rfl⟩
  | under hlower hread hupper _ ih =>
    obtain ⟨k, laid, hk, hlaid, hget⟩ := get?_lay_of_some hl hu h hupper
    have hbelow := hread.mappingBelow hk
    rw [← hlower] at hbelow
    have hbt := (mappingBelow_isTree (hl.under _) hbelow).2
    have hat := (Value.isTree_map_iff.1 (hu.get? hupper)).2
    rw [layOver_map (hl.under _) hat, hbelow, ok_bind] at hlaid
    obtain ⟨m, hlay, rfl⟩ := map_eq_ok.1 hlaid
    obtain ⟨r, hlo, hup, hr, hfollow⟩ := ih hbt hat hlay
    refine ⟨r, hlo, hup, hr, ?_⟩
    rw [Entries.follow?_cons, hget]
    exact hfollow

/-! ### Laying twice -/

/-- Values in whose mappings, at any depth, lists and mappings are no keys. -/
inductive Value.Indexed : Value → Prop
  | other {v : Value} (h : v.isMapping = false) : Indexed v
  | map {entries : Entries} {anchor : Option Nat} (keys : ∀ e ∈ entries, e.1.key?.isSome = true)
      (each : ∀ e ∈ entries, Indexed e.2) : Indexed (.map entries anchor)

def Entries.Indexed (entries : Entries) : Prop :=
  (∀ e ∈ entries, e.1.key?.isSome = true) ∧ ∀ e ∈ entries, e.2.Indexed

theorem Value.indexed_map_iff {entries : Entries} {anchor : Option Nat} :
    (Value.map entries anchor).Indexed ↔ entries.Indexed := by
  constructor
  · intro h
    cases h with
    | other h => simp [isMapping] at h
    | map keys each => exact ⟨keys, each⟩
  · rintro ⟨keys, each⟩
    exact .map keys each

/-- Nothing changes if under each key there stands what laying leaves there. -/
theorem lay_eq_self {entries upper : Entries} (he : entries.IsTree) (hu : ∀ e ∈ upper, e.2.IsTree)
    (h : ∀ e ∈ upper, ∃ v, entries.get? e.1 = some v ∧ layOver e.1 (some v) e.2 = .ok v) :
    entries.lay upper = .ok entries := by
  induction upper with
  | nil => rfl
  | cons e rest ih =>
    obtain ⟨key, w⟩ := e
    obtain ⟨hw, hrest⟩ := List.forall_mem_cons.1 hu
    obtain ⟨⟨v, hget, hlay⟩, hothers⟩ := List.forall_mem_cons.1 h
    rw [lay_cons he hw, hget, hlay, ok_bind, Entries.put_of_get? hget]
    exact ih hrest hothers

/-- That laying a value over what it has left leaves the same. -/
def Settles (v : Value) : Prop :=
  ∀ key current, (∀ c, current = some c → c.IsTree) → ∀ laid, layOver key current v = .ok laid →
    ∀ key', layOver key' (some laid) v = .ok laid

theorem lay_lay_of_settles {lower upper merged : Entries} (hl : lower.IsTree) (hu : upper.IsTree)
    (hkeys : ∀ e ∈ upper, e.1.key?.isSome = true) (hs : ∀ e ∈ upper, Settles e.2)
    (h : lower.lay upper = .ok merged) : merged.lay upper = .ok merged := by
  refine lay_eq_self (lay_isTree hl hu h) hu.2 fun e he => ?_
  obtain ⟨key, v⟩ := e
  have hv := Entries.get?_of_mem hu.1 he (hkeys _ he)
  obtain ⟨k, laid, -, hlaid, hget⟩ := get?_lay_of_some hl hu h hv
  exact ⟨laid, hget, hs _ he k _ (hl.under key) laid hlaid key⟩

theorem settles {v : Value} (ht : v.IsTree) (hi : v.Indexed) : Settles v := by
  induction hi with
  | other hm =>
    intro key current _ laid h key'
    rw [layOver_of_not_mapping hm] at h ⊢
    exact h
  | @map upper anchor keys _ ih =>
    intro key current hc laid h key'
    obtain ⟨rfl, hu⟩ := Value.isTree_map_iff.1 ht
    have hs : ∀ e ∈ upper, Settles e.2 := fun e he => ih e he (hu.2 e he)
    -- what is left is laid over a mapping in either case, over an empty one if there was none
    obtain ⟨lower, merged, hl, hlay, rfl⟩ : ∃ lower merged : Entries, lower.IsTree ∧
        lower.lay upper = .ok merged ∧ laid = .map merged none := by
      rw [layOver_map hc hu, bind_eq_ok] at h
      obtain ⟨- | ⟨lower, anchor⟩, hb, h⟩ := h
      · cases h
        exact ⟨[], upper, Entries.isTree_nil, nil_lay hu, rfl⟩
      · obtain ⟨merged, hlay, rfl⟩ := map_eq_ok.1 h
        exact ⟨lower, merged, (mappingBelow_isTree hc hb).2, hlay, rfl⟩
    have hm : ∀ c, some (Value.map merged none) = some c → c.IsTree := by
      rintro c ⟨⟩
      exact Value.isTree_map_iff.2 ⟨rfl, lay_isTree hl hu hlay⟩
    have hagain := lay_lay_of_settles hl hu keys hs hlay
    rw [layOver_map hm hu, mappingBelow, ok_bind]
    dsimp only
    rw [hagain]
    rfl

theorem lay_lay {lower upper merged : Entries} (hl : lower.IsTree) (hu : upper.IsTree)
    (hi : upper.Indexed) (h : lower.lay upper = .ok merged) : merged.lay upper = .ok merged :=
  lay_lay_of_settles hl hu hi.1 (fun e he => settles (hu.2 e he) (hi.2 e he)) h

/-! ### The order of clusters -/

/-- The keys under which a layer has its clusters, in order. Those of a list are names in lower case, each
where it first occurs. -/
def clusterKeys (layer : Entries) : Except Fault (List Value) :=
  match layer.get? (.text clustersKey) with
  | some (.map entries _) => .ok (Entries.keys entries)
  | some (.list items) =>
    (listedNames 0 items).map fun names => (names.map Text.lowercase).eraseDups.map .text
  | _ => .ok []

theorem keys_addByName {byName r : Entries} {place : Nat} {items : List Value} (before : List String)
    (hkeys : byName.keys = before.eraseDups.map .text) (h : addByName byName place items = .ok r) :
    ∃ names, listedNames place items = .ok names ∧
      r.keys = (before ++ names.map Text.lowercase).eraseDups.map .text := by
  induction items generalizing byName place before with
  | nil =>
    cases h
    exact ⟨[], rfl, by rw [List.map_nil, List.append_nil, hkeys]⟩
  | cons item rest ih =>
    cases item with
    | map entry anchor =>
      obtain ⟨name, hname, h⟩ := bind_eq_ok.1 h
      have hput : (byName.put (.text (Text.lowercase name)) (.map entry anchor)).keys =
          (before ++ [Text.lowercase name]).eraseDups.map .text := by
        rw [Entries.keys_put, hkeys, List.eraseDups_append]
        by_cases hmem : Text.lowercase name ∈ before
        · simp [List.removeAll, hmem]
        · simp [List.removeAll, hmem, List.eraseDups_cons]
      obtain ⟨names, hnames, hr⟩ := ih _ hput h
      refine ⟨name :: names, ?_, ?_⟩
      · rw [listedNames, hname, ok_bind, hnames]
        rfl
      · rw [hr, List.map_cons, List.append_assoc, List.singleton_append]
    | _ => simp [addByName] at h

theorem keys_clustersByName {items : List Value} {byName : Entries}
    (h : clustersByName items = .ok byName) :
    ∃ names, listedNames 0 items = .ok names ∧
      byName.keys = (names.map Text.lowercase).eraseDups.map .text :=
  keys_addByName [] rfl h

theorem clusterKeys_of_mappingBelow {layer : Entries} {below : Option (Entries × Option Nat)}
    (h : mappingBelow (.text clustersKey) (layer.get? (.text clustersKey)) = .ok below) :
    clusterKeys layer = .ok ((below.map fun b => b.1.keys).getD []) := by
  rw [clusterKeys]
  rcases hget : layer.get? (.text clustersKey) with - | v
  · rw [hget] at h
    cases h
    rfl
  · rw [hget] at h
    cases v with
    | list items =>
      rw [mappingBelow, isClustersKey_clustersKey, if_pos rfl] at h
      obtain ⟨byName, hby, rfl⟩ := map_eq_ok.1 h
      obtain ⟨names, hnames, hkeys⟩ := keys_clustersByName hby
      dsimp only
      rw [hnames, Option.map_some, Option.getD_some, hkeys]
      rfl
    | _ =>
      cases h
      rfl

theorem clusterKeys_lay {lower upper merged up : Entries} (hl : lower.IsTree) (hu : upper.IsTree)
    (h : lower.lay upper = .ok merged)
    (hup : upper.get? (.text clustersKey) = some (.map up none)) :
    ∃ keys, clusterKeys lower = .ok keys ∧ clusterKeys merged = .ok (extendKeys keys up.keys) := by
  obtain ⟨k, laid, hk, hlaid, hget⟩ := get?_lay_of_some hl hu h hup
  obtain rfl := isClustersKey_iff.1 hk
  have hut := (Value.isTree_map_iff.1 (hu.get? hup)).2
  rw [layOver_map (hl.under _) hut, bind_eq_ok] at hlaid
  obtain ⟨below, hbelow, hlaid⟩ := hlaid
  refine ⟨_, clusterKeys_of_mappingBelow hbelow, ?_⟩
  rw [clusterKeys, hget]
  cases below with
  | none =>
    cases hlaid
    rw [Option.map_none, Option.getD_none, nil_extendKeys]
  | some b =>
    obtain ⟨m, hm, rfl⟩ := map_eq_ok.1 hlaid
    have hkeys := keys_lay (mappingBelow_isTree (hl.under _) hbelow).2 hut hm
    rw [Option.map_some, Option.getD_some, ← hkeys]

/-- Laying a tree keeps the order of the keys below and puts new ones after them, wherever mappings meet;
laying it once more changes nothing. In particular the clusters of a layer stay in their order, in front
of those that a mapping above adds. -/
theorem laying_keeps_order_and_settles {lower upper merged : Entries} (hl : lower.IsTree)
    (hu : upper.IsTree) (hi : upper.Indexed) (h : lower.lay upper = .ok merged) :
    (∀ path lo up, MeetAt lower upper path lo up → ∃ r : Entries,
      merged.follow? path = some (.map r none) ∧ r.keys = extendKeys lo.keys up.keys) ∧
    merged.lay upper = .ok merged ∧
    ∀ up : Entries, upper.get? (.text clustersKey) = some (.map up none) → ∃ keys,
      clusterKeys lower = .ok keys ∧ clusterKeys merged = .ok (extendKeys keys up.keys) := by
  refine ⟨fun path lo up hmeet => ?_, lay_lay hl hu hi h, fun up hup => clusterKeys_lay hl hu h hup⟩
  obtain ⟨r, hlo, hup, hr, hfollow⟩ := hmeet.lay hl hu h
  exact ⟨r, hfollow, keys_lay hlo hup hr⟩

/-- Two listed clusters, one of which gets a token from a mapping that adds a third in front of it. -/
theorem added_cluster_comes_last :
    let items := [listedEntry "Main" "https://1", listedEntry "edge" "https://2"]
    let lower : Entries := [(.text clustersKey, .list items)]
    let up : Entries := [(.text "extra", .map [(.text "url", .text "https://3")] none),
      (.text "edge", .map [(.text "token", .text "t")] none)]
    let upper : Entries := [(.text "settings", .map [] none), (.text clustersKey, .map up none)]
    ∃ merged, lower.lay upper = .ok merged ∧ merged.lay upper = .ok merged ∧
      merged.keys = [.text clustersKey, .text "settings"] ∧
      clusterKeys merged = .ok [.text "main", .text "edge", .text "extra"] := by
  intro items lower up upper
  have hlower : lower.IsTree := isTree_listed (by simp [items])
  have hup : up.IsTree := by
    refine Entries.isTree_cons.2 ⟨by simp, ?_, Entries.isTree_singleton ?_⟩ <;>
      exact Value.isTree_map_iff.2 ⟨rfl, Entries.isTree_singleton (Value.isTree_text _)⟩
  have hupper : upper.IsTree := by
    refine Entries.isTree_cons.2 ⟨by simp [clustersKey], ?_, Entries.isTree_singleton ?_⟩
    · exact Value.isTree_map_iff.2 ⟨rfl, Entries.isTree_nil⟩
    · exact Value.isTree_map_iff.2 ⟨rfl, hup⟩
  have htext (s : String) : (Value.text s).Indexed := .other rfl
  have hindexed : upper.Indexed := by
    simp [upper, up, Entries.Indexed, Value.indexed_map_iff, Value.key?, htext]
  obtain ⟨merged, h⟩ : ∃ merged, lower.lay upper = .ok merged := ⟨_, rfl⟩
  obtain ⟨horder, hagain, hclusters⟩ := laying_keeps_order_and_settles hlower hupper hindexed h
  refine ⟨merged, h, hagain, ?_, ?_⟩
  · obtain ⟨r, hr, hkeys⟩ := horder [] lower upper (.top lower upper)
    cases hr
    rw [hkeys]
    rfl
  · obtain ⟨keys, hkeys, hall⟩ := hclusters up rfl
    have hnames : ["Main", "edge"].map Text.lowercase = ["main", "edge"] := by cbv
    have hlisted : clusterKeys lower =
        .ok ((["Main", "edge"].map Text.lowercase).eraseDups.map .text) := rfl
    rw [hnames] at hlisted
    obtain rfl := Except.ok.inj (hlisted.symm.trans hkeys)
    rw [hall]
    rfl

end Tripwire
