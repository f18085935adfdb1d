import Tripwire.Config.Basic
import Tripwire.Config.Reference
import Tripwire.Proofs.Config.Apart

/-!
# Reading clusters from either form

The clusters of a configuration are read from a list of entries or from a mapping from names to
entries. The two give the same clusters if each entry without a name of its own stands under the name
that its place in the list gives it.
-/

namespace Tripwire

/-! ### References -/

theorem resolveItems_eq_map (lookup : String → Option String) (items : List Value) :
    resolveItems lookup items = items.map (Value.resolve lookup) :=
  eq_map_of_cons rfl (fun _ _ => rfl) items

theorem resolveEntries_eq_map (lookup : String → Option String) (entries : Entries) :
    resolveEntries lookup entries = entries.map fun e => (e.1, e.2.resolve lookup) :=
  eq_map_of_cons rfl (fun _ _ => rfl) entries

theorem get?_resolveEntries (lookup : String → Option String) (entries : Entries) (key : Value) :
    Entries.get? (resolveEntries lookup entries) key =
      (entries.get? key).map (Value.resolve lookup) := by
  rw [resolveEntries_eq_map, Entries.get?_map]

theorem map_fst_resolveEntries (lookup : String → Option String) (entries : Entries) :
    (resolveEntries lookup entries).map (·.1) = entries.map (·.1) := by
  rw [resolveEntries_eq_map, Entries.map_fst_map]

theorem Entries.distinct_iff (entries : Entries) :
    entries.Distinct ↔ (entries.map (·.1)).Pairwise fun a b => a.sameKey b = false := by
  rw [List.pairwise_map]
  rfl

theorem Entries.Distinct.of_keys {a b : Entries} (h : a.Distinct)
    (hkeys : b.map (·.1) = a.map (·.1)) : b.Distinct := by
  rw [Entries.distinct_iff, hkeys]
  exact (Entries.distinct_iff a).1 h

/-! ### What a configuration depends on -/

namespace Config

/-- A value as it is, or with its references resolved. -/
def readBy (lookup : Option (String → Option String)) (v : Value) : Value :=
  match lookup with
  | none => v
  | some lookup => v.resolve lookup

/-- The configuration that layers describe, read as they are or with references resolved. -/
def ofLayers (lookup : Option (String → Option String)) (layers : Entries) :
    Except Fault Config :=
  ofValue (readBy lookup (.map layers none))

/-- That the same clusters are read from two values, as they are and with references resolved. -/
def SameClusters (v w : Value) : Prop :=
  ∀ lookup, clustersOf (readBy lookup v) = clustersOf (readBy lookup w)

theorem readBy_map (lookup : Option (String → Option String)) (layers : Entries) :
    ∃ entries, readBy lookup (.map layers none) = .map entries none ∧
      ∀ key, Entries.get? entries key = (layers.get? key).map (readBy lookup) := by
  cases lookup with
  | none => exact ⟨layers, rfl, fun key => Option.map_id'.symm⟩
  | some lookup => exact ⟨_, rfl, get?_resolveEntries lookup layers⟩

theorem valueAt_clusters {entries : Entries} {v : Value}
    (h : entries.get? (.text clustersKey) = some v) : valueAt entries "clusters" = v := by
  rw [valueAt, ← clustersKey, h]
  rfl

theorem ofValue_congr {x y : Entries}
    (hsections : ∀ key, key ≠ clustersKey → x.get? (.text key) = y.get? (.text key))
    (hclusters : clustersOf (valueAt x "clusters") = clustersOf (valueAt y "clusters")) :
    ofValue (.map x none) = ofValue (.map y none) := by
  have hsettings : valueAt x "settings" = valueAt y "settings" := by
    rw [valueAt, valueAt, hsections _ (by decide)]
  have hwaiting : valueAt x "waiting" = valueAt y "waiting" := by
    rw [valueAt, valueAt, hsections _ (by decide)]
  simp only [ofValue, hsettings, hwaiting, hclusters]

/-- That layers are the same apart from the clusters, and the same clusters are read from them. -/
def Matches (x y : Entries) : Prop :=
  x.others = y.others ∧ ∃ v w, x.get? (.text clustersKey) = some v ∧
    y.get? (.text clustersKey) = some w ∧ SameClusters v w

theorem ofLayers_of_matches {x y : Entries} (h : Matches x y)
    (lookup : Option (String → Option String)) : ofLayers lookup x = ofLayers lookup y := by
  obtain ⟨hothers, v, w, hx, hy, h⟩ := h
  obtain ⟨a, ha, hgetA⟩ := readBy_map lookup x
  obtain ⟨b, hb, hgetB⟩ := readBy_map lookup y
  rw [ofLayers, ofLayers, ha, hb]
  refine ofValue_congr (fun key hk => ?_) ?_
  · rw [hgetA, hgetB, ← Entries.get?_others (isClustersKey_text_of_ne hk), hothers,
      Entries.get?_others (isClustersKey_text_of_ne hk)]
  · rw [valueAt_clusters (v := readBy lookup v) (by rw [hgetA, hx]; rfl),
      valueAt_clusters (v := readBy lookup w) (by rw [hgetB, hy]; rfl)]
    exact h lookup

/-- That layers are put together with the same fault, or else match. -/
def Alike : Except Fault Entries → Except Fault Entries → Prop
  | .ok x, .ok y => Matches x y
  | .error f, .error g => f = g
  | _, _ => False

theorem Alike.ofLayers_eq {x y : Except Fault Entries} (h : Alike x y)
    (lookup : Option (String → Option String)) : x >>= ofLayers lookup = y >>= ofLayers lookup := by
  cases x with
  | error f =>
    cases y with
    | error g =>
      obtain rfl : f = g := h
      rfl
    | ok y => exact absurd h id
  | ok x =>
    cases y with
    | error g => exact absurd h id
    | ok y => exact ofLayers_of_matches h lookup

theorem Alike.of_others {x y : Except Fault Entries} {v w : Value}
    (hothers : x.map Entries.others = y.map Entries.others)
    (hx : ∀ m, x = .ok m → m.get? (.text clustersKey) = some v)
    (hy : ∀ m, y = .ok m → m.get? (.text clustersKey) = some w) (h : SameClusters v w) :
    Alike x y := by
  cases x with
  | error f =>
    cases y with
    | error g => exact Except.error.inj hothers
    | ok y => cases hothers
  | ok x =>
    cases y with
    | error g => cases hothers
    | ok y => exact ⟨Except.ok.inj hothers, v, w, hx x rfl, hy y rfl, h⟩

theorem clusterOf_congr {place : Nat} {a b : Entries} {x y : Option Nat}
    (hkeys : ∀ key, key ≠ "name" → a.get? (.text key) = b.get? (.text key))
    (hname : clusterName a place = clusterName b place) :
    clusterOf place (.map a x) = clusterOf place (.map b y) := by
  have hat (key : String) (h : key ≠ "name") : valueAt a key = valueAt b key := by
    rw [valueAt, valueAt, hkeys key h]
  have hor (key : String) (h : key ≠ "name") (v : Value) : valueOr a key v = valueOr b key v := by
    rw [valueOr, valueOr, hkeys key h]
  simp only [clusterOf, hat "url" (by decide), hat "token" (by decide),
    hat "namespace" (by decide), hor "verify_tls" (by decide), hname]

end Config

/-! ### The entries of a list and of a mapping from names -/

theorem get?_ofPairs_name {entries : Entries} (hd : entries.Distinct) (name : Value)
    (key : Value) : (Entries.ofPairs ((.text "name", name) :: entries)).get? key =
      (entries.get? key).or (Entries.get? [(.text "name", name)] key) := by
  rw [Entries.ofPairs, List.foldl_cons, Entries.get?_foldl_put _ _ hd]
  rfl

theorem get?_ofPairs_of_ne {entries : Entries} (hd : entries.Distinct) (name : Value)
    {key : String} (h : key ≠ "name") :
    (Entries.ofPairs ((.text "name", name) :: entries)).get? (.text key) =
      entries.get? (.text key) := by
  have hne : ("name" == key) = false := beq_eq_false_iff_ne.2 (Ne.symm h)
  rw [get?_ofPairs_name hd, Entries.get?_cons, Value.sameKey_text, hne]
  simp

/-- Entries of a list, from a place on, and a mapping from texts to them, in which an entry that has
no name of its own stands under the one that its place gives it. -/
inductive Keyed : Nat → List Value → Entries → Prop where
  | nil {place : Nat} : Keyed place [] []
  | cons {place : Nat} {items : List Value} {rest entries : Entries} {key : String}
      {anchor : Option Nat} (distinct : entries.Distinct)
      (named : entries.get? (.text "name") = none → key = "cluster-" ++ toString place)
      (tail : Keyed (place + 1) items rest) :
      Keyed place (.map entries anchor :: items) ((.text key, .map entries anchor) :: rest)

theorem clusterOf_ofPairs_name {place : Nat} {entries : Entries} {key : String}
    (hd : entries.Distinct)
    (hnamed : entries.get? (.text "name") = none → key = "cluster-" ++ toString place)
    (anchor : Option Nat) :
    Config.clusterOf place (.map (Entries.ofPairs ((.text "name", .text key) :: entries)) none) =
      Config.clusterOf place (.map entries anchor) := by
  refine Config.clusterOf_congr (fun k hk => get?_ofPairs_of_ne hd _ hk) ?_
  rw [clusterName, clusterName, get?_ofPairs_name hd]
  cases hown : entries.get? (.text "name") with
  | some own => rfl
  | none =>
    rw [hnamed hown]
    simp [Entries.get?_cons, Value.isTruthy, Value.toText]

theorem Keyed.clustersFrom_eq {place : Nat} {items : List Value} {entries : Entries}
    (h : Keyed place items entries) :
    ∃ named, entries.mapM (fun e => Config.namedEntry e.1 e.2) = .ok named ∧
      Config.clustersFrom place named = Config.clustersFrom place items := by
  induction h with
  | nil => exact ⟨[], rfl, rfl⟩
  | @cons place items rest entries key anchor distinct hname _ ih =>
    obtain ⟨named, hmap, hfrom⟩ := ih
    have hentry : Config.namedEntry (.text key) (.map entries anchor) =
        .ok (.map (Entries.ofPairs ((.text "name", .text key) :: entries)) none) := rfl
    refine ⟨_ :: named, by rw [List.mapM_cons, hentry, hmap]; rfl, ?_⟩
    rw [Config.clustersFrom, Config.clustersFrom, hfrom, clusterOf_ofPairs_name distinct hname]

theorem Keyed.clustersOf_eq {items : List Value} {entries : Entries} (h : Keyed 0 items entries)
    (anchor : Option Nat) :
    Config.clustersOf (.map entries anchor) = Config.clustersOf (.list items) := by
  obtain ⟨named, hmap, hfrom⟩ := h.clustersFrom_eq
  rw [Config.clustersOf, hmap, ok_bind, hfrom]
  rfl

theorem Keyed.resolve {place : Nat} {items : List Value} {entries : Entries}
    (h : Keyed place items entries) (lookup : String → Option String) :
    Keyed place (resolveItems lookup items) (resolveEntries lookup entries) := by
  induction h with
  | nil => exact .nil
  | cons distinct hname _ ih =>
    refine .cons (distinct.of_keys (map_fst_resolveEntries lookup _)) (fun hnone => hname ?_) ih
    rw [get?_resolveEntries] at hnone
    exact Option.map_eq_none_iff.1 hnone

theorem Keyed.sameClusters {items : List Value} {entries : Entries} (h : Keyed 0 items entries)
    (anchor : Option Nat) : Config.SameClusters (.map entries anchor) (.list items) := by
  intro lookup
  cases lookup with
  | none => exact h.clustersOf_eq anchor
  | some lookup => exact (h.resolve lookup).clustersOf_eq none

end Tripwire
