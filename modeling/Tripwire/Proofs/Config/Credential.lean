import Tripwire.Proofs.Config.Kept
import Tripwire.Proofs.Config.Loading
import Tripwire.Proofs.Config.Proper

/-!
# Tokens and namespaces by reference

A cluster's entry may leave its token or namespace to a variable. The variable's value takes the place of
the reference, and a reference that is still there counts as missing. So does, by the same test, a value
that looks like one.
-/

namespace Tripwire

variable {W : Type}

/-! ### References -/

/-- The text that refers to a variable. -/
def reference (name : String) : String := String.ofList ('$' :: '{' :: (name.toList ++ ['}']))

theorem takeReference?_braces {name : List Char} (h : '}' ∉ name) (rest : List Char) :
    takeReference? ('{' :: (name ++ '}' :: rest)) = some (name, rest) := by
  have hopen : ∀ c ∈ name, decide (c ≠ '}') = true := by
    intro c hc
    rw [decide_eq_true_iff]
    rintro rfl
    exact h hc
  have htaken : (name ++ '}' :: rest).takeWhile (· ≠ '}') = name := by
    rw [List.takeWhile_append_of_pos hopen, List.takeWhile_cons_of_neg (by decide), List.append_nil]
  have hleft : (name ++ '}' :: rest).dropWhile (· ≠ '}') = '}' :: rest := by
    rw [List.dropWhile_append_of_pos hopen, List.dropWhile_cons_of_neg (by decide)]
  simp only [takeReference?, hleft, htaken]

theorem resolveText_reference (lookup : String → Option String) {name : String}
    (h : '}' ∉ name.toList) :
    resolveText lookup (reference name) = (lookup name).getD (reference name) := by
  have htake := takeReference?_braces h []
  have hnil : resolveChars lookup [] = [] := by rw [resolveChars]
  rw [resolveText, reference, String.toList_ofList, resolveChars, if_pos rfl]
  split
  · rename_i found after hfound
    rw [htake] at hfound
    cases hfound
    rw [String.ofList_toList, hnil, List.append_nil]
    cases lookup name with
    | some v => exact String.ofList_toList
    | none =>
      dsimp only
      rw [List.length_nil, Nat.sub_zero, List.take_length]
      rfl
  · rename_i hnone
    rw [htake] at hnone
    cases hnone

namespace Config

theorem hasReference_cons (c : Char) (cs : List Char) :
    hasReference (c :: cs) = true ↔ ['$', '{'] <+: c :: cs ∨ hasReference cs = true := by
  conv_lhs => unfold hasReference
  split
  · rename_i rest heq
    obtain ⟨rfl, rfl⟩ := List.cons.inj heq
    exact iff_of_true rfl (.inl ⟨rest, rfl⟩)
  · rename_i rest hnot heq
    obtain ⟨rfl, rfl⟩ := List.cons.inj heq
    refine (or_iff_right ?_).symm
    rintro ⟨tail, htail⟩
    obtain ⟨rfl, rfl⟩ := List.cons.inj htail
    exact hnot tail rfl rfl
  · rename_i heq
    cases heq

theorem hasReference_iff {cs : List Char} : hasReference cs = true ↔ ['$', '{'] <:+: cs := by
  induction cs with
  | nil => simp [hasReference]
  | cons c cs ih => rw [hasReference_cons, List.infix_cons_iff, ih]

theorem hasReference_reference (name : String) : hasReference (reference name).toList = true := by
  rw [reference, String.toList_ofList]
  rfl

theorem optionalText_of_ne_empty {s : String} (h : s ≠ "") :
    optionalText (.text s) = .ok (if hasReference s.toList then none else some s) := by
  unfold optionalText
  split
  · rename_i heq
    cases heq
  · rename_i heq
    cases heq
    exact absurd rfl h
  · rfl

/-! ### Entries and clusters -/

/-- The fields of a cluster that may be missing. -/
inductive Credential where
  | token
  | space

namespace Credential

def key : Credential → String
  | token => "token"
  | space => "namespace"

def of (f : Credential) (c : Cluster) : Option String :=
  match f with
  | token => c.token
  | space => c.space

theorem key_ne_name (f : Credential) : f.key ≠ "name" := by
  cases f <;> decide

theorem optionalText_eq {place : Nat} {entries : Entries} {anchor : Option Nat} {c : Cluster}
    (h : clusterOf place (.map entries anchor) = .ok c) (f : Credential) :
    optionalText (valueAt entries f.key) = .ok (f.of c) := by
  unfold clusterOf at h
  dsimp only at h
  split at h
  · cases h
  · obtain ⟨name, -, h⟩ := bind_eq_ok.1 h
    obtain ⟨url, -, h⟩ := bind_eq_ok.1 h
    obtain ⟨token, htoken, h⟩ := bind_eq_ok.1 h
    obtain ⟨space, hspace, h⟩ := bind_eq_ok.1 h
    obtain ⟨verify, -, h⟩ := bind_eq_ok.1 h
    cases h
    cases f with
    | token => exact htoken
    | space => exact hspace

end Credential

/-- What stands at a place of a list, or of a mapping. -/
def itemAt? (v : Value) (i : Nat) : Option Value :=
  match v with
  | .list items => items[i]?
  | .map named _ => named[i]?.map fun e => e.2
  | _ => none

/-- The entry of a cluster by its place in the list, or in the mapping from names. -/
def clusterEntry? (data : Entries) (i : Nat) : Option Entries :=
  match (data.get? (.text clustersKey)).bind (itemAt? · i) with
  | some (.map entry _) => some entry
  | _ => none

theorem exists_itemAt? {data entry : Entries} {i : Nat} (h : clusterEntry? data i = some entry) :
    ∃ v anchor, data.get? (.text clustersKey) = some v ∧ itemAt? v i = some (.map entry anchor) := by
  unfold clusterEntry? at h
  split at h
  · rename_i entry' anchor hitem
    cases h
    obtain ⟨v, hv, hat⟩ := Option.bind_eq_some_iff.1 hitem
    exact ⟨v, anchor, hv, hat⟩
  · cases h

/-- Each entry makes the cluster at its place, from its fields with their references resolved. -/
theorem exists_cluster {data entry : Entries} {lookup : String → Option String} {c : Config} {i : Nat}
    (hd : data.Proper) (hentry : clusterEntry? data i = some entry)
    (h : ofValue (.map (resolveEntries lookup data) none) = .ok c) :
    ∃ cluster read, c.clusters[i]? = some cluster ∧
      clusterOf i (.map read none) = .ok cluster ∧
      ∀ key, key ≠ "name" → Entries.get? read (.text key) =
        (entry.get? (.text key)).map (Value.resolve lookup) := by
  obtain ⟨v, anchor, hdata, hitem⟩ := exists_itemAt? hentry
  have hat : valueAt (resolveEntries lookup data) "clusters" = readBy (some lookup) v :=
    valueAt_clusters (by rw [get?_resolveEntries, hdata]; rfl)
  have hclusters := (ofValue_eq_ok_iff.1 h).2.2
  rw [hat] at hclusters
  have hv := hd.under _ _ hdata
  cases v with
  | list items =>
    obtain ⟨cluster, hget, hof⟩ := getElem?_clustersOf_list hclusters hitem
    exact ⟨cluster, _, hget, hof, fun key _ => get?_resolveEntries lookup entry _⟩
  | map named a =>
    obtain ⟨⟨key, w⟩, hplace, rfl⟩ := Option.map_eq_some_iff.1 hitem
    obtain ⟨item, cluster, hnamed, hget, hof⟩ := getElem?_clustersOf_map hclusters hplace
    obtain ⟨shown, -, hnamed⟩ := bind_eq_ok.1 hnamed
    cases hnamed
    have hproper := (Value.proper_map_iff.1 hv).2 _ (List.mem_of_getElem? hplace)
    have hkeys := (Value.proper_map_iff.1 hproper).1.of_keys (map_fst_resolveEntries lookup entry)
    refine ⟨cluster, _, hget, hof, fun field hfield => ?_⟩
    rw [get?_ofPairs_of_ne hkeys _ hfield]
    exact get?_resolveEntries lookup entry _
  | _ => cases hitem

/-- What becomes of a field that is left to a variable. -/
theorem exists_credential {data entry : Entries} {lookup : String → Option String} {c : Config}
    {i : Nat} (hd : data.Proper) (hentry : clusterEntry? data i = some entry)
    (h : ofValue (.map (resolveEntries lookup data) none) = .ok c) (f : Credential) {name : String}
    (hname : '}' ∉ name.toList)
    (hfield : entry.get? (.text f.key) = some (.text (reference name))) :
    ∃ cluster, c.clusters[i]? = some cluster ∧
      optionalText (.text ((lookup name).getD (reference name))) = .ok (f.of cluster) := by
  obtain ⟨cluster, read, hget, hof, hread⟩ := exists_cluster hd hentry h
  have hat : valueAt read f.key = .text ((lookup name).getD (reference name)) := by
    rw [valueAt, hread _ f.key_ne_name, hfield, ← resolveText_reference lookup hname]
    rfl
  have hvalue := f.optionalText_eq hof
  rw [hat] at hvalue
  exact ⟨cluster, hget, hvalue⟩

end Config

/-! ### Files without variables and overrides -/

namespace Host

/-- What the two files of a host hold together. -/
def fileData (h : Host) (root : Option Files.Path) (own : Option String) : Except Fault Entries := do
  let shared ← h.layer 0 (h.sharedPath root)
  let loc ← h.layer 1 (h.localPath root own)
  fileLayers shared loc

theorem proper_layer {h : Host} (hproper : h.ReadsProper) {place : Nat} {p : Files.Path}
    {entries : Entries} (hlayer : h.layer place p = .ok entries) : entries.Proper := by
  unfold layer at hlayer
  split at hlayer
  · split at hlayer
    · cases hlayer
      exact Entries.proper_nil
    · exact proper_fileEntries hproper hlayer
  · cases hlayer
    exact Entries.proper_nil

theorem proper_fileData {h : Host} (hproper : h.ReadsProper) {root : Option Files.Path}
    {own : Option String} {data : Entries} (hdata : h.fileData root own = .ok data) :
    data.Proper := by
  obtain ⟨shared, hshared, hdata⟩ := bind_eq_ok.1 hdata
  obtain ⟨loc, hloc, hdata⟩ := bind_eq_ok.1 hdata
  obtain ⟨merged, hmerged, hdata⟩ := bind_eq_ok.1 hdata
  have hm := proper_lay Entries.proper_nil (proper_layer hproper hshared) hmerged
  exact proper_lay hm (proper_layer hproper hloc) hdata

/-- Without variables and overrides a configuration is read from what the files hold. -/
theorem load_of_files {h : Host} {root : Option Files.Path} {own : Option String}
    {given : Option (Named String)} {data : Entries} {c : Config}
    (hdata : h.fileData root own = .ok data)
    (hvariables : variableWrites (given.getD h.environment) = [])
    (hload : h.load root own given [] = .ok c) :
    Config.ofValue (.map (resolveEntries h.environment.get? data) none) = .ok c := by
  obtain ⟨shared, hshared, hdata⟩ := bind_eq_ok.1 hdata
  obtain ⟨loc, hloc, hdata⟩ := bind_eq_ok.1 hdata
  have hmerge : mergeLayers shared loc (given.getD h.environment) [] = .ok data := by
    rw [mergeLayers_eq_layersOver hdata, layersOver, environmentLayer, hvariables]
    rfl
  obtain ⟨_, -, hload⟩ := bind_eq_ok.1 hload
  rw [hshared, ok_bind, hloc, ok_bind, hmerge, ok_bind] at hload
  exact hload

end Host

/-- Where the files leave a token or a namespace to a variable, a loaded configuration has the value of
the variable, or none if the variable is not set. The exception is a value in which a reference seems to
begin; it is left out. Documents may be read by any reader that gives no key twice. -/
theorem credential_is_variable_unless_it_refers {h : Host} {root : Option Files.Path}
    {own : Option String} {given : Option (Named String)} {data entry : Entries}
    (hproper : h.ReadsProper) (hdata : h.fileData root own = .ok data)
    (hvariables : variableWrites (given.getD h.environment) = []) {s t : Stage W} {c : Config}
    (hload : (loadConfig h root own given []).on s = (.ok c, t)) {i : Nat}
    (hentry : Config.clusterEntry? data i = some entry) (f : Config.Credential) {name : String}
    (hname : '}' ∉ name.toList)
    (hfield : entry.get? (.text f.key) = some (.text (reference name))) :
    ∃ cluster, c.clusters[i]? = some cluster ∧
      (∀ v, h.environment.get? name = some v → v ≠ "" →
        (¬['$', '{'] <:+: v.toList → f.of cluster = some v) ∧
        (['$', '{'] <:+: v.toList → f.of cluster = none)) ∧
      (h.environment.get? name = none → f.of cluster = none) := by
  rw [(h.reads_loadConfig root own given []).on_eq s] at hload
  have hread := Host.load_of_files hdata hvariables (Prod.mk.inj hload).1
  obtain ⟨cluster, hget, hvalue⟩ :=
    Config.exists_credential (Host.proper_fileData hproper hdata) hentry hread f hname hfield
  refine ⟨cluster, hget, fun v hv hne => ?_, fun hnone => ?_⟩
  · rw [hv, Option.getD_some, Config.optionalText_of_ne_empty hne] at hvalue
    rw [← Config.hasReference_iff, ← Except.ok.inj hvalue]
    exact ⟨fun hplain => if_neg hplain, fun hlooks => if_pos hlooks⟩
  · have hne : reference name ≠ "" := by
      intro hempty
      have hchars := Config.hasReference_reference name
      rw [hempty] at hchars
      cases hchars
    rw [hnone, Option.getD_none, Config.optionalText_of_ne_empty hne,
      Config.hasReference_reference] at hvalue
    exact (Except.ok.inj hvalue).symm

/-- A host with one file, in which a cluster's token is left to a variable, and the variable. -/
def hostWithToken (v : String) : Host where
  files := .directory [("failfast.yaml", .file
    "clusters:\n  - name: m\n    url: https://m\n    token: $\x7bT\x7d\n".toUTF8.toList)]
  environment := [("T", v)]

theorem token_is_variable :
    let h := hostWithToken "abc"
    let loaded := ((loadConfig h (some (Files.Path.ofText ".")) none none []).on
      ({ world := () } : Stage Unit)).1
    ∃ c cluster, loaded = .ok c ∧ c.clusters[0]? = some cluster ∧ cluster.token = some "abc" := by
  intro h loaded
  obtain ⟨data, hdata, htoken⟩ := exists_ok_of_toOption
    (x := h.fileData (some (Files.Path.ofText ".")) none)
    (f := fun data =>
      ((Config.clusterEntry? data 0).bind (·.get? (.text "token"))).bind Value.text?)
    (b := some "$\x7bT\x7d") (by decide +kernel)
  obtain ⟨c, hc, -⟩ := exists_ok_of_toOption (x := loaded) (f := fun _ => ()) (b := ())
    (by decide +kernel)
  obtain ⟨v, hv, htext⟩ := Option.bind_eq_some_iff.1 htoken
  obtain ⟨entry, hentry, hfield⟩ := Option.bind_eq_some_iff.1 hv
  have hreference : v = .text (reference "T") := Value.text?_eq_some_iff.1 htext
  rw [hreference] at hfield
  obtain ⟨cluster, hget, hset, -⟩ := credential_is_variable_unless_it_refers
    (Host.readsProper_of_yaml rfl) hdata (by decide +kernel) (Prod.ext hc rfl) hentry .token (by decide)
    hfield
  exact ⟨c, cluster, hc, hget, (hset "abc" (by decide) (by decide)).1 (by decide)⟩

/-- A token in which a dollar sign stands before a brace is lost. -/
theorem token_like_reference_is_lost :
    let h := hostWithToken "a$\x7bb"
    ∃ c, ((loadConfig h (some (Files.Path.ofText ".")) none none []).on
        ({ world := () } : Stage Unit)).1 = .ok c ∧
      h.environment.get? "T" = some "a$\x7bb" ∧ c.clusters.map (·.token) = [none] := by
  intro h
  obtain ⟨c, hc, htoken⟩ := exists_ok_of_toOption
    (x := ((loadConfig h (some (Files.Path.ofText ".")) none none []).on
      ({ world := () } : Stage Unit)).1)
    (f := fun c => c.clusters.map (·.token)) (b := [none]) (by decide +kernel)
  exact ⟨c, hc, by decide, htoken⟩

end Tripwire
