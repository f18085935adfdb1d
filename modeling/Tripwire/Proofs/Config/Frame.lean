import Tripwire.Proofs.Config.Apart
import Tripwire.Proofs.Config.Unshared

/-!
# What a write leaves alone

A value that is written to a tree stands at the end of its path afterwards. Any other path leads where it
led before, except that a list of clusters on the way of the written path is from then on the mapping
from the names of its entries.
-/

namespace Tripwire

/-! ### Lists looked up by name -/

/-- The name in lower case under which an entry of a list is found. -/
def listedName? (place : Nat) : Value → Option String
  | .map entry _ => (clusterName entry place).toOption.map Text.lowercase
  | _ => none

/-- The entry of a list under a key, which is the last one that is found there. -/
def listed? (place : Nat) : List Value → Value → Option Value
  | [], _ => none
  | item :: rest, key =>
    (listed? (place + 1) rest key).or
      (if (listedName? place item).any fun name => (Value.text name).sameKey key then some item
        else none)

theorem get?_addByName {byName r : Entries} {place : Nat} {items : List Value}
    (h : addByName byName place items = .ok r) (key : Value) :
    r.get? key = (listed? place items key).or (byName.get? key) := by
  induction items generalizing byName place with
  | nil =>
    cases h
    rfl
  | cons item rest ih =>
    cases item with
    | map entry anchor =>
      obtain ⟨name, hname, h⟩ := bind_eq_ok.1 h
      have hlisted : listedName? place (.map entry anchor) = some (Text.lowercase name) := by
        rw [listedName?, hname]
        rfl
      rw [ih h, listed?, hlisted, Option.any_some, Entries.get?_put, Option.or_assoc]
      cases (Value.text (Text.lowercase name)).sameKey key <;> rfl
    | _ => cases h

/-- That the name of an entry is a text, if there is one. -/
def NamedByText : Value → Prop
  | .map entry _ => ∀ name, Entries.get? entry (.text "name") = some name → ∃ s, name = .text s
  | _ => True

theorem exists_clusterName {entry : Entries} {anchor : Option Nat}
    (h : NamedByText (.map entry anchor)) (place : Nat) : ∃ name, clusterName entry place = .ok name := by
  rw [clusterName]
  cases hname : entry.get? (.text "name") with
  | none => exact ⟨_, rfl⟩
  | some name =>
    obtain ⟨s, rfl⟩ := h name hname
    by_cases htruthy : (Value.text s).isTruthy = true
    · exact ⟨s, if_pos htruthy⟩
    · exact ⟨_, if_neg htruthy⟩

theorem addByName_eq_error_iff {byName : Entries} {place : Nat} {items : List Value}
    (h : ∀ item ∈ items, NamedByText item) :
    (∃ f, addByName byName place items = .error f) ↔ ∃ item ∈ items, item.isMapping = false := by
  induction items generalizing byName place with
  | nil => simp [addByName]
  | cons item rest ih =>
    obtain ⟨hitem, hrest⟩ := List.forall_mem_cons.1 h
    cases item with
    | map entry anchor =>
      obtain ⟨name, hname⟩ := exists_clusterName hitem place
      simp [addByName, hname, ok_bind, ih hrest, Value.isMapping]
    | _ => simp [addByName, Value.isMapping]

/-! ### Paths followed beside a written one -/

/-- What stands under a key of a mapping or, if it is to be read by names, of a list. -/
def Value.under (byNames : Bool) (v key : Value) : Option Value :=
  match v with
  | .map entries _ => Entries.get? entries key
  | .list items => if byNames then listed? 0 items key else none
  | _ => none

/-- The value at the end of a path, where a list of clusters on the way of a written path, before its
end, is read by names. -/
def Value.followBeside (byNames : Bool) (written : List String) (v : Value) :
    List Value → Option Value
  | [] => some v
  | key :: rest => (v.under byNames key).bind fun w =>
    match written with
    | first :: next :: more =>
      if (Value.text first).sameKey key then
        w.followBeside (first = clustersKey) (next :: more) rest
      else w.follow? rest
    | _ => w.follow? rest

namespace Entries

def followBeside (entries : Entries) (written : List String) (path : List Value) : Option Value :=
  (Value.map entries none).followBeside false written path

/-- That a list of clusters is met on the way of a written path, before its end. -/
def Meets (entries : Entries) (written : List String) (items : List Value) : Prop :=
  ∃ part next rest, written = part ++ clustersKey :: next :: rest ∧
    entries.followBeside written ((part ++ [clustersKey]).map .text) = some (.list items)

end Entries

theorem followBeside_cons_cons (entries : Entries) (key next : String) (rest : List String)
    (path : List Value) : entries.followBeside (key :: next :: rest) (.text key :: path) =
      (entries.get? (.text key)).bind fun w =>
        w.followBeside (key = clustersKey) (next :: rest) path := by
  simp [Entries.followBeside, Value.followBeside, Value.under]

theorem Entries.Meets.exists_cons_cons {entries : Entries} {written : List String} {items : List Value}
    (h : entries.Meets written items) : ∃ key next rest, written = key :: next :: rest := by
  obtain ⟨part, next, rest, rfl, -⟩ := h
  match part with
  | [] => exact ⟨_, _, _, rfl⟩
  | [key] => exact ⟨_, _, _, rfl⟩
  | key :: second :: part => exact ⟨_, _, _, rfl⟩

theorem meets_cons_cons {entries : Entries} {key next : String} {rest : List String}
    {items : List Value} : entries.Meets (key :: next :: rest) items ↔
      key = clustersKey ∧ entries.get? (.text key) = some (.list items) ∨
      ∃ part second more, next :: rest = part ++ clustersKey :: second :: more ∧
        ((entries.get? (.text key)).bind fun w => w.followBeside (key = clustersKey) (next :: rest)
          ((part ++ [clustersKey]).map .text)) = some (.list items) := by
  constructor
  · rintro ⟨part, second, more, heq, hget⟩
    cases part with
    | nil =>
      obtain ⟨rfl, -⟩ := List.cons.inj heq
      rw [List.nil_append, List.map_singleton, followBeside_cons_cons] at hget
      exact .inl ⟨rfl, (Option.bind_fun_some _).symm.trans hget⟩
    | cons k part =>
      rw [List.cons_append] at heq
      obtain ⟨rfl, hrest⟩ := List.cons.inj heq
      rw [List.cons_append, List.map_cons, followBeside_cons_cons] at hget
      exact .inr ⟨part, second, more, hrest, hget⟩
  · rintro (⟨rfl, hget⟩ | ⟨part, second, more, heq, hget⟩)
    · refine ⟨[], next, rest, rfl, ?_⟩
      rw [List.nil_append, List.map_singleton, followBeside_cons_cons, hget]
      rfl
    · refine ⟨key :: part, second, more, by rw [heq, List.cons_append], ?_⟩
      rw [List.cons_append, List.map_cons, followBeside_cons_cons]
      exact hget

section OnPath

variable {key : String} {current : Option Value} {child : Entries} {anchor : Option Nat}

/-- The mapping on a path has the entries that are found under what stood there. -/
theorem under_of_mappingOnPath (h : mappingOnPath key current = .ok (child, anchor)) (k : Value) :
    (current.bind fun w => w.under (key = clustersKey) k) = child.get? k := by
  cases current with
  | none =>
    cases h
    rfl
  | some c =>
    cases c with
    | map entries a =>
      cases h
      rfl
    | list items =>
      rw [mappingOnPath] at h
      rw [Option.bind_some, Value.under]
      by_cases hk : key = clustersKey
      · rw [if_pos hk, map_eq_ok] at h
        obtain ⟨byName, hbyName, h⟩ := h
        cases h
        simp [hk, get?_addByName hbyName]
      · rw [if_neg hk] at h
        cases h
        simp [hk]
    | _ =>
      cases h
      rfl

theorem followBeside_of_mappingOnPath (h : mappingOnPath key current = .ok (child, anchor))
    (written : List String) {p : List Value} (hp : p ≠ []) :
    (current.bind fun w => w.followBeside (key = clustersKey) written p) =
      child.followBeside written p := by
  obtain ⟨k, rest, rfl⟩ := List.exists_cons_of_ne_nil hp
  simp only [Entries.followBeside, Value.followBeside, ← Option.bind_assoc, under_of_mappingOnPath h]
  rfl

theorem meets_of_mappingOnPath {entries : Entries} {next : String} {rest : List String}
    {items : List Value} (h : mappingOnPath key (entries.get? (.text key)) = .ok (child, anchor)) :
    entries.Meets (key :: next :: rest) items ↔
      key = clustersKey ∧ entries.get? (.text key) = some (.list items) ∨
        child.Meets (next :: rest) items := by
  have hbeside (part : List String) := followBeside_of_mappingOnPath h (next :: rest)
    (p := (part ++ [clustersKey]).map .text) (by simp)
  rw [meets_cons_cons]
  simp only [hbeside, Entries.Meets]

theorem mappingOnPath_eq_error_iff
    (h : ∀ items, current = some (.list items) → key = clustersKey → ∀ item ∈ items, NamedByText item) :
    (∃ f, mappingOnPath key current = .error f) ↔ ∃ items, key = clustersKey ∧
      current = some (.list items) ∧ ∃ item ∈ items, item.isMapping = false := by
  cases current with
  | none => simp [mappingOnPath]
  | some c =>
    cases c with
    | list items =>
      by_cases hk : key = clustersKey
      · have hiff : (∃ f, addByName [] 0 items = .error f) ↔ ∃ item ∈ items, item.isMapping = false :=
          addByName_eq_error_iff (h items rfl hk)
        have hmap : (∃ f, mappingOnPath key (some (.list items)) = .error f) ↔
            ∃ f, addByName [] 0 items = .error f := by
          rw [mappingOnPath, if_pos hk, clustersByName]
          cases addByName [] 0 items <;> simp [Except.map]
        rw [hmap, hiff]
        simp [hk]
      · simp [mappingOnPath, hk]
    | _ => simp [mappingOnPath]

end OnPath

/-! ### Writing -/

theorem follow?_put_self (entries : Entries) (key : String) (v : Value) (path : List Value) :
    Entries.follow? (entries.put (.text key) v) (.text key :: path) = v.follow? path := by
  rw [Entries.follow?_cons, Entries.get?_put]
  simp

theorem follow?_put_other {key : String} {k : Value} (hk : (Value.text key).sameKey k = false)
    (entries : Entries) (v : Value) (rest : List String) (path : List Value) :
    Entries.follow? (entries.put (.text key) v) (k :: path) =
      entries.followBeside (key :: rest) (k :: path) := by
  rw [Entries.follow?_cons, Entries.get?_put, hk]
  cases rest <;> simp [Entries.followBeside, Value.followBeside, Value.under, hk]

section Write

variable {entries r : Entries} (ht : entries.IsTree) (v : Value)
include ht

/-- The value stands at the end of its path, and a path that is no part of the written one and that the
written one is no part of leads where it led before. -/
theorem follow?_write {path : List String} (hp : path ≠ []) (h : entries.write path v = .ok r) :
    r.follow? (path.map .text) = some v ∧
      ∀ q, ¬q <+: path.map .text → ¬path.map .text <+: q → r.follow? q = entries.followBeside path q := by
  induction path generalizing entries r with
  | nil => exact absurd rfl hp
  | cons key rest ih =>
    cases rest with
    | nil =>
      cases h
      refine ⟨follow?_put_self entries key v [], fun q hq hpath => ?_⟩
      cases q with
      | nil => exact absurd List.nil_prefix hq
      | cons k q =>
        cases hk : (Value.text key).sameKey k with
        | false => exact follow?_put_other hk entries v [] q
        | true =>
          obtain rfl := sameKey_text_iff.1 hk
          exact absurd (List.cons_prefix_cons.2 ⟨rfl, List.nil_prefix⟩) hpath
    | cons next rest =>
      rw [Entries.write_under (ht.unshared _), bind_eq_ok] at h
      obtain ⟨⟨child, anchor⟩, hchild, h⟩ := h
      obtain ⟨written, hwritten, rfl⟩ := map_eq_ok.1 h
      obtain ⟨-, hct⟩ := mappingOnPath_isTree (ht.under _) hchild
      obtain ⟨hset, hframe⟩ := ih hct (by simp) hwritten
      refine ⟨(follow?_put_self entries key _ _).trans hset, fun q hq hpath => ?_⟩
      cases q with
      | nil => exact absurd List.nil_prefix hq
      | cons k q =>
        cases hk : (Value.text key).sameKey k with
        | false => exact follow?_put_other hk entries _ _ q
        | true =>
          obtain rfl := sameKey_text_iff.1 hk
          rw [List.map_cons, List.cons_prefix_cons] at hq hpath
          have hq' : ¬q <+: (next :: rest).map .text := fun h => hq ⟨rfl, h⟩
          have hpath' : ¬(next :: rest).map .text <+: q := fun h => hpath ⟨rfl, h⟩
          have hne : q ≠ [] := fun he => hq' (he ▸ List.nil_prefix)
          calc Entries.follow? (entries.put (.text key) (.map written none)) (.text key :: q)
              = Entries.follow? written q := follow?_put_self entries key _ q
            _ = child.followBeside (next :: rest) q := hframe q hq' hpath'
            _ = (entries.get? (.text key)).bind fun w =>
                  w.followBeside (key = clustersKey) (next :: rest) q :=
                (followBeside_of_mappingOnPath hchild _ hne).symm
            _ = entries.followBeside (key :: next :: rest) (.text key :: q) :=
                (followBeside_cons_cons entries key next rest q).symm

theorem write_cons_cons_eq_error_iff {key next : String} {rest : List String} {child : Entries}
    {anchor : Option Nat} (hchild : mappingOnPath key (entries.get? (.text key)) = .ok (child, anchor)) :
    (∃ f, entries.write (key :: next :: rest) v = .error f) ↔
      ∃ f, child.write (next :: rest) v = .error f := by
  rw [Entries.write_under (ht.unshared _), hchild, ok_bind]
  cases child.write (next :: rest) v <;> simp [Except.map]

/-- A write fails exactly if a list of clusters is met that has an entry which is no mapping. -/
theorem write_eq_error_iff {path : List String}
    (hnames : ∀ items, entries.Meets path items → ∀ item ∈ items, NamedByText item) :
    (∃ f, entries.write path v = .error f) ↔
      ∃ items, entries.Meets path items ∧ ∃ item ∈ items, item.isMapping = false := by
  -- On a path with one key or none nothing is met.
  have hshort (entries : Entries) {path : List String} (hok : ∃ r, entries.write path v = .ok r)
      (hpath : ∀ key next rest, path ≠ key :: next :: rest) :
      (∃ f, entries.write path v = .error f) ↔
        ∃ items, entries.Meets path items ∧ ∃ item ∈ items, item.isMapping = false := by
    obtain ⟨r, hr⟩ := hok
    refine iff_of_false (by simp [hr]) fun ⟨items, hmeets, _⟩ => ?_
    obtain ⟨key, next, rest, h⟩ := hmeets.exists_cons_cons
    exact hpath key next rest h
  induction path generalizing entries with
  | nil => exact hshort entries ⟨_, rfl⟩ (by simp)
  | cons key rest ih =>
    cases rest with
    | nil => exact hshort entries ⟨_, rfl⟩ (by simp)
    | cons next rest =>
      have hmet (items : List Value) (hk : key = clustersKey)
          (hget : entries.get? (.text key) = some (.list items)) :
          entries.Meets (key :: next :: rest) items := meets_cons_cons.2 (.inl ⟨hk, hget⟩)
      have hbelow := mappingOnPath_eq_error_iff fun items hget hk => hnames items (hmet items hk hget)
      cases hchild : mappingOnPath key (entries.get? (.text key)) with
      | error f =>
        obtain ⟨items, hk, hget, hitem⟩ := hbelow.1 ⟨f, hchild⟩
        exact iff_of_true ⟨f, by rw [Entries.write_under (ht.unshared _), hchild]; rfl⟩
          ⟨items, hmet items hk hget, hitem⟩
      | ok below =>
        obtain ⟨child, anchor⟩ := below
        obtain ⟨-, hct⟩ := mappingOnPath_isTree (ht.under _) hchild
        have hmeets (items : List Value) : entries.Meets (key :: next :: rest) items ↔
            key = clustersKey ∧ entries.get? (.text key) = some (.list items) ∨
              child.Meets (next :: rest) items := meets_of_mappingOnPath hchild
        have hgood (items : List Value) (hitem : ∃ item ∈ items, item.isMapping = false) :
            ¬(key = clustersKey ∧ entries.get? (.text key) = some (.list items)) := by
          rintro ⟨hk, hget⟩
          obtain ⟨f, hf⟩ := hbelow.2 ⟨items, hk, hget, hitem⟩
          cases hf.symm.trans hchild
        have hchildError := ih hct fun items h => hnames items ((hmeets items).2 (.inr h))
        refine ((write_cons_cons_eq_error_iff ht v hchild).trans hchildError).trans ?_
        refine exists_congr fun items => and_congr_left fun hitem => ?_
        rw [hmeets, or_iff_right (hgood items hitem)]

end Write

/-- A write that does not fail changes where its path leads, and the paths that start or end on it; any
other leads where it led, lists of clusters on the way read by names. It fails exactly if it meets such a
list with an entry that is no mapping. -/
theorem write_changes_its_path {entries : Entries} (ht : entries.IsTree) {path : List String}
    (hp : path ≠ []) (v : Value) :
    (∀ r, entries.write path v = .ok r →
      r.follow? (path.map .text) = some v ∧
        ∀ q, ¬q <+: path.map .text → ¬path.map .text <+: q →
          r.follow? q = entries.followBeside path q) ∧
    ((∀ items, entries.Meets path items → ∀ item ∈ items, NamedByText item) →
      ((∃ f, entries.write path v = .error f) ↔
        ∃ items, entries.Meets path items ∧ ∃ item ∈ items, item.isMapping = false)) :=
  ⟨fun _ h => follow?_write ht v hp h, write_eq_error_iff ht v⟩

/-- Of two entries whose names differ in letter case the later one counts, an entry without a name is
found under its place, and an entry that is no mapping fails the write. -/
theorem later_name_counts :
    let first : Value := .map [(.text "name", .text "Main"), (.text "url", .text "https://1")] none
    let second : Value := .map [(.text "name", .text "MAIN"), (.text "url", .text "https://2")] none
    let third : Value := .map [(.text "url", .text "https://3")] none
    let path := [clustersKey, "main", "token"]
    (∃ r, Entries.write [(.text clustersKey, .list [first, second, third])] path (.text "t") = .ok r ∧
      r.follow? [.text clustersKey, .text "main", .text "token"] = some (.text "t") ∧
      r.follow? [.text clustersKey, .text "main", .text "url"] = some (.text "https://2") ∧
      r.follow? [.text clustersKey, .text "cluster-2"] = some third) ∧
    ∃ f, Entries.write [(.text clustersKey, .list [first, .text "second"])] path (.text "t") = .error f := by
  intro first second third path
  have hmain : Text.lowercase "Main" = "main" := by cbv
  have hagain : Text.lowercase "MAIN" = "main" := by cbv
  have hplace : Text.lowercase ("cluster-" ++ Nat.repr 2) = "cluster-2" := by cbv
  have hnamed (name url : String) :
      (Value.map [(.text "name", .text name), (.text "url", .text url)] none).IsTree :=
    Value.isTree_map_iff.2 ⟨rfl, Entries.isTree_cons.2
      ⟨by simp, Value.isTree_text _, Entries.isTree_singleton (Value.isTree_text _)⟩⟩
  have hthird : third.IsTree :=
    Value.isTree_map_iff.2 ⟨rfl, Entries.isTree_singleton (Value.isTree_text _)⟩
  have hlisted : listed? 0 [first, second, third] (.text "main") = some second := by
    simp [first, second, third, listed?, listedName?, clusterName, Entries.get?_cons, Value.isTruthy,
      Value.toText, hmain, hagain, hplace, Except.toOption]
  have hunnamed : listed? 0 [first, second, third] (.text "cluster-2") = some third := by
    simp [first, second, third, listed?, listedName?, clusterName, Entries.get?_cons, Value.isTruthy,
      Value.toText, hmain, hagain, hplace, Except.toOption]
  have hpath : path ≠ [] := by simp [path]
  constructor
  · have ht : Entries.IsTree [(.text clustersKey, .list [first, second, third])] :=
      Entries.isTree_singleton (Value.isTree_list_iff.2 (by simp [first, second, hnamed, hthird]))
    obtain ⟨r, hr⟩ : ∃ r, Entries.write [(.text clustersKey, .list [first, second, third])] path
        (.text "t") = .ok r := ⟨_, rfl⟩
    obtain ⟨hset, hframe⟩ := (write_changes_its_path ht hpath (.text "t")).1 r hr
    refine ⟨r, hr, hset, ?_, ?_⟩
    · rw [hframe _ (by simp [path]) (by simp [path]), followBeside_cons_cons]
      simp [Value.followBeside, Value.under, hlisted, Entries.get?_cons, second]
    · rw [hframe _ (by simp [path]) (by simp [path]), followBeside_cons_cons]
      simp [Value.followBeside, Value.under, hunnamed, Entries.get?_cons]
  · have ht : Entries.IsTree [(.text clustersKey, .list [first, .text "second"])] :=
      Entries.isTree_singleton (Value.isTree_list_iff.2 (by simp [first, hnamed, Value.isTree_text]))
    have hmeets (items : List Value) :
        Entries.Meets [(.text clustersKey, .list [first, .text "second"])] path items ↔
          [first, .text "second"] = items := by
      refine meets_cons_cons.trans ⟨?_, fun h => .inl ⟨rfl, by rw [← h]; rfl⟩⟩
      rintro (⟨-, hget⟩ | ⟨part, next, rest, heq, -⟩)
      · exact Value.list.inj (Option.some.inj hget)
      · have hmem : clustersKey ∈ ["main", "token"] := by
          rw [heq]
          simp
        simp [clustersKey] at hmem
    refine ((write_changes_its_path ht hpath (.text "t")).2 fun items h => ?_).2
      ⟨_, (hmeets _).2 rfl, .text "second", by simp, rfl⟩
    obtain rfl := (hmeets items).1 h
    simp [NamedByText, first, Entries.get?_cons]

end Tripwire
