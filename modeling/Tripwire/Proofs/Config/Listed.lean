import Tripwire.Proofs.Config.Shared
import Tripwire.Proofs.Config.Variable

/-!
# Listed clusters

A list of clusters is read as a mapping from the names of its entries in lower case. If these names
are different, the mapping has the entries in their order, each under its name, and a variable that
addresses an entry by its name sets a field of that entry and of no other.
-/

namespace Tripwire

/-! ### The mapping from names -/

def listedNames (place : Nat) : List Value → Except Fault (List String)
  | [] => .ok []
  | .map entry _ :: rest => do
    let name ← clusterName entry place
    let names ← listedNames (place + 1) rest
    return name :: names
  | _ :: _ => .error (.config .clusterNotMapping)

def underKeys (keys : List String) (items : List Value) : Entries :=
  List.zipWith (fun key item => (.text key, item)) keys items

theorem listedNames_cons {place : Nat} {item : Value} {rest : List Value} {names : List String}
    (h : listedNames place (item :: rest) = .ok names) :
    ∃ entry anchor name names', item = .map entry anchor ∧ clusterName entry place = .ok name ∧
      listedNames (place + 1) rest = .ok names' ∧ names = name :: names' := by
  cases item with
  | map entry anchor =>
    rw [listedNames, bind_eq_ok] at h
    obtain ⟨name, hname, h⟩ := h
    obtain ⟨names', hnames, h⟩ := bind_eq_ok.1 h
    cases h
    exact ⟨entry, anchor, name, names', rfl, hname, hnames, rfl⟩
  | _ => simp [listedNames] at h

theorem length_listedNames {place : Nat} {items : List Value} {names : List String}
    (h : listedNames place items = .ok names) : names.length = items.length := by
  induction items generalizing place names with
  | nil =>
    cases h
    rfl
  | cons item rest ih =>
    obtain ⟨_, _, name, names', -, -, hrest, rfl⟩ := listedNames_cons h
    rw [List.length_cons, List.length_cons, ih hrest]

theorem map_fst_underKeys {keys : List String} {items : List Value}
    (h : keys.length = items.length) : (underKeys keys items).map (·.1) = keys.map .text := by
  induction keys generalizing items with
  | nil => rfl
  | cons key keys ih =>
    cases items with
    | nil => simp at h
    | cons item rest =>
      have hrest := ih (Nat.succ.inj h)
      rw [underKeys] at hrest ⊢
      rw [List.zipWith_cons_cons, List.map_cons, hrest, List.map_cons]

theorem underKeys_distinct {keys : List String} {items : List Value}
    (h : keys.length = items.length) (hd : keys.Nodup) : (underKeys keys items).Distinct := by
  rw [Entries.distinct_iff, map_fst_underKeys h, List.pairwise_map]
  refine hd.imp fun {a b} hne => ?_
  rw [Value.sameKey_text, beq_eq_false_iff_ne]
  exact hne

theorem addByName_eq {byName : Entries} {place : Nat} {items : List Value} {names : List String}
    (h : listedNames place items = .ok names) (hd : (names.map Text.lowercase).Nodup)
    (hfresh : ∀ name ∈ names, byName.get? (.text (Text.lowercase name)) = none) :
    addByName byName place items =
      .ok (byName ++ underKeys (names.map Text.lowercase) items) := by
  induction items generalizing byName place names with
  | nil =>
    cases h
    rw [addByName, List.map_nil, underKeys, List.zipWith_nil_left, List.append_nil]
  | cons item rest ih =>
    obtain ⟨entry, anchor, name, names', rfl, hname, hrest, rfl⟩ := listedNames_cons h
    obtain ⟨hnew, hd'⟩ := List.nodup_cons.1 hd
    obtain ⟨hfirst, hfresh'⟩ := List.forall_mem_cons.1 hfresh
    have hput := Entries.put_of_get?_eq_none (v := .map entry anchor) hfirst
    rw [addByName, hname, ok_bind, ih hrest hd', hput, List.append_assoc]
    · rfl
    · intro other hother
      have hne : (Text.lowercase name == Text.lowercase other) = false := by
        rw [beq_eq_false_iff_ne]
        intro he
        exact hnew (he ▸ List.mem_map_of_mem hother)
      rw [Entries.get?_put, Value.sameKey_text, hne]
      exact hfresh' other hother

theorem clustersByName_eq {items : List Value} {names : List String}
    (h : listedNames 0 items = .ok names) (hd : (names.map Text.lowercase).Nodup) :
    clustersByName items = .ok (underKeys (names.map Text.lowercase) items) := by
  rw [clustersByName, addByName_eq h hd (by simp), List.nil_append]

theorem lowercase_placeName (place : Nat) :
    Text.lowercase ("cluster-" ++ toString place) = "cluster-" ++ toString place := by
  refine Text.lowercase_of_kept fun c hc => ?_
  rw [String.toList_append, List.mem_append] at hc
  rcases hc with hc | hc
  · have hall : "cluster-".toList.all Text.isKept = true := by decide
    exact List.all_eq_true.1 hall c hc
  · have hdigits : (toString place).toList = Nat.toDigits 10 place := String.toList_ofList
    rw [hdigits] at hc
    exact Text.isKept_of_isDigit (Nat.isDigit_of_mem_toDigits (by decide) (by decide) hc)

theorem keyed_underKeys {place : Nat} {items : List Value} {names : List String}
    (h : listedNames place items = .ok names)
    (hd : ∀ entry anchor, Value.map entry anchor ∈ items → Entries.Distinct entry) :
    Keyed place items (underKeys (names.map Text.lowercase) items) := by
  induction items generalizing place names with
  | nil =>
    cases h
    exact .nil
  | cons item rest ih =>
    obtain ⟨entry, anchor, name, names', rfl, hname, hrest, rfl⟩ := listedNames_cons h
    refine .cons (hd entry anchor (List.mem_cons_self ..)) (fun hnone => ?_)
      (ih hrest fun e a he => hd e a (List.mem_cons_of_mem _ he))
    rw [clusterName, hnone] at hname
    rw [← Except.ok.inj hname]
    exact lowercase_placeName place

theorem Keyed.set {place : Nat} {items : List Value} {entries : Entries}
    (h : Keyed place items entries) {i : Nat} {entry new : Entries} {anchor a : Option Nat}
    {key old : Value} (hi : items[i]? = some (.map entry anchor))
    (hk : entries[i]? = some (key, old)) (hd : new.Distinct)
    (hname : new.get? (.text "name") = none → entry.get? (.text "name") = none) :
    Keyed place (items.set i (.map new a)) (entries.set i (key, .map new a)) := by
  induction h generalizing i with
  | nil => simp at hi
  | cons distinct hown tail ih =>
    cases i with
    | zero =>
      cases hi
      cases hk
      exact .cons hd (fun hnone => hown (hname hnone)) tail
    | succ i => exact .cons distinct hown (ih hi hk)

end Tripwire
