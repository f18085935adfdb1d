import Tripwire.Config.Shared
import Tripwire.Proofs.Config.Reading

/-!
# Shared mappings brought up to date

Giving a shared mapping its new content keeps all keys, and doing it twice is doing it once.
-/

namespace Tripwire

variable (anchor : Nat) (content : Entries)

mutual

theorem renew_renew : ∀ v : Value,
    (v.renew anchor content).renew anchor content = v.renew anchor content
  | .list items => by
    rw [Value.renew, Value.renew, renewItems_renewItems items]
  | .map entries a => by
    by_cases h : a = some anchor
    · simp [Value.renew, h]
    · simp [Value.renew, h, renewEntries_renewEntries entries]
  | .null | .bool _ | .int _ | .float _ | .text _ | .bytes _ | .date _ | .moment _ => rfl

theorem renewItems_renewItems : ∀ items : List Value,
    renewItems anchor content (renewItems anchor content items) = renewItems anchor content items
  | [] => rfl
  | v :: rest => by
    rw [renewItems, renewItems, renew_renew v, renewItems_renewItems rest]

theorem renewEntries_renewEntries : ∀ entries : List (Value × Value),
    renewEntries anchor content (renewEntries anchor content entries) =
      renewEntries anchor content entries
  | [] => rfl
  | (k, v) :: rest => by
    rw [renewEntries, renewEntries, renew_renew v, renewEntries_renewEntries rest]

end

theorem renewItems_eq_map (items : List Value) :
    renewItems anchor content items = items.map (Value.renew anchor content) :=
  eq_map_of_cons rfl (fun _ _ => rfl) items

theorem renewEntries_eq_map (entries : Entries) :
    renewEntries anchor content entries = entries.map fun e => (e.1, e.2.renew anchor content) :=
  eq_map_of_cons rfl (fun _ _ => rfl) entries

theorem get?_renewEntries (entries : Entries) (key : Value) :
    Entries.get? (renewEntries anchor content entries) key =
      (entries.get? key).map (Value.renew anchor content) := by
  rw [renewEntries_eq_map, Entries.get?_map]

theorem map_fst_renewEntries (entries : Entries) :
    (renewEntries anchor content entries).map (·.1) = entries.map (·.1) := by
  rw [renewEntries_eq_map, Entries.map_fst_map]

theorem others_renewEntries (entries : Entries) :
    Entries.others (renewEntries anchor content entries) =
      renewEntries anchor content entries.others := by
  rw [renewEntries_eq_map, renewEntries_eq_map, Entries.others, Entries.others, List.filter_map]
  rfl

theorem others_apply (news : News) (entries : Entries) :
    (news.apply entries).others = news.apply entries.others := by
  unfold News.apply
  induction news generalizing entries with
  | nil => rfl
  | cons change rest ih =>
    rw [List.foldl_cons, List.foldl_cons, ih, others_renewEntries]

theorem get?_apply (news : News) (entries : Entries) (key : Value) :
    (news.apply entries).get? key = (entries.get? key).map news.applyValue := by
  unfold News.apply News.applyValue
  induction news generalizing entries with
  | nil => exact Option.map_id'.symm
  | cons change rest ih =>
    rw [List.foldl_cons, ih, get?_renewEntries, Option.map_map]
    rfl

variable {anchor} {content}

/-- The new content of a shared entry has to have a name if an entry that it replaces has one. -/
theorem Keyed.renew {place : Nat} {items : List Value} {entries : Entries}
    (h : Keyed place items entries) (hd : content.Distinct)
    (hname : ∀ entry : Entries, .map entry (some anchor) ∈ items → content.get? (.text "name") = none →
      entry.get? (.text "name") = none) :
    Keyed place (renewItems anchor content items) (renewEntries anchor content entries) := by
  induction h with
  | nil => exact .nil
  | @cons place items rest entry key a distinct hown tail ih =>
    have htail := ih fun entry he => hname entry (List.mem_cons_of_mem _ he)
    rw [renewItems, renewEntries, Value.renew]
    by_cases ha : a = some anchor
    · rw [if_pos ha]
      subst ha
      exact .cons hd (fun hnone => hown (hname entry (List.mem_cons_self ..) hnone)) htail
    · rw [if_neg ha]
      refine .cons (distinct.of_keys (map_fst_renewEntries anchor content entry))
        (fun hnone => hown ?_) htail
      rw [get?_renewEntries] at hnone
      exact Option.map_eq_none_iff.1 hnone

end Tripwire
