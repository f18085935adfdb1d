import Mathlib.Data.Finset.Card
import Tripwire.Proofs.Config.Merge

/-!
# The names in a mapping

A mapping whose keys are texts has as many entries as names. Laying entries over a mapping adds their
names to the names that are there.
-/

namespace Tripwire

namespace Entries

def HasKey (entries : Entries) (name : String) : Prop := (entries.get? (.text name)).isSome = true

def TextKeys (entries : Entries) : Prop := ∀ e ∈ entries, ∃ name, e.1 = .text name

theorem hasKey_iff {entries : Entries} {name : String} :
    entries.HasKey name ↔ ∃ v, entries.get? (.text name) = some v := Option.isSome_iff_exists

theorem not_hasKey_nil (name : String) : ¬ HasKey [] name := by
  simp [HasKey]

theorem hasKey_cons {key : String} {v : Value} {rest : Entries} {name : String} :
    HasKey ((.text key, v) :: rest) name ↔ key = name ∨ rest.HasKey name := by
  rw [HasKey, get?_cons, Value.sameKey_text]
  by_cases h : key = name
  · simp [h]
  · simp [h, HasKey]

theorem hasKey_put {entries : Entries} {key name : String} {v : Value} :
    HasKey (entries.put (.text key) v) name ↔ key = name ∨ entries.HasKey name := by
  rw [HasKey, get?_put, Value.sameKey_text]
  by_cases h : key = name
  · simp [h]
  · simp [h, HasKey]

theorem hasKey_iff_mem {entries : Entries} (ht : entries.TextKeys) {name : String} :
    entries.HasKey name ↔ .text name ∈ entries.map (·.1) := by
  induction entries with
  | nil => simp [not_hasKey_nil]
  | cons e rest ih =>
    obtain ⟨k, v⟩ := e
    obtain ⟨⟨key, hk⟩, hrest⟩ := List.forall_mem_cons.1 ht
    obtain rfl : k = .text key := hk
    rw [hasKey_cons, ih hrest, List.map_cons, List.mem_cons, Value.text.injEq, eq_comm]

theorem TextKeys.put {entries : Entries} (h : entries.TextKeys) (name : String) (v : Value) :
    (entries.put (.text name) v).TextKeys := by
  intro e he
  rcases mem_put he with hmem | ⟨-, hkey | hkey⟩
  · exact h e hmem
  · exact ⟨name, hkey⟩
  · obtain ⟨d, hd, heq⟩ := List.mem_map.1 hkey
    obtain ⟨old, hold⟩ := h d hd
    exact ⟨old, heq.symm.trans hold⟩

def names (entries : Entries) : List String :=
  entries.filterMap fun e => match e.1 with
    | .text name => some name
    | _ => none

theorem names_cons (name : String) (v : Value) (rest : Entries) :
    names ((.text name, v) :: rest) = name :: rest.names := rfl

theorem card_eq_length {entries : Entries} (ht : entries.TextKeys) (hd : entries.Distinct)
    {all : Finset String} (hall : ∀ name, name ∈ all ↔ entries.HasKey name) :
    all.card = entries.length := by
  have hparts : entries.names.Nodup ∧ entries.names.length = entries.length ∧
      ∀ name, name ∈ entries.names ↔ entries.HasKey name := by
    clear hall
    induction entries with
    | nil => simp [names, not_hasKey_nil]
    | cons e rest ih =>
      obtain ⟨k, v⟩ := e
      obtain ⟨⟨key, hk⟩, hrest⟩ := List.forall_mem_cons.1 ht
      obtain rfl : k = .text key := hk
      obtain ⟨hne, hd'⟩ := distinct_cons.1 hd
      obtain ⟨hnodup, hlen, hmem⟩ := ih hrest hd'
      have hnew : key ∉ names rest := by
        intro hin
        have hnone := get?_eq_none.2 fun e he => (Value.sameKey_comm _ _).trans (hne e he)
        have hhas := (hmem key).1 hin
        rw [HasKey, hnone] at hhas
        cases hhas
      rw [names_cons]
      refine ⟨List.nodup_cons.2 ⟨hnew, hnodup⟩, by simp [hlen], fun name => ?_⟩
      rw [List.mem_cons, hmem, hasKey_cons, eq_comm]
  obtain ⟨hnodup, hlen, hmem⟩ := hparts
  have hset : all = entries.names.toFinset := by
    ext name
    rw [List.mem_toFinset, hmem, hall]
  rw [hset, List.toFinset_card_of_nodup hnodup, hlen]

end Entries

theorem hasKey_lay {lower upper merged : Entries} (hl : lower.IsTree) (hu : upper.IsTree)
    (h : lower.lay upper = .ok merged) (name : String) :
    merged.HasKey name ↔ lower.HasKey name ∨ upper.HasKey name := by
  cases hk : upper.get? (.text name) with
  | none =>
    rw [Entries.HasKey, get?_lay_of_none hl hu h hk]
    simp [Entries.HasKey, hk]
  | some v =>
    obtain ⟨k, laid, -, -, hget⟩ := get?_lay_of_some hl hu h hk
    simp [Entries.HasKey, hk, hget]

theorem textKeys_lay {lower upper merged : Entries} (hl : lower.IsTree) (hu : upper.IsTree)
    (hlt : lower.TextKeys) (hut : upper.TextKeys) (h : lower.lay upper = .ok merged) :
    merged.TextKeys := by
  induction upper generalizing lower with
  | nil =>
    cases h
    exact hlt
  | cons e rest ih =>
    obtain ⟨k, v⟩ := e
    obtain ⟨-, hv, hrest⟩ := Entries.isTree_cons.1 hu
    obtain ⟨⟨name, hk⟩, hrestKeys⟩ := List.forall_mem_cons.1 hut
    obtain rfl : k = .text name := hk
    rw [lay_cons hl hv, bind_eq_ok] at h
    obtain ⟨laid, hlaid, h⟩ := h
    have ht := layOver_isTree (hl.under _) hv hlaid
    exact ih (hl.put ht _) hrest (hlt.put name laid) hrestKeys h

/-- Adding the same names to two sets of one size makes a difference by those names that are in one of
the sets only. -/
theorem card_union_add_card_filter {p q s : Finset String} (h : p.card = q.card) :
    (p ∪ s).card + (s.filter fun a => a ∈ p ∧ a ∉ q).card =
      (q ∪ s).card + (s.filter fun a => a ∈ q ∧ a ∉ p).card := by
  have hsplit (p q : Finset String) : (s \ p).card + (s.filter fun a => a ∈ p ∧ a ∉ q).card =
      (s \ (p ∩ q)).card := by
    rw [← Finset.card_union_of_disjoint]
    · congr 1
      ext a
      simp only [Finset.mem_union, Finset.mem_sdiff, Finset.mem_filter, Finset.mem_inter]
      tauto
    · refine Finset.disjoint_left.2 fun a ha hb => ?_
      exact (Finset.mem_sdiff.1 ha).2 (Finset.mem_filter.1 hb).2.1
  have hp := hsplit p q
  have hq := hsplit q p
  rw [Finset.inter_comm] at hq
  have hps := Finset.card_sdiff_add_card s p
  have hqs := Finset.card_sdiff_add_card s q
  rw [Finset.union_comm] at hps hqs
  omega

end Tripwire
