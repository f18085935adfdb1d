import Tripwire.CommandLine.Run
import Tripwire.Proofs.Config.InForce
import Tripwire.Proofs.Config.Layered

/-!
# Overrides that are given again

A key that is given again takes its new value at its old place among the overrides. So overrides are
written in the order in which their keys were first given, and come to what the arguments come to, each
written in its turn, only if that order leaves the same values in force. The value that was given last
may be lost.
-/

namespace Tripwire

/-! ### Pieces between dots -/

namespace Text

theorem intercalate_consPiece (c : Char) {pieces : List (List Char)} (h : pieces ≠ []) :
    List.intercalate ['.'] (consPiece c pieces) = c :: List.intercalate ['.'] pieces := by
  obtain ⟨piece, rest, rfl⟩ := List.exists_cons_of_ne_nil h
  cases rest with
  | nil => simp [consPiece, List.intercalate]
  | cons next rest => simp [consPiece, List.intercalate]

theorem intercalate_pieces (cs : List Char) :
    pieces '.' [] cs ≠ [] ∧ List.intercalate ['.'] (pieces '.' [] cs) = cs := by
  induction cs with
  | nil =>
    rw [pieces]
    exact ⟨by simp, rfl⟩
  | cons c cs ih =>
    obtain ⟨hne, heq⟩ := ih
    rw [pieces]
    by_cases hc : '.' = c
    · obtain ⟨piece, rest, hp⟩ := List.exists_cons_of_ne_nil hne
      rw [hp] at heq
      subst hc
      simp only [↓reduceIte, dropMark?, hp]
      refine ⟨by simp, ?_⟩
      rw [← heq]
      simp [List.intercalate]
    · rw [if_neg hc, intercalate_consPiece c hne, heq]
      obtain ⟨piece, rest, hp⟩ := List.exists_cons_of_ne_nil hne
      rw [hp]
      exact ⟨by simp [consPiece], rfl⟩

theorem piecesAtDots_injective : Function.Injective piecesAtDots := by
  intro a b h
  have hpieces : pieces '.' [] a.toList = pieces '.' [] b.toList :=
    List.map_injective_iff.2 (fun _ _ => String.ofList_injective) h
  have hjoined := congrArg (List.intercalate ['.']) hpieces
  rw [(intercalate_pieces _).2, (intercalate_pieces _).2] at hjoined
  exact String.toList_injective hjoined

theorem piecesAtDots_ne_nil (s : String) : piecesAtDots s ≠ [] := by
  rw [piecesAtDots, Ne, List.map_eq_nil_iff]
  exact (intercalate_pieces _).1

end Text

/-! ### Things put under names again -/

namespace Named

variable {α : Type}

theorem names_put (xs : Named α) (name : String) (a : α) : (xs.put name a).map (·.1) =
    if name ∈ xs.map (·.1) then xs.map (·.1) else xs.map (·.1) ++ [name] := by
  induction xs with
  | nil => simp [put]
  | cons x rest ih =>
    by_cases hx : x.1 = name
    · simp [put, hx]
    · have hne : ¬name = x.1 := fun he => hx he.symm
      rw [put, if_neg hx, List.map_cons, ih]
      by_cases hrest : name ∈ rest.map (·.1)
      · simp [hrest]
      · simp [hrest, hne]

theorem ofPairs_concat (pairs : List (String × α)) (p : String × α) :
    ofPairs (pairs ++ [p]) = (ofPairs pairs).put p.1 p.2 := by
  simp [ofPairs]

theorem names_ofPairs_concat (pairs : List (String × α)) (p : String × α) :
    (ofPairs (pairs ++ [p])).map (·.1) =
      if p.1 ∈ (ofPairs pairs).map (·.1) then (ofPairs pairs).map (·.1)
      else (ofPairs pairs).map (·.1) ++ [p.1] := by
  rw [ofPairs_concat, names_put]

theorem mem_names_ofPairs {pairs : List (String × α)} {name : String} :
    name ∈ (ofPairs pairs).map (·.1) ↔ name ∈ pairs.map (·.1) := by
  induction pairs using List.reverseRecOn with
  | nil => rfl
  | append_singleton pairs p ih =>
    rw [names_ofPairs_concat, List.map_append, List.map_singleton, List.mem_append, ← ih,
      List.mem_singleton]
    by_cases hold : p.1 ∈ (ofPairs pairs).map (·.1)
    · rw [if_pos hold]
      exact ⟨Or.inl, fun h => h.elim id fun he => he ▸ hold⟩
    · rw [if_neg hold, List.mem_append, List.mem_singleton]

theorem nodup_names_ofPairs (pairs : List (String × α)) : ((ofPairs pairs).map (·.1)).Nodup := by
  induction pairs using List.reverseRecOn with
  | nil => exact List.nodup_nil
  | append_singleton pairs p ih =>
    rw [names_ofPairs_concat]
    by_cases hold : p.1 ∈ (ofPairs pairs).map (·.1)
    · rwa [if_pos hold]
    · rw [if_neg hold, ← List.concat_eq_append]
      exact ih.concat hold

theorem idxOf_concat_self {names : List String} {name : String} (h : name ∉ names) :
    (names ++ [name]).idxOf name = names.length := by
  rw [List.idxOf_append_of_notMem h, List.idxOf_cons_self, Nat.add_zero]

/-- Names stand in the order in which they first came. -/
theorem idxOf_names_ofPairs {pairs : List (String × α)} {a b : String} (ha : a ∈ pairs.map (·.1))
    (hb : b ∈ pairs.map (·.1)) :
    ((ofPairs pairs).map (·.1)).idxOf a < ((ofPairs pairs).map (·.1)).idxOf b ↔
      (pairs.map (·.1)).idxOf a < (pairs.map (·.1)).idxOf b := by
  induction pairs using List.reverseRecOn with
  | nil => cases ha
  | append_singleton pairs p ih =>
    have hsame (name : String) : name ∈ (ofPairs pairs).map (·.1) ↔ name ∈ pairs.map (·.1) :=
      mem_names_ofPairs
    rw [List.map_append, List.map_singleton] at ha hb ⊢
    rw [names_ofPairs_concat]
    by_cases hold : p.1 ∈ pairs.map (·.1)
    · have hin {name : String} (h : name ∈ pairs.map (·.1) ++ [p.1]) : name ∈ pairs.map (·.1) := by
        rcases List.mem_append.1 h with h | h
        · exact h
        · exact List.mem_singleton.1 h ▸ hold
      rw [if_pos ((hsame _).2 hold), List.idxOf_append_of_mem (hin ha),
        List.idxOf_append_of_mem (hin hb)]
      exact ih (hin ha) (hin hb)
    · have hnew : p.1 ∉ (ofPairs pairs).map (·.1) := fun h => hold ((hsame _).1 h)
      rw [if_neg hnew]
      -- A new name stands behind all others in both lists.
      rcases List.mem_append.1 ha with ha | ha <;> rcases List.mem_append.1 hb with hb | hb
      · rw [List.idxOf_append_of_mem ha, List.idxOf_append_of_mem hb,
          List.idxOf_append_of_mem ((hsame _).2 ha), List.idxOf_append_of_mem ((hsame _).2 hb)]
        exact ih ha hb
      · rw [List.mem_singleton.1 hb, idxOf_concat_self hold, idxOf_concat_self hnew,
          List.idxOf_append_of_mem ha, List.idxOf_append_of_mem ((hsame _).2 ha)]
        exact iff_of_true (List.idxOf_lt_length_of_mem ((hsame _).2 ha))
          (List.idxOf_lt_length_of_mem ha)
      · rw [List.mem_singleton.1 ha, idxOf_concat_self hold, idxOf_concat_self hnew,
          List.idxOf_append_of_mem hb, List.idxOf_append_of_mem ((hsame _).2 hb)]
        exact iff_of_false (List.idxOf_lt_length_of_mem ((hsame _).2 hb)).not_gt
          (List.idxOf_lt_length_of_mem hb).not_gt
      · rw [List.mem_singleton.1 ha, List.mem_singleton.1 hb]
        exact iff_of_false (Nat.lt_irrefl _) (Nat.lt_irrefl _)

theorem get?_ofPairs_of_last {front back : List (String × α)} {name : String} {a : α}
    (h : name ∉ back.map (·.1)) : (ofPairs (front ++ (name, a) :: back)).get? name = some a := by
  induction back using List.reverseRecOn with
  | nil => rw [ofPairs_concat, get?_put, if_pos rfl]
  | append_singleton back p ih =>
    have hsplit : front ++ (name, a) :: (back ++ [p]) = (front ++ (name, a) :: back) ++ [p] := by simp
    rw [List.map_append, List.mem_append, not_or] at h
    rw [hsplit, ofPairs_concat, get?_put, if_neg fun he => h.2 (by simp [he]), ih h.1]

theorem put_of_new {xs : Named α} {name : String} (h : name ∉ xs.map (·.1)) (a : α) :
    xs.put name a = xs ++ [(name, a)] := by
  induction xs with
  | nil => rfl
  | cons x rest ih =>
    rw [List.map_cons, List.mem_cons, not_or] at h
    rw [put, if_neg fun he => h.1 he.symm, ih h.2, List.cons_append]

theorem ofPairs_of_nodup {pairs : List (String × α)} (h : (pairs.map (·.1)).Nodup) :
    ofPairs pairs = pairs := by
  induction pairs using List.reverseRecOn with
  | nil => rfl
  | append_singleton pairs p ih =>
    rw [List.map_append, List.map_singleton, ← List.concat_eq_append, List.nodup_concat] at h
    rw [ofPairs_concat, ih h.2, put_of_new h.1]

theorem get?_of_nodup {front back : List (String × α)} {name : String} {a : α}
    (h : name ∉ front.map (·.1)) : get? (front ++ (name, a) :: back) name = some a := by
  have hfront : front.find? (fun x => x.1 == name) = none := by
    rw [List.find?_eq_none]
    intro x hx
    have hne : x.1 ≠ name := fun he => h (he ▸ List.mem_map_of_mem hx)
    simpa using hne
  rw [get?, List.find?_append, hfront]
  simp

theorem mem_of_get? {xs : Named α} {name : String} {a : α} (h : xs.get? name = some a) :
    (name, a) ∈ xs := by
  obtain ⟨x, hx, rfl⟩ := Option.map_eq_some_iff.1 h
  have hname : x.1 = name := by simpa using List.find?_some hx
  rw [← hname]
  exact List.mem_of_find?_eq_some hx

theorem exists_last_of_name {pairs : List (String × α)} {name : String}
    (h : name ∈ pairs.map (·.1)) :
    ∃ front a back, pairs = front ++ (name, a) :: back ∧ name ∉ back.map (·.1) := by
  have hgiven : ∃ p ∈ pairs, p.1 = name := List.mem_map.1 h
  obtain ⟨front, ⟨k, a⟩, back, rfl, rfl, hback⟩ := exists_last hgiven
  refine ⟨front, a, back, rfl, fun hmem => ?_⟩
  obtain ⟨p, hp, heq⟩ := List.mem_map.1 hmem
  exact hback p hp heq

theorem exists_get?_ofPairs {pairs : List (String × α)} {name : String}
    (h : name ∈ pairs.map (·.1)) : ∃ a, (ofPairs pairs).get? name = some a := by
  obtain ⟨front, a, back, rfl, hback⟩ := exists_last_of_name h
  exact ⟨a, get?_ofPairs_of_last hback⟩

end Named

/-! ### Overrides that are in force -/

open Text (piecesAtDots)

theorem inForce_overrideWrites {xs : List (String × String)} {key s : String} :
    InForce (overrideWrites xs) (piecesAtDots key) (.text s) ↔
      ∃ front back, xs = front ++ (key, s) :: back ∧
        ∀ o ∈ back, ¬Comparable (piecesAtDots o.1) (piecesAtDots key) := by
  constructor
  · rintro ⟨front, back, heq, hback⟩
    obtain ⟨first, rest, rfl, rfl, hrest⟩ := List.map_eq_append_iff.1 heq
    obtain ⟨⟨k, v⟩, last, rfl, hwrite, rfl⟩ := List.map_eq_cons_iff.1 hrest
    obtain ⟨hkey, hv⟩ := Prod.mk.inj hwrite
    obtain rfl := Text.piecesAtDots_injective hkey
    obtain rfl := Value.text.inj hv
    exact ⟨first, last, rfl, fun o ho => hback _ (List.mem_map_of_mem ho)⟩
  · rintro ⟨front, back, rfl, hback⟩
    refine ⟨overrideWrites front, overrideWrites back, by simp [overrideWrites], fun w hw => ?_⟩
    obtain ⟨o, ho, rfl⟩ := List.mem_map.1 hw
    exact hback o ho

theorem idxOf_lt_iff {front back : List String} {key other : String} (h : key ∉ front) :
    (front ++ key :: back).idxOf other < (front ++ key :: back).idxOf key ↔ other ∈ front := by
  have hkey : (front ++ key :: back).idxOf key = front.length := by
    rw [List.idxOf_append_of_notMem h, List.idxOf_cons_self, Nat.add_zero]
  rw [hkey]
  constructor
  · intro hlt
    by_contra hother
    rw [List.idxOf_append_of_notMem hother] at hlt
    omega
  · intro hother
    rw [List.idxOf_append_of_mem hother]
    exact List.idxOf_lt_length_of_mem hother

theorem idxOf_gt_iff {front back : List String} {key other : String}
    (h : (front ++ key :: back).Nodup) (hother : other ∈ front ++ key :: back) :
    (front ++ key :: back).idxOf key < (front ++ key :: back).idxOf other ↔ other ∈ back := by
  obtain ⟨hfront, -, hdisjoint⟩ := List.nodup_append'.1 h
  have hkey : key ∉ front := fun hmem => hdisjoint hmem List.mem_cons_self
  constructor
  · intro hlt
    have hnot : other ∉ front := fun hmem => hlt.asymm ((idxOf_lt_iff hkey).2 hmem)
    have hne : other ≠ key := fun he => hlt.ne (by rw [he])
    simpa [hnot, hne] using hother
  · intro hmem
    have hnot : other ∉ front := fun hf => hdisjoint hf (List.mem_cons_of_mem _ hmem)
    have hne : key ≠ other := by
      rintro rfl
      exact (List.nodup_cons.1 (List.nodup_middle.1 h)).1 (List.mem_append_right _ hmem)
    have hle : (front ++ key :: back).idxOf key ≤ (front ++ key :: back).idxOf other :=
      not_lt.1 (mt (idxOf_lt_iff hkey).1 hnot)
    exact hle.lt_of_ne fun he => hne ((List.idxOf_inj (by simp)).1 he)

/-- That no comparable key is first given after a key. -/
def KeptByFirst (keys : List String) (key : String) : Prop :=
  ∀ other ∈ keys, keys.idxOf key < keys.idxOf other →
    ¬Comparable (piecesAtDots other) (piecesAtDots key)

/-- That no comparable key is last given after a key. -/
def KeptByLast (keys : List String) (key : String) : Prop :=
  ∀ other ∈ keys, keys.reverse.idxOf other < keys.reverse.idxOf key →
    ¬Comparable (piecesAtDots other) (piecesAtDots key)

theorem inForce_iff_keptByLast {xs : List (String × String)} {key s : String} :
    InForce (overrideWrites xs) (piecesAtDots key) (.text s) ↔
      (Named.ofPairs xs).get? key = some s ∧ KeptByLast (xs.map (·.1)) key := by
  have hnames (front back : List (String × String)) (v : String) :
      ((front ++ (key, v) :: back).map (·.1)).reverse =
        (back.map (·.1)).reverse ++ key :: (front.map (·.1)).reverse := by simp
  rw [inForce_overrideWrites]
  constructor
  · rintro ⟨front, back, rfl, hback⟩
    have hkey : key ∉ back.map (·.1) := by
      intro hmem
      obtain ⟨o, ho, rfl⟩ := List.mem_map.1 hmem
      exact hback o ho (.refl _)
    refine ⟨Named.get?_ofPairs_of_last hkey, fun other _ hlt => ?_⟩
    rw [hnames, idxOf_lt_iff (by rwa [List.mem_reverse]), List.mem_reverse] at hlt
    obtain ⟨o, ho, rfl⟩ := List.mem_map.1 hlt
    exact hback o ho
  · rintro ⟨hget, hkept⟩
    have hkey : key ∈ xs.map (·.1) :=
      Named.mem_names_ofPairs.1 (List.mem_map_of_mem (Named.mem_of_get? hget))
    obtain ⟨front, v, back, rfl, hback⟩ := Named.exists_last_of_name hkey
    rw [Named.get?_ofPairs_of_last hback] at hget
    obtain rfl := Option.some.inj hget
    refine ⟨front, back, rfl, fun o ho => ?_⟩
    have hmem : o.1 ∈ back.map (·.1) := List.mem_map_of_mem ho
    refine hkept o.1 (by simp [hmem]) ?_
    rw [hnames, idxOf_lt_iff (by rwa [List.mem_reverse]), List.mem_reverse]
    exact hmem

theorem keptByFirst_names_ofPairs {pairs : List (String × String)} {key : String} :
    KeptByFirst ((Named.ofPairs pairs).map (·.1)) key ↔ KeptByFirst (pairs.map (·.1)) key := by
  have hsame (name : String) : name ∈ (Named.ofPairs pairs).map (·.1) ↔ name ∈ pairs.map (·.1) :=
    Named.mem_names_ofPairs
  by_cases hkey : key ∈ pairs.map (·.1)
  · refine forall_congr' fun other => ?_
    rw [hsame]
    exact forall_congr' fun hother => by rw [Named.idxOf_names_ofPairs hkey hother]
  · -- A key that is not given stands behind all others.
    have hlast {names : List String} (h : key ∉ names) : KeptByFirst names key := by
      intro other hother hlt
      rw [List.idxOf_eq_length h] at hlt
      exact absurd (List.idxOf_lt_length_of_mem hother) hlt.not_gt
    exact iff_of_true (hlast (mt (hsame key).1 hkey)) (hlast hkey)

theorem inForce_iff_keptByFirst {pairs : List (String × String)} {key s : String} :
    InForce (overrideWrites (Named.ofPairs pairs)) (piecesAtDots key) (.text s) ↔
      (Named.ofPairs pairs).get? key = some s ∧ KeptByFirst (pairs.map (·.1)) key := by
  have hd := Named.nodup_names_ofPairs pairs
  rw [← keptByFirst_names_ofPairs, inForce_overrideWrites]
  generalize Named.ofPairs pairs = xs at hd
  constructor
  · rintro ⟨front, back, rfl, hback⟩
    rw [List.map_append, List.map_cons] at hd
    refine ⟨Named.get?_of_nodup fun hmem => ?_, fun other hother hlt => ?_⟩
    · exact (List.nodup_append'.1 hd).2.2 hmem List.mem_cons_self
    · rw [List.map_append, List.map_cons] at hother hlt
      obtain ⟨o, ho, rfl⟩ := List.mem_map.1 ((idxOf_gt_iff hd hother).1 hlt)
      exact hback o ho
  · rintro ⟨hget, hkept⟩
    obtain ⟨front, back, rfl⟩ := List.append_of_mem (Named.mem_of_get? hget)
    refine ⟨front, back, rfl, fun o ho => ?_⟩
    rw [List.map_append, List.map_cons] at hd hkept
    have hmem : o.1 ∈ back.map (·.1) := List.mem_map_of_mem ho
    have hother : o.1 ∈ front.map (·.1) ++ key :: back.map (·.1) := by simp [hmem]
    exact hkept o.1 hother ((idxOf_gt_iff hd hother).2 hmem)

/-! ### Overrides and the arguments that they come from -/

namespace CommandLine

/-- The key and the value that are written in an argument. -/
def pairOf (entry : String) : String × String :=
  let (key, value) := atEquals entry.toList
  (Text.trim (String.ofList key), String.ofList (value.getD []))

def keysOf (entries : List String) : List String := (entries.map pairOf).map (·.1)

theorem overridesOf_eq_ok {entries : List String} {given overrides : Named String}
    (h : overridesOf entries given = .ok overrides) :
    overrides = (entries.map pairOf).foldl (fun xs p => Named.put xs p.1 p.2) given := by
  induction entries generalizing given with
  | nil => exact (Except.ok.inj h).symm
  | cons entry rest ih =>
    rw [overridesOf] at h
    rw [List.map_cons, List.foldl_cons, pairOf]
    generalize atEquals entry.toList = cut at h ⊢
    obtain ⟨key, _ | value⟩ := cut
    · cases h
    · dsimp only at h
      split at h
      · cases h
      · exact ih h

end CommandLine

section Rows

variable {lower : Entries} {pairs : List (String × String)}

theorem paths_overrideWrites (xs : List (String × String)) :
    (overrideWrites xs).map (·.1) = (xs.map (·.1)).map piecesAtDots := by
  simp [overrideWrites, Function.comp_def]

theorem writable_overrideWrites {xs : List (String × String)}
    (hu : ∀ key ∈ xs.map (·.1), lower.Unshared (piecesAtDots key)) :
    lower.Writable (overrideWrites xs) := by
  intro w hw
  obtain ⟨o, ho, rfl⟩ := List.mem_map.1 hw
  exact ⟨Text.piecesAtDots_ne_nil _, hu _ (List.mem_map_of_mem ho), o.2, rfl⟩

/-- Where a key is given again there is no obstacle that was not met before. -/
theorem firstObstacle?_ofPairs (lower : Entries) (pairs : List (String × String)) :
    lower.firstObstacle? [] (((Named.ofPairs pairs).map (·.1)).map piecesAtDots) =
      lower.firstObstacle? [] ((pairs.map (·.1)).map piecesAtDots) := by
  induction pairs using List.reverseRecOn with
  | nil => rfl
  | append_singleton pairs p ih =>
    have hsame (path : List String) :
        path ∈ ((Named.ofPairs pairs).map (·.1)).map piecesAtDots ++ [] ↔
          path ∈ (pairs.map (·.1)).map piecesAtDots ++ [] := by
      simp only [List.append_nil, List.mem_map (f := piecesAtDots), Named.mem_names_ofPairs]
    rw [Named.names_ofPairs_concat, List.map_append, List.map_append, List.map_singleton,
      List.map_singleton, Entries.firstObstacle?_concat, ← ih, ← lower.obstacleAfter?_congr hsame]
    split
    · next hold =>
      rw [lower.obstacleAfter?_of_mem, Option.or_none]
      rw [List.append_nil]
      exact List.mem_map_of_mem hold
    · rw [List.map_append, List.map_singleton, Entries.firstObstacle?_concat]

variable (hu : ∀ key ∈ pairs.map (·.1), lower.Unshared (piecesAtDots key))
include hu

theorem writable_ofPairs : lower.Writable (overrideWrites (Named.ofPairs pairs)) :=
  writable_overrideWrites fun key hkey => hu key (Named.mem_names_ofPairs.1 hkey)

theorem writeAll_ofPairs_eq_error_iff (f : Fault) :
    lower.writeAll (overrideWrites (Named.ofPairs pairs)) = .error f ↔
      lower.writeAll (overrideWrites pairs) = .error f := by
  rw [Entries.writeAll_eq_error_iff (writable_ofPairs hu),
    Entries.writeAll_eq_error_iff (writable_overrideWrites hu), paths_overrideWrites,
    paths_overrideWrites, firstObstacle?_ofPairs]

theorem follow?_of_last {written : Entries} {key value : String}
    (hwritten : lower.writeAll (overrideWrites pairs) = .ok written) (hlast : pairs.getLast? = some (key, value)) :
    written.follow? ((piecesAtDots key).map .text) = some (.text value) := by
  obtain ⟨front, rfl⟩ := List.getLast?_eq_some_iff.1 hlast
  refine Entries.follow?_of_inForce (writable_overrideWrites hu) hwritten ?_
  exact inForce_overrideWrites.2 ⟨front, [], rfl, fun o ho => absurd ho List.not_mem_nil⟩

variable {loaded written : Entries}
  (hloaded : lower.writeAll (overrideWrites (Named.ofPairs pairs)) = .ok loaded)
  (hwritten : lower.writeAll (overrideWrites pairs) = .ok written)
include hloaded

theorem follow?_ofPairs_of_last {key value : String} (hlast : pairs.getLast? = some (key, value)) :
    loaded.follow? ((piecesAtDots key).map .text) = some (.text value) ↔
      KeptByFirst (pairs.map (·.1)) key := by
  obtain ⟨front, rfl⟩ := List.getLast?_eq_some_iff.1 hlast
  have hget : (Named.ofPairs (front ++ [(key, value)])).get? key = some value :=
    Named.get?_ofPairs_of_last (by simp)
  have hmem : key ∈ (Named.ofPairs (front ++ [(key, value)])).map (·.1) :=
    List.mem_map_of_mem (Named.mem_of_get? hget)
  have hpath : piecesAtDots key ∈
      (overrideWrites (Named.ofPairs (front ++ [(key, value)]))).map (·.1) := by
    rw [paths_overrideWrites]
    exact List.mem_map_of_mem hmem
  rw [Entries.follow?_eq_text_iff (writable_ofPairs hu) hloaded hpath, inForce_iff_keptByFirst]
  exact and_iff_right hget

include hwritten

theorem same_ofPairs_iff : loaded.Same written ↔
    ∀ key ∈ pairs.map (·.1), KeptByFirst (pairs.map (·.1)) key ↔ KeptByLast (pairs.map (·.1)) key := by
  rw [Entries.same_iff_inForce (writable_ofPairs hu) (writable_overrideWrites hu) hloaded hwritten]
  swap
  · intro path
    rw [paths_overrideWrites, paths_overrideWrites, List.mem_map (f := piecesAtDots),
      List.mem_map (f := piecesAtDots)]
    simp only [Named.mem_names_ofPairs]
  constructor
  · intro hforce key hkey
    obtain ⟨s, hget⟩ := Named.exists_get?_ofPairs hkey
    have hs := hforce (piecesAtDots key) (.text s)
    rwa [inForce_iff_keptByFirst, inForce_iff_keptByLast, hget, and_iff_right rfl,
      and_iff_right rfl] at hs
  · intro hkept path v
    -- Only texts at keys that are given are ever in force.
    have hgiven {xs : List (String × String)} (hin : InForce (overrideWrites xs) path v) :
        ∃ key ∈ xs.map (·.1), ∃ s, path = piecesAtDots key ∧ v = .text s := by
      obtain ⟨o, ho, heq⟩ := List.mem_map.1 hin.mem
      obtain ⟨hpath, hv⟩ := Prod.mk.inj heq
      exact ⟨o.1, List.mem_map_of_mem ho, o.2, hpath.symm, hv.symm⟩
    have hiff {key s : String} (hkey : key ∈ pairs.map (·.1)) :
        InForce (overrideWrites (Named.ofPairs pairs)) (piecesAtDots key) (.text s) ↔
          InForce (overrideWrites pairs) (piecesAtDots key) (.text s) := by
      rw [inForce_iff_keptByFirst, inForce_iff_keptByLast, hkept key hkey]
    constructor
    · intro hin
      obtain ⟨key, hkey, s, rfl, rfl⟩ := hgiven hin
      exact (hiff (Named.mem_names_ofPairs.1 hkey)).1 hin
    · intro hin
      obtain ⟨key, hkey, s, rfl, rfl⟩ := hgiven hin
      exact (hiff hkey).2 hin

end Rows

namespace CommandLine

open Files (Path)

variable {W : Type}

/-- What arguments come to if each is written in its turn. -/
def writtenInTurn (lower : Entries) (entries : List String) : Except Fault Entries :=
  lower.writeAll (overrideWrites (entries.map pairOf))

/-- What is loaded with overrides differs from what their arguments come to in turn exactly if some key
is kept by the order of the last arguments and not by that of the first ones, or the other way round;
the last argument is lost if a comparable key is first given after its key. -/
theorem overrides_keep_first_places (h : Host) (root : Path) (own : Option Path)
    (given : Option (Named String)) (s t : Stage W) {entries : List String} {overrides : Named String}
    {lower : Entries} (hentries : overridesOf entries [] = .ok overrides)
    (hlower : (loadLayers h root own given []).on s = (.ok lower, t)) :
    ∃ result, (loadLayers h root own given overrides).on s = (result, t) ∧
      ((keysOf entries).Nodup → result = writtenInTurn lower entries) ∧
      ((∀ key ∈ keysOf entries, lower.Unshared (piecesAtDots key)) →
        (∀ f, result = .error f ↔ writtenInTurn lower entries = .error f) ∧
        ∀ loaded written, result = .ok loaded → writtenInTurn lower entries = .ok written →
          (loaded.Same written ↔ ∀ key ∈ keysOf entries,
            KeptByFirst (keysOf entries) key ↔ KeptByLast (keysOf entries) key) ∧
          ∀ key value, (entries.map pairOf).getLast? = some (key, value) →
            written.follow? ((piecesAtDots key).map .text) = some (.text value) ∧
            (loaded.follow? ((piecesAtDots key).map .text) = some (.text value) ↔
              KeptByFirst (keysOf entries) key)) := by
  obtain rfl : overrides = Named.ofPairs (entries.map pairOf) := overridesOf_eq_ok hentries
  refine ⟨_, on_loadLayers_overrides hlower _, fun hd => ?_, fun hu => ⟨?_, ?_⟩⟩
  · rw [Named.ofPairs_of_nodup hd, writtenInTurn]
  · exact writeAll_ofPairs_eq_error_iff hu
  · intro loaded written hloaded hwritten
    refine ⟨same_ofPairs_iff hu hloaded hwritten, fun key value hlast => ⟨?_, ?_⟩⟩
    · exact follow?_of_last hu hwritten hlast
    · exact follow?_ofPairs_of_last hu hloaded hlast

/-- Two values below one section, the first of them given again: both are in force. -/
theorem value_given_again_is_in_force :
    let s : Stage Unit := ⟨(), []⟩
    let entries := ["waiting.timeout_seconds=1", "waiting.poll_interval_seconds=2",
      "waiting.timeout_seconds=3"]
    ∃ overrides loaded, overridesOf entries [] = .ok overrides ∧
      (loadLayers { files := .directory [] } ⟨.here, []⟩ none none overrides).on s = (.ok loaded, s) ∧
      loaded.follow? [.text "waiting", .text "timeout_seconds"] = some (.text "3") := by
  intro s entries
  have hentries : overridesOf entries [] = .ok [("waiting.timeout_seconds", "3"),
    ("waiting.poll_interval_seconds", "2")] := by cbv
  have hpairs : entries.map pairOf = [("waiting.timeout_seconds", "1"),
    ("waiting.poll_interval_seconds", "2"), ("waiting.timeout_seconds", "3")] := by cbv
  have hlower : (loadLayers { files := .directory [] } ⟨.here, []⟩ none none []).on s =
      (.ok [], s) := rfl
  have hp : piecesAtDots "waiting.timeout_seconds" = ["waiting", "timeout_seconds"] := by cbv
  have hq : piecesAtDots "waiting.poll_interval_seconds" = ["waiting", "poll_interval_seconds"] := by cbv
  obtain ⟨result, hload, -, h⟩ := overrides_keep_first_places _ _ _ _ s s hentries hlower
  obtain ⟨herror, hok⟩ := h fun key _ => Entries.unshared_nil _
  have hturn : ∃ written, writtenInTurn [] entries = .ok written := by
    rw [writtenInTurn, hpairs]
    simp only [overrideWrites, List.map_cons, List.map_nil, hp, hq]
    exact ⟨_, rfl⟩
  obtain ⟨written, hwritten⟩ := hturn
  cases result with
  | error f => cases ((herror f).1 rfl).symm.trans hwritten
  | ok loaded =>
    obtain ⟨-, hlast⟩ := hok loaded written rfl hwritten
    refine ⟨_, loaded, hentries, hload, ?_⟩
    have hforce := (hlast "waiting.timeout_seconds" "3" (by rw [hpairs]; rfl)).2.2
    rw [keysOf, hpairs, hp] at hforce
    refine hforce fun other hother hlt => ?_
    simp only [List.map_cons, List.map_nil, List.mem_cons, List.not_mem_nil, or_false] at hother
    rcases hother with rfl | rfl | rfl
    · exact absurd hlt (by decide)
    · rw [hp, hq]
      simp [Comparable]
    · exact absurd hlt (by decide)

/-- A value that is given again takes the place of its first one, in front of the section that was given
in between, and is lost when that is written. -/
theorem last_value_given_is_lost :
    let s : Stage Unit := ⟨(), []⟩
    let entries := ["waiting.timeout_seconds=1", "waiting=x", "waiting.timeout_seconds=2"]
    ∃ overrides, overridesOf entries [] = .ok overrides ∧
      (loadLayers { files := .directory [] } ⟨.here, []⟩ none none []).on s = (.ok [], s) ∧
      (loadLayers { files := .directory [] } ⟨.here, []⟩ none none overrides).on s =
        (.ok [(.text "waiting", .text "x")], s) ∧
      writtenInTurn [] entries =
        .ok [(.text "waiting", .map [(.text "timeout_seconds", .text "2")] none)] := by
  intro s entries
  have hentries : overridesOf entries [] = .ok [("waiting.timeout_seconds", "2"), ("waiting", "x")] := by
    cbv
  have hpairs : entries.map pairOf = [("waiting.timeout_seconds", "1"), ("waiting", "x"),
    ("waiting.timeout_seconds", "2")] := by cbv
  have hp : piecesAtDots "waiting.timeout_seconds" = ["waiting", "timeout_seconds"] := by cbv
  have hq : piecesAtDots "waiting" = ["waiting"] := by cbv
  have hlower : (loadLayers { files := .directory [] } ⟨.here, []⟩ none none []).on s =
      (.ok [], s) := rfl
  refine ⟨_, hentries, hlower, ?_, ?_⟩
  · rw [on_loadLayers_overrides hlower]
    simp only [overrideWrites, List.map_cons, List.map_nil, hp, hq]
    rfl
  · rw [writtenInTurn, hpairs]
    simp only [overrideWrites, List.map_cons, List.map_nil, hp, hq]
    rfl

end CommandLine

end Tripwire
