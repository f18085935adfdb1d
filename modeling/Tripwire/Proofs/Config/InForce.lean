import Tripwire.Proofs.Config.Frame
import Tripwire.Proofs.Config.Obstacle

/-!
# What writes leave in force

After writes one after the other, a path leads to what the last of them left there whose path is a part
of it or has it as a part; if there is none, it leads where it led before, lists of clusters read by
names. So a write is in force in the end if none after it has a comparable path, and two rows of writes
to the same paths come to the same data exactly if the same writes are in force: `same_iff_inForce`.
-/

namespace Tripwire

/-! ### Comparable paths -/

/-- That one of two paths is a part of the other. -/
def Comparable {α : Type} (p q : List α) : Prop := p <+: q ∨ q <+: p

theorem Comparable.symm {α : Type} {p q : List α} (h : Comparable p q) : Comparable q p := Or.symm h

theorem Comparable.refl {α : Type} (p : List α) : Comparable p p := .inl p.prefix_rfl

theorem comparable_cons {α : Type} {a : α} {p q : List α} :
    Comparable (a :: p) (a :: q) ↔ Comparable p q := by
  simp only [Comparable, List.cons_prefix_cons, true_and]

theorem Comparable.of_part {α : Type} {p q r : List α} (h : Comparable p q) (hr : r <+: q) :
    Comparable p r := by
  rcases h with h | h
  · exact List.prefix_or_prefix_of_prefix h hr
  · exact .inr (hr.trans h)

theorem map_text_injective : Function.Injective (List.map Value.text) :=
  List.map_injective_iff.2 fun _ _ h => Value.text.inj h

theorem map_text_prefix_iff {p q : List String} : p.map Value.text <+: q.map .text ↔ p <+: q := by
  constructor
  · intro h
    obtain ⟨l, hl, heq⟩ := List.prefix_map_iff.1 h
    rwa [map_text_injective heq]
  · exact fun h => h.map _

theorem comparable_map_text {p q : List String} :
    Comparable (p.map Value.text) (q.map .text) ↔ Comparable p q := by
  simp only [Comparable, map_text_prefix_iff]

/-! ### Paths that no write is comparable to -/

/-- The paths that go on below a key, with the key left out. -/
def tailsAt (key : Value) (written : List (List String)) : List (List String) :=
  written.filterMap fun
    | first :: rest => if (Value.text first).sameKey key then some rest else none
    | [] => none

/-- The value at the end of a path, where a list of clusters on the way of one of the written paths,
before its end, is read by names. -/
def Value.followAmong (byNames : Bool) (written : List (List String)) (v : Value) :
    List Value → Option Value
  | [] => some v
  | key :: rest => (v.under byNames key).bind fun w =>
    w.followAmong (key.isClustersKey && (tailsAt key written).any (· ≠ [])) (tailsAt key written) rest

def Entries.followAmong (entries : Entries) (written : List (List String)) (path : List Value) :
    Option Value :=
  (Value.map entries none).followAmong false written path

theorem mem_tailsAt {key : Value} {written : List (List String)} {rest : List String} :
    rest ∈ tailsAt key written ↔
      ∃ first, (Value.text first).sameKey key = true ∧ first :: rest ∈ written := by
  simp only [tailsAt, List.mem_filterMap]
  constructor
  · rintro ⟨path, hpath, h⟩
    match path with
    | first :: tail =>
      dsimp only at h
      split at h
      · next hkey =>
        cases h
        exact ⟨first, hkey, hpath⟩
      · cases h
  · rintro ⟨first, hkey, hpath⟩
    exact ⟨_, hpath, by simp [hkey]⟩

theorem Value.followAmong_congr {written written' : List (List String)}
    (h : ∀ p, p ∈ written ↔ p ∈ written') (byNames : Bool) (v : Value) (path : List Value) :
    v.followAmong byNames written path = v.followAmong byNames written' path := by
  induction path generalizing byNames v written written' with
  | nil => rfl
  | cons key rest ih =>
    have htails (p : List String) : p ∈ tailsAt key written ↔ p ∈ tailsAt key written' := by
      simp only [mem_tailsAt, h]
    have hany : (tailsAt key written).any (· ≠ []) = (tailsAt key written').any (· ≠ []) := by
      rw [Bool.eq_iff_iff, List.any_eq_true, List.any_eq_true]
      simp only [htails]
    rw [followAmong, followAmong, hany]
    exact Option.bind_congr fun w _ => ih htails _ w

theorem Value.followAmong_nil (v : Value) (path : List Value) :
    v.followAmong false [] path = v.follow? path := by
  induction path generalizing v with
  | nil => simp [followAmong]
  | cons key rest ih =>
    cases v with
    | map entries anchor =>
      rw [followAmong, follow?_map_cons, under]
      exact Option.bind_congr fun w _ => by simpa [tailsAt] using ih w
    | _ => rfl

theorem Value.followAmong_eq_follow? {v : Value} {path : List Value}
    (h : ∀ part items, part <+: path → part ≠ path → v.follow? part ≠ some (.list items))
    (byNames : Bool) (written : List (List String)) :
    v.followAmong byNames written path = v.follow? path := by
  induction path generalizing v byNames written with
  | nil => simp [followAmong]
  | cons key rest ih =>
    cases v with
    | map entries anchor =>
      rw [followAmong, follow?_map_cons, under]
      refine Option.bind_congr fun w hw => ih (fun part items hpart hne => ?_) _ _
      have hbelow := h (key :: part) items (List.cons_prefix_cons.2 ⟨rfl, hpart⟩) (by simpa using hne)
      rwa [follow?_map_cons, hw] at hbelow
    | list items => exact absurd (follow?_nil _) (h [] items List.nil_prefix (by simp))
    | _ => rfl

theorem Entries.followAmong_cons (entries : Entries) (written : List (List String)) (key : Value)
    (rest : List Value) : entries.followAmong written (key :: rest) =
      (entries.get? key).bind fun w =>
        w.followAmong (key.isClustersKey && (tailsAt key written).any (· ≠ [])) (tailsAt key written)
          rest := rfl

theorem followAmong_map (entries : Entries) (anchor : Option Nat) (byNames : Bool)
    (written : List (List String)) {path : List Value} (h : path ≠ []) :
    (Value.map entries anchor).followAmong byNames written path =
      entries.followAmong written path := by
  obtain ⟨key, rest, rfl⟩ := List.exists_cons_of_ne_nil h
  rfl

theorem followAmong_of_mappingOnPath {key : String} {current : Option Value} {child : Entries}
    {anchor : Option Nat} (h : mappingOnPath key current = .ok (child, anchor))
    (written : List (List String)) {path : List Value} (hp : path ≠ []) :
    (current.bind fun w => w.followAmong (key = clustersKey) written path) =
      child.followAmong written path := by
  obtain ⟨k, rest, rfl⟩ := List.exists_cons_of_ne_nil hp
  simp only [Entries.followAmong, Value.followAmong, ← Option.bind_assoc, under_of_mappingOnPath h]
  rfl

namespace Entries

section Write

variable {entries r : Entries} {path : List String} {s : String}

theorem followAmong_write (hu : entries.Unshared path) (hp : path ≠ [])
    (h : entries.write path (.text s) = .ok r) (written : List (List String)) {q : List Value}
    (hq : ¬Comparable (path.map .text) q) :
    r.followAmong written q = entries.followAmong (path :: written) q := by
  induction path generalizing entries r written q with
  | nil => exact absurd rfl hp
  | cons key rest ih =>
    cases q with
    | nil => exact absurd (.inr List.nil_prefix) hq
    | cons k q =>
      have hother (hk : (Value.text key).sameKey k = false) (v : Value) :
          Entries.followAmong (entries.put (.text key) v) written (k :: q) =
            entries.followAmong ((key :: rest) :: written) (k :: q) := by
        have htails : tailsAt k ((key :: rest) :: written) = tailsAt k written := by
          simp [tailsAt, hk]
        rw [followAmong_cons, followAmong_cons, get?_put, hk, htails]
        rfl
      cases rest with
      | nil =>
        cases h
        refine hother (Bool.eq_false_iff.2 fun hk => hq ?_) _
        obtain rfl := sameKey_text_iff.1 hk
        exact .inl (List.cons_prefix_cons.2 ⟨rfl, List.nil_prefix⟩)
      | cons next rest =>
        obtain ⟨child, made, hchild, hcu, hmade, rfl⟩ := write_under_eq_ok hu h
        cases hk : (Value.text key).sameKey k with
        | false => exact hother hk _
        | true =>
          obtain rfl := sameKey_text_iff.1 hk
          have hbelow : ¬Comparable ((next :: rest).map .text) q := fun hc => hq (comparable_cons.2 hc)
          have hne : q ≠ [] := fun he => hbelow (he ▸ .inr List.nil_prefix)
          have htails : tailsAt (.text key) ((key :: next :: rest) :: written) =
              (next :: rest) :: tailsAt (.text key) written := by simp [tailsAt]
          have hnames : ((Value.text key).isClustersKey &&
              ((next :: rest) :: tailsAt (.text key) written).any (· ≠ [])) =
                decide (key = clustersKey) := by
            simp [Value.isClustersKey, Bool.beq_eq_decide_eq]
          rw [followAmong_cons, followAmong_cons, get?_put, if_pos (by simp), Option.bind_some,
            followAmong_map _ _ _ _ hne, htails, hnames, followAmong_of_mappingOnPath hchild _ hne]
          exact ih hcu (by simp) hmade _ hbelow

/-- A text stands at the end of its path, with nothing below it and mappings on the way. -/
theorem follow?_write_comparable (hu : entries.Unshared path) (hp : path ≠ [])
    (h : entries.write path (.text s) = .ok r) :
    (∀ rest, r.follow? (path.map .text ++ rest) = (Value.text s).follow? rest) ∧
      ∀ part, part <+: path → part ≠ path → ∃ c, r.follow? (part.map .text) = some (.map c none) := by
  induction path generalizing entries r with
  | nil => exact absurd rfl hp
  | cons key rest ih =>
    cases rest with
    | nil =>
      cases h
      refine ⟨fun rest => follow?_put_self entries key _ rest, fun part hpart hne => ?_⟩
      cases part with
      | nil => exact ⟨_, rfl⟩
      | cons k part =>
        obtain ⟨rfl, hnil⟩ := List.cons_prefix_cons.1 hpart
        exact absurd (congrArg _ (List.prefix_nil.1 hnil)) hne
    | cons next rest =>
      obtain ⟨child, made, -, hcu, hmade, rfl⟩ := write_under_eq_ok hu h
      obtain ⟨hend, hway⟩ := ih hcu (by simp) hmade
      refine ⟨fun more => (follow?_put_self entries key _ _).trans (hend more), fun part hpart hne => ?_⟩
      cases part with
      | nil => exact ⟨_, rfl⟩
      | cons k part =>
        obtain ⟨rfl, hbelow⟩ := List.cons_prefix_cons.1 hpart
        obtain ⟨c, hc⟩ := hway part hbelow (by simpa using hne)
        rw [List.map_cons, follow?_put_self]
        cases part with
        | nil => exact ⟨made, by simp⟩
        | cons k part => exact ⟨c, hc⟩

end Write

/-! ### Writes one after the other -/

section WriteAll

variable {entries r : Entries} {writes : List (List String × Value)}

theorem follow?_writeAll_apart (hw : entries.Writable writes) (h : entries.writeAll writes = .ok r)
    {q : List Value} (hq : ∀ w ∈ writes, ¬Comparable (w.1.map .text) q) :
    r.follow? q = entries.followAmong (writes.map (·.1)) q := by
  induction writes generalizing entries with
  | nil =>
    cases h
    exact (Value.followAmong_nil _ q).symm
  | cons w writes ih =>
    obtain ⟨path, v⟩ := w
    obtain ⟨⟨hne, hu, s, hs⟩, -⟩ := List.forall_mem_cons.1 hw
    obtain rfl : v = .text s := hs
    obtain ⟨hpath, hrest⟩ := List.forall_mem_cons.1 hq
    obtain ⟨first, hfirst, hlast⟩ := writeAll_cons_eq_ok h
    rw [ih (hw.write hfirst) hlast hrest, List.map_cons]
    exact followAmong_write hu hne hfirst _ hpath

theorem Writable.writeAll {front back : List (List String × Value)}
    (h : entries.Writable (front ++ back)) (hr : entries.writeAll front = .ok r) : r.Writable back := by
  induction front generalizing entries with
  | nil =>
    cases hr
    exact h
  | cons w front ih =>
    obtain ⟨first, hfirst, hlast⟩ := writeAll_cons_eq_ok hr
    exact ih (h.write hfirst) hlast

theorem writeAll_append_eq_ok {front back : List (List String × Value)}
    (h : entries.writeAll (front ++ back) = .ok r) :
    ∃ between, entries.writeAll front = .ok between ∧ between.writeAll back = .ok r := by
  rw [writeAll_append] at h
  exact bind_eq_ok.1 h

/-- A path leads to what the last write left there that has a comparable path. -/
theorem follow?_writeAll_last {front back : List (List String × Value)} {path : List String} {s : String}
    (hw : entries.Writable (front ++ (path, .text s) :: back))
    (h : entries.writeAll (front ++ (path, .text s) :: back) = .ok r) {q : List Value}
    (hq : Comparable (path.map .text) q) (hback : ∀ w ∈ back, ¬Comparable (w.1.map .text) q) :
    (∀ rest, q = path.map .text ++ rest → r.follow? q = (Value.text s).follow? rest) ∧
      (q <+: path.map .text → q ≠ path.map .text → ∃ c, r.follow? q = some (.map c none)) := by
  obtain ⟨before, hfront, hlast⟩ := writeAll_append_eq_ok h
  obtain ⟨after, hafter, hlast⟩ := writeAll_cons_eq_ok hlast
  have hwb := hw.writeAll hfront
  obtain ⟨⟨hne, hu, -⟩, -⟩ := List.forall_mem_cons.1 hwb
  obtain ⟨hend, hway⟩ := follow?_write_comparable hu hne hafter
  have hpart {p : List Value} (hp : p <+: path.map .text) (hpne : p ≠ path.map .text) :
      ∃ c, after.follow? p = some (.map c none) := by
    obtain ⟨part, hpath, rfl⟩ := List.prefix_map_iff.1 hp
    exact hway part hpath fun he => hpne (by rw [he])
  -- Nothing that is a list stands on the way of a path which is comparable to the written one.
  have hplain : ∀ part items, part <+: q → part ≠ q → after.follow? part ≠ some (.list items) := by
    intro part items hp _ hlist
    rcases hq.of_part hp with ⟨rest, rfl⟩ | hp
    · rw [hend] at hlist
      cases rest with
      | nil => cases hlist
      | cons k rest => cases hlist
    · by_cases heq : part = path.map .text
      · have htext := hend []
        rw [List.append_nil, ← heq, hlist] at htext
        cases htext
      · obtain ⟨c, hc⟩ := hpart hp heq
        rw [hlist] at hc
        cases hc
  have hsame : r.follow? q = after.follow? q := by
    rw [follow?_writeAll_apart (hwb.write hafter) hlast hback]
    exact Value.followAmong_eq_follow? hplain false _
  rw [hsame]
  refine ⟨fun rest heq => ?_, hpart⟩
  rw [heq, hend]

end WriteAll

end Entries

/-! ### Writes that are in force -/

/-- That a write is in force at the end: no write after its last occurrence has a comparable path. -/
def InForce (writes : List (List String × Value)) (path : List String) (v : Value) : Prop :=
  ∃ front back, writes = front ++ (path, v) :: back ∧ ∀ w ∈ back, ¬Comparable w.1 path

theorem InForce.mem {writes : List (List String × Value)} {path : List String} {v : Value}
    (h : InForce writes path v) : (path, v) ∈ writes := by
  obtain ⟨front, back, rfl, -⟩ := h
  simp

theorem exists_last {α : Type} {p : α → Prop} {xs : List α} (h : ∃ x ∈ xs, p x) :
    ∃ front x back, xs = front ++ x :: back ∧ p x ∧ ∀ y ∈ back, ¬p y := by
  induction xs with
  | nil => simp at h
  | cons x xs ih =>
    by_cases hlater : ∃ y ∈ xs, p y
    · obtain ⟨front, y, back, rfl, hy, hback⟩ := ih hlater
      exact ⟨x :: front, y, back, rfl, hy, hback⟩
    · have hx : p x := by simpa [hlater] using h
      exact ⟨[], x, xs, rfl, hx, fun y hy hpy => hlater ⟨y, hy, hpy⟩⟩

/-- What writes come to at a path that one of them is comparable to. -/
inductive Standing (r : Entries) (writes : List (List String × Value)) (q : List Value) : Prop where
  | written {path : List String} {s : String} (force : InForce writes path (.text s))
      (here : path.map .text = q) (leads : r.follow? q = some (.text s))
  | above {path : List String} {s : String} {c : Entries} (force : InForce writes path (.text s))
      (part : q <+: path.map .text) (leads : r.follow? q = some (.map c none))
  | below (leads : r.follow? q = none)

namespace Entries

variable {entries r : Entries} {writes : List (List String × Value)}

theorem standing (hw : entries.Writable writes) (h : entries.writeAll writes = .ok r) {q : List Value}
    (hq : ∃ path ∈ writes.map (·.1), Comparable (path.map .text) q) : Standing r writes q := by
  have hwrite : ∃ w ∈ writes, Comparable (w.1.map .text) q := by simpa using hq
  obtain ⟨front, ⟨path, v⟩, back, rfl, hpath, hback⟩ := exists_last hwrite
  obtain ⟨-, -, s, hs⟩ := hw (path, v) (by simp)
  obtain rfl : v = .text s := hs
  obtain ⟨hend, hway⟩ := follow?_writeAll_last hw h hpath hback
  have hforce (hpart : q <+: path.map .text) :
      InForce (front ++ (path, .text s) :: back) path (.text s) :=
    ⟨front, back, rfl, fun w hwb hc => hback w hwb ((comparable_map_text.2 hc).of_part hpart)⟩
  by_cases heq : q = path.map .text
  · refine .written (hforce (heq ▸ List.prefix_rfl)) heq.symm ?_
    rw [hend [] (by rw [heq, List.append_nil])]
    rfl
  · rcases hpath with ⟨rest, hrest⟩ | hpart
    · refine .below ?_
      rw [hend rest hrest.symm]
      cases rest with
      | nil => exact absurd (by rw [← hrest, List.append_nil]) heq
      | cons k rest => rfl
    · obtain ⟨c, hc⟩ := hway hpart heq
      exact .above (hforce hpart) hpart hc

theorem follow?_of_inForce (hw : entries.Writable writes) (h : entries.writeAll writes = .ok r)
    {path : List String} {v : Value} (hforce : InForce writes path v) :
    r.follow? (path.map .text) = some v := by
  obtain ⟨front, back, rfl, hback⟩ := hforce
  obtain ⟨-, -, s, hs⟩ := hw (path, v) (by simp)
  obtain rfl : v = .text s := hs
  have hapart : ∀ w ∈ back, ¬Comparable (w.1.map Value.text) (path.map .text) :=
    fun w hwb hc => hback w hwb (comparable_map_text.1 hc)
  rw [(follow?_writeAll_last hw h (.refl _) hapart).1 [] (List.append_nil _).symm]
  rfl

/-- A path that is written leads to a text exactly if the write of the text is in force. -/
theorem follow?_eq_text_iff (hw : entries.Writable writes) (h : entries.writeAll writes = .ok r)
    {path : List String} (hpath : path ∈ writes.map (·.1)) (s : String) :
    r.follow? (path.map .text) = some (.text s) ↔ InForce writes path (.text s) := by
  refine ⟨fun hlead => ?_, follow?_of_inForce hw h⟩
  rcases standing hw h ⟨path, hpath, .refl _⟩ with ⟨hforce, hhere, hleads⟩ | ⟨-, -, hleads⟩ | hleads
  · obtain rfl := map_text_injective hhere
    rw [hlead] at hleads
    cases hleads
    exact hforce
  · rw [hlead] at hleads
    cases hleads
  · rw [hlead] at hleads
    cases hleads

end Entries

/-! ### The same data -/

/-- That two values are the same, or both are mappings that are not shared. -/
def Value.Agrees (v w : Value) : Prop := v = w ∨ ∃ a b, v = .map a none ∧ w = .map b none

theorem Value.Agrees.symm {v w : Value} (h : v.Agrees w) : w.Agrees v := by
  rcases h with rfl | ⟨a, b, hv, hw⟩
  · exact .inl rfl
  · exact .inr ⟨b, a, hw, hv⟩

theorem Value.Agrees.eq_text {v : Value} {s : String} (h : (Value.text s).Agrees v) : v = .text s := by
  rcases h with rfl | ⟨a, b, ha, -⟩
  · rfl
  · cases ha

/-- That all paths lead to the same in two mappings: they are equal but for the order of their keys. -/
def Entries.Same (a b : Entries) : Prop :=
  ∀ path, Option.Rel Value.Agrees (a.follow? path) (b.follow? path)

theorem optionRel_refl {x : Option Value} : Option.Rel Value.Agrees x x := by
  cases x with
  | none => exact .none
  | some v => exact .some (.inl rfl)

namespace Entries

theorem Same.symm {a b : Entries} (h : a.Same b) : b.Same a := by
  intro path
  have hpath := h path
  generalize a.follow? path = x, b.follow? path = y at hpath
  cases hpath with
  | some hagrees => exact .some hagrees.symm
  | none => exact .none

theorem Same.follow?_text {a b : Entries} (h : a.Same b) {path : List Value} {s : String}
    (ha : a.follow? path = some (.text s)) : b.follow? path = some (.text s) := by
  have hpath := h path
  rw [ha] at hpath
  generalize b.follow? path = y at hpath
  cases hpath with
  | some hagrees => rw [hagrees.eq_text]

theorem exists_map_of_follow? {r : Entries} {q path : List Value} {v : Value}
    (h : r.follow? path = some v) (hpart : q <+: path) (hne : q ≠ path) :
    ∃ c anchor, r.follow? q = some (.map c anchor) := by
  obtain ⟨rest, rfl⟩ := hpart
  rw [follow?, Value.follow?_append] at h
  obtain ⟨w, hw, hv⟩ := Option.bind_eq_some_iff.1 h
  cases rest with
  | nil => simp at hne
  | cons key rest =>
    cases w with
    | map c anchor => exact ⟨c, anchor, hw⟩
    | _ => cases hv

section Rows

variable {entries r r' : Entries} {writes writes' : List (List String × Value)}
  (hw : entries.Writable writes) (hw' : entries.Writable writes')
  (h : entries.writeAll writes = .ok r) (h' : entries.writeAll writes' = .ok r')
include hw hw' h h'

theorem inForce_of_same (hpaths : ∀ path, path ∈ writes.map (·.1) → path ∈ writes'.map (·.1))
    (hsame : r.Same r') {path : List String} {v : Value} (hforce : InForce writes path v) :
    InForce writes' path v := by
  obtain ⟨-, -, s, hs⟩ := hw _ hforce.mem
  obtain rfl : v = .text s := hs
  have hleads := hsame.follow?_text (follow?_of_inForce hw h hforce)
  exact (follow?_eq_text_iff hw' h' (hpaths path (List.mem_map_of_mem hforce.mem)) s).1 hleads

theorem agrees_of_inForce (hforce : ∀ path v, InForce writes path v ↔ InForce writes' path v)
    {q : List Value} (hq : ∃ path ∈ writes.map (·.1), Comparable (path.map .text) q)
    (hq' : ∃ path ∈ writes'.map (·.1), Comparable (path.map .text) q) :
    Option.Rel Value.Agrees (r.follow? q) (r'.follow? q) := by
  rcases standing hw h hq with ⟨hf, rfl, hleads⟩ | @⟨path, s, c, hf, hpart, hleads⟩ | hleads
  · rw [hleads, follow?_of_inForce hw' h' ((hforce _ _).1 hf)]
    exact .some (.inl rfl)
  · have hne : q ≠ path.map .text := fun he => by
      rw [he, follow?_of_inForce hw h hf] at hleads
      cases hleads
    obtain ⟨c, anchor, hmap⟩ :=
      exists_map_of_follow? (follow?_of_inForce hw' h' ((hforce _ _).1 hf)) hpart hne
    rcases standing hw' h' hq' with ⟨-, -, hleads'⟩ | ⟨-, -, hleads'⟩ | hleads'
    · rw [hmap] at hleads'
      cases hleads'
    · rw [hleads, hleads']
      exact .some (.inr ⟨_, _, rfl, rfl⟩)
    · rw [hmap] at hleads'
      cases hleads'
  · rcases standing hw' h' hq' with ⟨hf, rfl, -⟩ | @⟨path, s, c, hf, hpart, -⟩ | hleads'
    · rw [follow?_of_inForce hw h ((hforce _ _).2 hf)] at hleads
      cases hleads
    · have hend := follow?_of_inForce hw h ((hforce _ _).2 hf)
      by_cases heq : q = path.map .text
      · rw [heq, hend] at hleads
        cases hleads
      · obtain ⟨c, anchor, hmap⟩ := exists_map_of_follow? hend hpart heq
        rw [hmap] at hleads
        cases hleads
    · rw [hleads, hleads']
      exact .none

/-- Two rows of writes to the same paths come to the same data exactly if the same are in force. -/
theorem same_iff_inForce (hpaths : ∀ path, path ∈ writes.map (·.1) ↔ path ∈ writes'.map (·.1)) :
    r.Same r' ↔ ∀ path v, InForce writes path v ↔ InForce writes' path v := by
  constructor
  · intro hsame path v
    exact ⟨inForce_of_same hw hw' h h' (fun path => (hpaths path).1) hsame,
      inForce_of_same hw' hw h' h (fun path => (hpaths path).2) hsame.symm⟩
  · intro hforce q
    by_cases hq : ∃ path ∈ writes.map (·.1), Comparable (path.map .text) q
    · have hq' : ∃ path ∈ writes'.map (·.1), Comparable (path.map .text) q := by
        simpa only [hpaths] using hq
      exact agrees_of_inForce hw hw' h h' hforce hq hq'
    · have hapart : ∀ w ∈ writes, ¬Comparable (w.1.map .text) q := by simpa using hq
      have hq' : ¬∃ path ∈ writes'.map (·.1), Comparable (path.map .text) q := by
        simpa only [hpaths] using hq
      have hapart' : ∀ w ∈ writes', ¬Comparable (w.1.map .text) q := by simpa using hq'
      rw [follow?_writeAll_apart hw h hapart, follow?_writeAll_apart hw' h' hapart',
        followAmong, followAmong, Value.followAmong_congr hpaths]
      exact optionRel_refl

end Rows

end Entries

end Tripwire
