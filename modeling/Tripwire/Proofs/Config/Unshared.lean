import Tripwire.Proofs.Config.Merge

/-!
# Writes that meet nothing shared

A write whose path leads through no shared mapping changes what stands under its first key and nothing
else: below its first key it is a write into the mapping there, which is put back. No path leads through
a shared mapping of a tree.
-/

namespace Tripwire

theorem mappingOnPath_isTree {key : String} {current : Option Value} {child : Entries}
    {anchor : Option Nat} (hc : ∀ c, current = some c → c.IsTree)
    (h : mappingOnPath key current = .ok (child, anchor)) : anchor = none ∧ child.IsTree := by
  rw [mappingOnPath_eq, map_eq_ok] at h
  obtain ⟨below, hbelow, h⟩ := h
  cases below with
  | none =>
    cases h
    exact ⟨rfl, Entries.isTree_nil⟩
  | some below =>
    cases h
    exact mappingBelow_isTree hc hbelow

theorem mappingOnPath_text (key s : String) : mappingOnPath key (some (.text s)) = .ok ([], none) := rfl

theorem mappingOnPath_map (key : String) (entries : Entries) (anchor : Option Nat) :
    mappingOnPath key (some (.map entries anchor)) = .ok (entries, anchor) := rfl

namespace Entries

/-- That no mapping on the way of a path, before its end, is shared. -/
def Unshared : Entries → List String → Prop
  | entries, key :: next :: rest => ∀ child anchor,
      mappingOnPath key (entries.get? (.text key)) = .ok (child, anchor) →
        anchor = none ∧ Unshared child (next :: rest)
  | _, _ => True

theorem IsTree.unshared {entries : Entries} (h : entries.IsTree) (path : List String) :
    entries.Unshared path := by
  induction path generalizing entries with
  | nil => trivial
  | cons key rest ih =>
    cases rest with
    | nil => trivial
    | cons next rest =>
      intro child anchor hchild
      obtain ⟨rfl, hct⟩ := mappingOnPath_isTree (h.under _) hchild
      exact ⟨rfl, ih hct⟩

theorem unshared_nil (path : List String) : Unshared [] path := isTree_nil.unshared path

theorem news_of_unshared {entries r : Entries} {path : List String} {v : Value} {news : News}
    (hu : entries.Unshared path) (h : writeAt v entries path = .ok (r, news)) : news = [] := by
  induction path generalizing entries r news with
  | nil =>
    cases h
    rfl
  | cons key rest ih =>
    cases rest with
    | nil =>
      cases h
      rfl
    | cons next rest =>
      obtain ⟨⟨child, anchor⟩, hchild, h⟩ := bind_eq_ok.1 h
      obtain ⟨rfl, hcu⟩ := hu child anchor hchild
      obtain ⟨⟨written, news'⟩, hwritten, h⟩ := bind_eq_ok.1 h
      obtain rfl := ih hcu hwritten
      cases h
      rfl

theorem write_under {entries : Entries} {key next : String} {rest : List String}
    (hu : entries.Unshared (key :: next :: rest)) (v : Value) :
    entries.write (key :: next :: rest) v =
      mappingOnPath key (entries.get? (.text key)) >>= fun below =>
        (below.1.write (next :: rest) v).map fun child => entries.put (.text key) (.map child none) := by
  rw [Entries.write, writeAt]
  cases hbelow : mappingOnPath key (entries.get? (.text key)) with
  | error f => rfl
  | ok below =>
    obtain ⟨child, anchor⟩ := below
    obtain ⟨rfl, hcu⟩ := hu child anchor hbelow
    rw [ok_bind, ok_bind, Entries.write]
    dsimp only
    cases hchild : writeAt v child (next :: rest) with
    | error f => rfl
    | ok written =>
      obtain ⟨written, news⟩ := written
      obtain rfl := news_of_unshared hcu hchild
      rfl

theorem write_under_eq_ok {entries r : Entries} {key next : String} {rest : List String} {v : Value}
    (hu : entries.Unshared (key :: next :: rest)) (h : entries.write (key :: next :: rest) v = .ok r) :
    ∃ child written, mappingOnPath key (entries.get? (.text key)) = .ok (child, none) ∧
      child.Unshared (next :: rest) ∧ child.write (next :: rest) v = .ok written ∧
      r = entries.put (.text key) (.map written none) := by
  rw [write_under hu, bind_eq_ok] at h
  obtain ⟨⟨child, anchor⟩, hchild, h⟩ := h
  obtain ⟨rfl, hcu⟩ := hu child anchor hchild
  obtain ⟨written, hwritten, rfl⟩ := map_eq_ok.1 h
  exact ⟨child, written, hchild, hcu, hwritten, rfl⟩

end Entries

end Tripwire
