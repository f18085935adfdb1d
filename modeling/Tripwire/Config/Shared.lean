import Tripwire.Value.Basic

/-!
# Shared mappings

A mapping that a document uses in several places is one mapping: what is written to it in one place is
seen in all of them. `News` keeps the new contents of such mappings, and applying the news brings every
place up to date. A value without anchors is a plain tree, and no news concerns it. `_merge` and
`_set_dotted` of `failfast.config` write to such mappings.
-/

namespace Tripwire

/-- New contents of shared mappings, the latest at the end. -/
abbrev News := List (Nat × Entries)

mutual

/-- Gives the shared mapping of an anchor its new content, wherever it occurs. -/
def Value.renew (anchor : Nat) (content : Entries) : Value → Value
  | .list items => .list (renewItems anchor content items)
  | .map entries a =>
    if a = some anchor then .map content a else .map (renewEntries anchor content entries) a
  | v => v

/-- The items of a list, brought up to date. -/
def renewItems (anchor : Nat) (content : Entries) : List Value → List Value
  | [] => []
  | v :: rest => v.renew anchor content :: renewItems anchor content rest

/-- The entries of a mapping, brought up to date. -/
def renewEntries (anchor : Nat) (content : Entries) : List (Value × Value) → List (Value × Value)
  | [] => []
  | (k, v) :: rest => (k, v.renew anchor content) :: renewEntries anchor content rest

end

namespace News

def apply (news : News) (entries : Entries) : Entries :=
  news.foldl (fun es change => renewEntries change.1 change.2 es) entries

def applyValue (news : News) (v : Value) : Value :=
  news.foldl (fun v change => v.renew change.1 change.2) v

/-- Adds the new content of a mapping, if the mapping is shared. -/
def add (news : News) (anchor : Option Nat) (content : Entries) : News :=
  match anchor with
  | some a => news ++ [(a, content)]
  | none => news

end News

end Tripwire
