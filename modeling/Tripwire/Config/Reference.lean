import Tripwire.Value.Basic

/-!
# References to variables

A text may refer to variables of the environment as `$NAME` or with the name between braces. Each
reference to a variable that is set gives way to the variable's value, which is not looked into again;
one to a variable that is not set stays as it is (`_expand_env` of `failfast.config`, lines 216-223).
-/

namespace Tripwire

def isNameChar (c : Char) : Bool := c.isAlphanum || c == '_'

/-- The name of a reference, after its dollar sign, and what follows the reference. -/
def takeReference? (cs : List Char) : Option (List Char × List Char) :=
  match cs with
  | '{' :: rest =>
    match rest.dropWhile (· ≠ '}') with
    | _ :: after => some (rest.takeWhile (· ≠ '}'), after)
    | [] => none
  | cs =>
    match cs.takeWhile isNameChar with
    | [] => none
    | name => some (name, cs.dropWhile isNameChar)

theorem length_takeReference? {cs name after : List Char}
    (h : takeReference? cs = some (name, after)) : after.length ≤ cs.length := by
  unfold takeReference? at h
  split at h
  · rename_i rest
    split at h
    · rename_i c tail heq
      have hl := (List.dropWhile_suffix (· ≠ '}') (l := rest)).length_le
      simp only [Option.some.injEq, Prod.mk.injEq] at h
      obtain ⟨_, rfl⟩ := h
      rw [heq] at hl
      simp only [List.length_cons] at hl ⊢
      omega
    · simp at h
  · split at h
    · simp at h
    · simp only [Option.some.injEq, Prod.mk.injEq] at h
      obtain ⟨_, rfl⟩ := h
      exact (List.dropWhile_suffix isNameChar).length_le

/-- The characters with their references resolved by `lookup`. -/
def resolveChars (lookup : String → Option String) (cs : List Char) : List Char :=
  match cs with
  | [] => []
  | c :: rest =>
    if c = '$' then
      match _h : takeReference? rest with
      | some (name, after) =>
        let shown := match lookup (String.ofList name) with
          | some v => v.toList
          | none => c :: rest.take (rest.length - after.length)
        shown ++ resolveChars lookup after
      | none => c :: resolveChars lookup rest
    else c :: resolveChars lookup rest
termination_by cs.length
decreasing_by
  · simp only [List.length_cons]
    have := length_takeReference? _h
    omega
  · simp
  · simp

def resolveText (lookup : String → Option String) (s : String) : String :=
  String.ofList (resolveChars lookup s.toList)

mutual

/-- A value with the references in its texts resolved, those in keys left alone. -/
def Value.resolve (lookup : String → Option String) : Value → Value
  | .text s => .text (resolveText lookup s)
  | .list items => .list (resolveItems lookup items)
  | .map entries _ => .map (resolveEntries lookup entries) none
  | v => v

def resolveItems (lookup : String → Option String) : List Value → List Value
  | [] => []
  | v :: rest => v.resolve lookup :: resolveItems lookup rest

def resolveEntries (lookup : String → Option String) : List (Value × Value) → List (Value × Value)
  | [] => []
  | (k, v) :: rest => (k, v.resolve lookup) :: resolveEntries lookup rest

end

end Tripwire
