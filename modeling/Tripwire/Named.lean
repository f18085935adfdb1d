/-!
# Things under names

A list of names with a thing under each, in the order in which the names first came.
-/

namespace Tripwire

variable {α : Type}

/-- Things under names. -/
abbrev Named (α : Type) := List (String × α)

namespace Named

/-- Puts a thing under a name. A name that is there keeps its place. -/
def put : Named α → String → α → Named α
  | [], name, a => [(name, a)]
  | x :: rest, name, a => if x.1 = name then (name, a) :: rest else x :: put rest name a

def get? (xs : Named α) (name : String) : Option α := (xs.find? fun x => x.1 == name).map (·.2)

def ofPairs (pairs : List (String × α)) : Named α :=
  pairs.foldl (fun xs p => put xs p.1 p.2) []

theorem get?_put (xs : Named α) (name other : String) (a : α) :
    (xs.put name a).get? other = if name = other then some a else xs.get? other := by
  induction xs with
  | nil => simp [put, get?]
  | cons x rest ih =>
    simp only [get?] at ih
    by_cases hx : x.1 = name
    · by_cases h : name = other <;> simp [put, get?, hx, h]
    · by_cases h : x.1 = other
      · have hn : name ≠ other := fun e => hx (h.trans e.symm)
        simp only [put, if_neg hx, get?, List.find?_cons, beq_iff_eq.2 h, if_neg hn]
      · simp only [put, if_neg hx, get?, List.find?_cons, beq_eq_false_iff_ne.2 h, ih]

end Named

end Tripwire
