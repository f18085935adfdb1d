/-!
# Cutting text at marks

A mark is a text that separates others. Cutting goes from left to right, and marks do not overlap.
-/

namespace Tripwire.Text

/-- What follows a mark, if a text begins with it. -/
def dropMark? : List Char → List Char → Option (List Char)
  | [], cs => some cs
  | m :: mark, c :: cs => if m = c then dropMark? mark cs else none
  | _ :: _, [] => none

theorem dropMark?_eq_some_iff {mark cs rest : List Char} :
    dropMark? mark cs = some rest ↔ cs = mark ++ rest := by
  induction mark generalizing cs with
  | nil => simp [dropMark?]
  | cons m mark ih =>
    cases cs with
    | nil => simp [dropMark?]
    | cons c cs =>
      by_cases h : m = c
      · simp [dropMark?, h, ih]
      · simp [dropMark?, h, Ne.symm h]

theorem length_dropMark? {mark cs rest : List Char} (h : dropMark? mark cs = some rest) :
    rest.length ≤ cs.length := by
  rw [dropMark?_eq_some_iff.1 h, List.length_append]
  omega

/-- Puts a character at the front of the first piece. -/
def consPiece (c : Char) : List (List Char) → List (List Char)
  | [] => [[c]]
  | piece :: pieces => (c :: piece) :: pieces

/-- The pieces between the marks of a text. The mark is given by its first character and the rest. -/
def pieces (m : Char) (mark : List Char) (cs : List Char) : List (List Char) :=
  match cs with
  | [] => [[]]
  | c :: rest =>
    if m = c then
      match _h : dropMark? mark rest with
      | some after => [] :: pieces m mark after
      | none => consPiece c (pieces m mark rest)
    else consPiece c (pieces m mark rest)
termination_by cs.length
decreasing_by
  · simp only [List.length_cons]
    have := length_dropMark? _h
    omega
  · simp
  · simp

/-- The pieces of a text between low lines that stand in pairs. -/
def piecesAtLowLines (s : String) : List String := (pieces '_' ['_'] s.toList).map String.ofList

def piecesAtDots (s : String) : List String := (pieces '.' [] s.toList).map String.ofList

end Tripwire.Text
