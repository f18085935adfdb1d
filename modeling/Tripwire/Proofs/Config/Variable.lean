import Tripwire.Config.Layer
import Tripwire.Proofs.Text.Lowercase

/-!
# Variables of clusters

The variable of a field of a cluster has the cluster's name and the field's between double low lines.
A part between low lines holds no double low line, and does not begin or end with a low line.
-/

namespace Tripwire

namespace Text

theorem pieces_nil (m : Char) (mark : List Char) : pieces m mark [] = [[]] := by
  rw [pieces]

theorem pieces_append_lowLines {cs : List Char} (hmark : ¬ ['_', '_'] <:+: cs)
    (hend : cs.getLast? ≠ some '_') (rest : List Char) :
    pieces '_' ['_'] (cs ++ '_' :: '_' :: rest) = cs :: pieces '_' ['_'] rest := by
  induction cs with
  | nil =>
    rw [List.nil_append, pieces]
    rfl
  | cons c cs ih =>
    have hinner : ¬ ['_', '_'] <:+: cs := fun h => hmark (h.trans (List.suffix_cons c cs).isInfix)
    have hstep : consPiece c (pieces '_' ['_'] (cs ++ '_' :: '_' :: rest)) =
        (c :: cs) :: pieces '_' ['_'] rest := by
      rw [ih hinner ?_]
      · rfl
      · cases cs with
        | nil => simp
        | cons d cs => rwa [List.getLast?_cons_cons] at hend
    rw [List.cons_append, pieces]
    by_cases hc : '_' = c
    · subst hc
      cases cs with
      | nil => simp at hend
      | cons d cs =>
        have hd : '_' ≠ d := by
          rintro rfl
          exact hmark (List.prefix_append ['_', '_'] cs).isInfix
        have hdrop : dropMark? ['_'] (d :: cs ++ '_' :: '_' :: rest) = none := by
          simp [dropMark?, hd]
        simp only [if_true]
        split
        · rename_i h
          rw [hdrop] at h
          cases h
        · exact hstep
    · rw [if_neg hc]
      exact hstep

theorem pieces_of_no_lowLines {cs : List Char} (hmark : ¬ ['_', '_'] <:+: cs) :
    pieces '_' ['_'] cs = [cs] := by
  induction cs with
  | nil => exact pieces_nil '_' ['_']
  | cons c cs ih =>
    have hinner : ¬ ['_', '_'] <:+: cs := fun h => hmark (h.trans (List.suffix_cons c cs).isInfix)
    rw [pieces, ih hinner]
    by_cases hc : '_' = c
    · subst hc
      simp only [if_true]
      split
      · rename_i after h
        have heq := dropMark?_eq_some_iff.1 h
        refine absurd ?_ hmark
        rw [heq]
        exact (List.prefix_append ['_', '_'] after).isInfix
      · rfl
    · rw [if_neg hc]
      rfl

end Text

/-- A part of a variable's name between double low lines. -/
structure IsPart (part : String) : Prop where
  nonempty : part ≠ ""
  noMark : ¬ ['_', '_'] <:+: part.toList
  start : part.toList.head? ≠ some '_'
  finish : part.toList.getLast? ≠ some '_'

theorem IsPart.of_chars {part : String} {cs : List Char} (h : part.toList = cs) (hne : cs ≠ [])
    (hmark : ¬ ['_', '_'] <:+: cs) (hstart : cs.head? ≠ some '_')
    (hfinish : cs.getLast? ≠ some '_') : IsPart part := by
  subst h
  exact ⟨fun he => hne (by rw [he]; rfl), hmark, hstart, hfinish⟩

theorem IsPart.piecesAtLowLines {first second third : String} (hfirst : IsPart first)
    (hsecond : IsPart second) (hthird : IsPart third) :
    Text.piecesAtLowLines (first ++ "__" ++ second ++ "__" ++ third) = [first, second, third] := by
  have hlines : "__".toList = ['_', '_'] := by decide
  have hsplit : (first ++ "__" ++ second ++ "__" ++ third).toList =
      first.toList ++ '_' :: '_' :: (second.toList ++ '_' :: '_' :: third.toList) := by
    simp only [String.toList_append, hlines, List.append_assoc, List.cons_append, List.nil_append]
  rw [Text.piecesAtLowLines, hsplit, Text.pieces_append_lowLines hfirst.noMark hfirst.finish,
    Text.pieces_append_lowLines hsecond.noMark hsecond.finish,
    Text.pieces_of_no_lowLines hthird.noMark]
  simp only [List.map_cons, List.map_nil, String.ofList_toList]

theorem variablePath?_append (rest : String) : variablePath? (variableMark ++ rest) =
    some (((Text.piecesAtLowLines rest).filter (· ≠ "")).map Text.lowercase) := by
  have hdrop : Text.dropMark? variableMark.toList (variableMark ++ rest).toList =
      some rest.toList := Text.dropMark?_eq_some_iff.2 String.toList_append
  rw [variablePath?, hdrop, Option.map_some, String.ofList_toList]

/-- The name of the variable of a field of a cluster. -/
def clusterVariable (cluster field : String) : String :=
  variableMark ++ ("CLUSTERS" ++ "__" ++ cluster ++ "__" ++ field)

theorem isPart_clusters : IsPart "CLUSTERS" := by
  have hchars : "CLUSTERS".toList = ['C', 'L', 'U', 'S', 'T', 'E', 'R', 'S'] := by decide
  exact .of_chars hchars (by decide) (by decide) (by decide) (by decide)

theorem lowercase_clusters : Text.lowercase "CLUSTERS" = clustersKey := by
  decide

theorem variablePath?_clusterVariable {cluster field : String} (hc : IsPart cluster)
    (hf : IsPart field) : variablePath? (clusterVariable cluster field) =
      some [clustersKey, Text.lowercase cluster, Text.lowercase field] := by
  rw [clusterVariable, variablePath?_append, isPart_clusters.piecesAtLowLines hc hf]
  have hfilter : ["CLUSTERS", cluster, field].filter (· ≠ "") = ["CLUSTERS", cluster, field] := by
    rw [List.filter_eq_self]
    simp [hc.nonempty, hf.nonempty]
  rw [hfilter, List.map_cons, List.map_cons, List.map_cons, lowercase_clusters, List.map_nil]

end Tripwire
