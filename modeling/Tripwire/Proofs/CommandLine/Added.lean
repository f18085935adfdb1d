import Tripwire.CommandLine.Arguments
import Tripwire.Proofs.Outcome

/-!
# Arguments added at the end

Arguments that make sense leave nothing over, so there is no mark among them and each value belongs to
its option. What is added at the end is then read by itself, after them.
-/

namespace Tripwire.CommandLine

variable {a b : Arguments} {left rest : List String} {ps qs : List Piece} {xs ys : List String}

theorem shortHelp_ne_ok {α : Type} (byEquals : Bool) (cs : List Char) (x : α) :
    shortHelp byEquals cs ≠ .ok x := by
  fun_induction shortHelp (α := α) byEquals cs <;> simp_all [ignored, blameFlag]

/-- Nothing is left over only if nothing was before and there is no mark. -/
theorem not_mark_of_readPieces (h : readPieces a left ps = .ok (b, [])) :
    left = [] ∧ Piece.mark ∉ ps := by
  fun_induction readPieces a left ps with
  | case1 a left =>
    cases h
    simp
  | case2 a left s rest ih => simpa using ih h
  | case3 a left s rest ih => simpa using ih h
  | case4 a left rest ih => simpa using (ih h).1
  | case5 a left f short joined rest hvalue ih =>
    obtain ⟨given, -, h⟩ := bind_eq_ok.1 h
    simpa using ih given h
  | case6 a left f joined rest hvalue => exact absurd h (shortHelp_ne_ok _ _ _)
  | case7 a left f short joined rest hvalue hshort => cases h
  | case8 a left f short hvalue value rest ih =>
    obtain ⟨given, -, h⟩ := bind_eq_ok.1 h
    simpa using ih given h
  | case9 a left f short rest hvalue hword => cases h
  | case10 a left f short rest hvalue ih =>
    obtain ⟨given, -, h⟩ := bind_eq_ok.1 h
    simpa using ih given h

theorem readPieces_switch {f : Flag} {short : Bool} (h : ¬f.hasValue = true) :
    readPieces a left (.option f short none :: ps) =
      (a.turnOn f >>= fun a => readPieces a left ps) := by
  conv =>
    lhs
    unfold readPieces
  exact if_neg h

theorem readPieces_append (h : readPieces a left ps = .ok (b, rest)) (qs : List Piece) :
    readPieces a left (ps ++ qs) = readPieces b rest qs := by
  fun_induction readPieces a left ps with
  | case1 a left =>
    cases h
    rfl
  | case2 a left s later ih => exact ih h
  | case3 a left s later ih => exact ih h
  | case4 a left later ih => exact ih h
  | case5 a left f short joined later hvalue ih =>
    obtain ⟨given, hgiven, h⟩ := bind_eq_ok.1 h
    rw [List.cons_append, readPieces, if_pos hvalue, hgiven]
    exact ih given h
  | case6 a left f joined later hvalue => exact absurd h (shortHelp_ne_ok _ _ _)
  | case7 a left f short joined later hvalue hshort => cases h
  | case8 a left f short hvalue value later ih =>
    obtain ⟨given, hgiven, h⟩ := bind_eq_ok.1 h
    rw [List.cons_append, List.cons_append, readPieces, if_pos hvalue, hgiven]
    exact ih given h
  | case9 a left f short later hvalue hword => cases h
  | case10 a left f short later hvalue ih =>
    obtain ⟨given, hgiven, h⟩ := bind_eq_ok.1 h
    rw [List.cons_append, readPieces_switch hvalue, hgiven]
    exact ih given h

/-- Without a mark each argument is taken by itself. -/
theorem ofArguments_append (h : Piece.ofArguments xs = .ok ps) (hmark : Piece.mark ∉ ps)
    (hys : Piece.ofArguments ys = .ok qs) : Piece.ofArguments (xs ++ ys) = .ok (ps ++ qs) := by
  fun_induction Piece.ofArguments xs generalizing ps with
  | case1 =>
    cases h
    exact hys
  | case2 rest =>
    cases h
    simp at hmark
  | case3 s rest hs ih =>
    obtain ⟨p, hp, h⟩ := bind_eq_ok.1 h
    obtain ⟨others, hothers, h⟩ := bind_eq_ok.1 h
    cases h
    have hrest := ih hothers fun hmem => hmark (List.mem_cons_of_mem p hmem)
    rw [List.cons_append, Piece.ofArguments, hp, ok_bind, hrest, ok_bind]
    · rfl
    · exact hs

theorem ofStrings_eq_ok : Arguments.ofStrings xs = .ok a ↔
    ∃ ps, Piece.ofArguments xs = .ok ps ∧ readPieces {} [] ps = .ok (a, []) := by
  rw [Arguments.ofStrings, bind_eq_ok]
  refine exists_congr fun ps => and_congr_right fun _ => ?_
  constructor
  · intro h
    obtain ⟨⟨b, left⟩, hread, h⟩ := bind_eq_ok.1 h
    cases left with
    | nil =>
      cases h
      exact hread
    | cons s left => cases h
  · intro h
    rw [h]
    rfl

/-- What is added to arguments that make sense is read after them. -/
theorem ofStrings_append (h : Arguments.ofStrings xs = .ok a) (hys : Piece.ofArguments ys = .ok qs)
    (hread : readPieces a [] qs = .ok (b, [])) : Arguments.ofStrings (xs ++ ys) = .ok b := by
  obtain ⟨ps, hps, hfirst⟩ := ofStrings_eq_ok.1 h
  have hpieces := ofArguments_append hps (not_mark_of_readPieces hfirst).2 hys
  exact ofStrings_eq_ok.2 ⟨ps ++ qs, hpieces, (readPieces_append hfirst qs).trans hread⟩

/-! ### A look once, and a timeout -/

theorem ofStrings_once (h : Arguments.ofStrings xs = .ok a) :
    Arguments.ofStrings (xs ++ ["--once"]) = .ok { a with once := true } := by
  have honce : Piece.ofArguments ["--once"] = .ok [.option .once false none] := rfl
  exact ofStrings_append h honce rfl

/-- The arguments that set the timeout to what a text says: joined to the option, or an argument of its
own if it does not look like an option. -/
inductive SetsTimeout (text : String) : List String → Prop where
  | joined : SetsTimeout text ["--timeout=" ++ text]
  | alone (isWord : Piece.ofText text = .ok (.word text)) : SetsTimeout text ["--timeout", text]

theorem atEquals_append {stem : List Char} (h : '=' ∉ stem) (value : List Char) :
    atEquals (stem ++ '=' :: value) = (stem, some value) := by
  have hstem : ∀ c ∈ stem, (decide (c ≠ '=')) = true := by
    intro c hc
    rw [decide_eq_true_eq]
    rintro rfl
    exact h hc
  rw [atEquals, List.dropWhile_append_of_pos hstem, List.takeWhile_append_of_pos hstem]
  simp

theorem flagOf?_of_equals {s : String} (h : '=' ∈ s.toList) : flagOf? s = none := by
  have hnone : ∀ x ∈ spellings, '=' ∉ x.1.toList := by decide
  rw [flagOf?, Option.map_eq_none_iff, List.find?_eq_none]
  intro x hx heq
  have hspelled : x.1 = s := beq_iff_eq.1 heq
  exact hnone x hx (by rw [hspelled]; exact h)

theorem ofText_timeout (text : String) :
    Piece.ofText ("--timeout=" ++ text) = .ok (.option .timeout false (some ⟨true, text⟩)) := by
  have hchars : ("--timeout=" ++ text).toList = "--timeout".toList ++ '=' :: text.toList := by
    rw [String.toList_append]
    rfl
  have hat : atEquals ("--timeout".toList ++ '=' :: text.toList) =
      ("--timeout".toList, some text.toList) := atEquals_append (by decide) text.toList
  have hflag : flagOf? ("--timeout=" ++ text) = none := by
    apply flagOf?_of_equals
    rw [hchars]
    simp
  have hstem : flagOf? (String.ofList "--timeout".toList) = some .timeout := by decide
  have hhead : ("--timeout".toList ++ '=' :: text.toList).head? = some '-' := rfl
  have hlength : ("--timeout".toList ++ '=' :: text.toList).length ≠ 1 := by
    have hstem : 1 < "--timeout".toList.length := by decide
    rw [List.length_append]
    omega
  rw [Piece.ofText, hflag, hchars, hat]
  simp only [hhead, hlength, hstem]
  simp [isShort]

theorem ofArguments_singleton {s : String} {p : Piece} (hs : s ≠ "--")
    (h : Piece.ofText s = .ok p) : Piece.ofArguments [s] = .ok [p] := by
  rw [Piece.ofArguments, h, ok_bind, Piece.ofArguments]
  · rfl
  · exact hs

theorem ofStrings_timeout {text : String} {t : Float} {more : List String}
    (h : Arguments.ofStrings xs = .ok a) (hmore : SetsTimeout text more)
    (ht : Decimal.readReal? text = some t) :
    Arguments.ofStrings (xs ++ more) = .ok { a with timeout := some t } := by
  have hvalue : Flag.timeout.hasValue = true := rfl
  have hgive : a.give .timeout text = .ok { a with timeout := some t } := by
    rw [Arguments.give, ht]
  cases hmore with
  | joined =>
    have hne : "--timeout=" ++ text ≠ "--" := by
      intro heq
      have hlength := congrArg String.length heq
      rw [String.length_append] at hlength
      have hbound : 2 < "--timeout=".length := by decide
      have hmark : "--".length = 2 := rfl
      omega
    refine ofStrings_append h (ofArguments_singleton hne (ofText_timeout text)) ?_
    rw [readPieces, if_pos hvalue, hgive]
    rfl
  | alone isWord =>
    have hne : text ≠ "--" := by
      rintro rfl
      cases isWord
    have htext := ofArguments_singleton hne isWord
    have hpieces : Piece.ofArguments ["--timeout", text] =
        .ok [.option .timeout false none, .word text] := by
      have hoption : Piece.ofText "--timeout" = .ok (.option .timeout false none) := rfl
      rw [Piece.ofArguments, hoption, ok_bind, htext]
      · rfl
      · decide
    refine ofStrings_append h hpieces ?_
    rw [readPieces, if_pos hvalue, hgive]
    rfl

end Tripwire.CommandLine
