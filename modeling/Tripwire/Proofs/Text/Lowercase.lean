import Tripwire.Text.Lettercase

/-!
# The lower case of a text

Taking the lower case twice is taking it once, since it consists of characters that are kept.
-/

namespace Tripwire.Text

/-- Whether the lower case of a text keeps a character, wherever it stands. -/
def isKept (c : Char) : Bool := lowerChar c == c && c != 'Σ' && c != 'İ'

theorem lowercaseAfter_of_kept {before cs : List Char} (h : ∀ c ∈ cs, isKept c = true) :
    lowercaseAfter before cs = cs := by
  induction cs generalizing before with
  | nil => rfl
  | cons c rest ih =>
    obtain ⟨hc, hrest⟩ := List.forall_mem_cons.1 h
    simp only [isKept, Bool.and_eq_true, beq_iff_eq, bne_iff_ne, ne_eq] at hc
    obtain ⟨⟨hlow, hsigma⟩, hdot⟩ := hc
    simp [lowercaseAfter, ih hrest, hlow, hsigma, hdot]

theorem lowercase_of_kept {s : String} (h : ∀ c ∈ s.toList, isKept c = true) :
    lowercase s = s := by
  rw [lowercase, lowercaseAfter_of_kept h, String.ofList_toList]

/-! ### Where runs lead -/

def CaseRun.low (r : CaseRun) : Nat := (r.first + r.shift).toNat

def CaseRun.high (r : CaseRun) : Nat := (r.last + r.shift).toNat

/-- Whether a run leads to code points of characters. -/
def CaseRun.isSound (r : CaseRun) : Bool :=
  decide (0 ≤ r.first + r.shift) &&
    (Nat.blt r.high 0xD800 || Nat.blt 0xDFFF r.low && Nat.blt r.high 0x110000)

/-- Whether a run leads to no member of another run. Either all that it leads to lies on one side of
the other run, or it leads to the gaps between the other's members. -/
def CaseRun.clears (r other : CaseRun) : Bool :=
  Nat.blt r.high other.first || Nat.blt other.last r.low ||
    other.step == 2 && (r.step == 2 || r.first == r.last) && (r.low + other.first) % 2 == 1

theorem lowerRuns_clear :
    (lowerRuns.all fun r => r.isSound && lowerRuns.all r.clears) = true := by
  decide +kernel

theorem CaseRun.not_holds_of_clears {r other : CaseRun} {n : Nat} (hs : r.isSound = true)
    (hc : r.clears other = true) (hn : r.holds n = true) :
    other.holds (n + r.shift).toNat = false := by
  simp only [isSound, Bool.and_eq_true, decide_eq_true_eq] at hs
  simp only [holds, Bool.and_eq_true, decide_eq_true_eq, beq_iff_eq] at hn
  obtain ⟨⟨hlo, hhi⟩, hstep⟩ := hn
  have hlow : r.low = (r.first + r.shift).toNat := rfl
  have hhigh : r.high = (r.last + r.shift).toNat := rfl
  rw [Bool.eq_false_iff]
  intro ho
  simp only [holds, Bool.and_eq_true, decide_eq_true_eq, beq_iff_eq] at ho
  obtain ⟨⟨holo, hohi⟩, hostep⟩ := ho
  simp only [clears, Bool.or_eq_true, Bool.and_eq_true, Nat.blt_eq, beq_iff_eq] at hc
  rcases hc with (hc | hc) | ⟨⟨hother, hsame⟩, hodd⟩
  · omega
  · omega
  · rw [hother] at hostep
    rcases hsame with htwo | hone
    · rw [htwo] at hstep
      omega
    · omega

theorem CaseRun.isValidChar_of_isSound {r : CaseRun} {n : Nat} (hs : r.isSound = true)
    (hn : r.holds n = true) : (n + r.shift).toNat.isValidChar := by
  simp only [isSound, Bool.and_eq_true, Bool.or_eq_true, decide_eq_true_eq, Nat.blt_eq] at hs
  simp only [holds, Bool.and_eq_true, decide_eq_true_eq] at hn
  have hlow : r.low = (r.first + r.shift).toNat := rfl
  have hhigh : r.high = (r.last + r.shift).toNat := rfl
  unfold Nat.isValidChar
  omega

theorem mapCase_cases (runs : List CaseRun) (n : Nat) :
    mapCase runs n = n ∨ ∃ r ∈ runs, r.holds n = true ∧ mapCase runs n = (n + r.shift).toNat := by
  induction runs with
  | nil => exact Or.inl rfl
  | cons r rest ih =>
    rw [mapCase]
    split
    · exact Or.inl rfl
    · split
      · rename_i hholds
        exact Or.inr ⟨r, List.mem_cons_self .., hholds, rfl⟩
      · exact ih.imp id fun ⟨r', hr', h⟩ => ⟨r', List.mem_cons_of_mem _ hr', h⟩

theorem mapCase_of_not_holds {runs : List CaseRun} {n : Nat}
    (h : ∀ r ∈ runs, r.holds n = false) : mapCase runs n = n := by
  rcases mapCase_cases runs n with heq | ⟨r, hr, hholds, -⟩
  · exact heq
  · rw [h r hr] at hholds
    cases hholds

theorem isKept_of_lowerPoint {c : Char} (h : lowerPoint c.toNat = c.toNat) : isKept c = true := by
  have hlow : lowerChar c = c := by
    rw [lowerChar, h]
    exact Char.ofNat_toNat c
  have hsigma : c ≠ 'Σ' := by
    rintro rfl
    exact absurd h (by decide)
  have hdot : c ≠ 'İ' := by
    rintro rfl
    exact absurd h (by decide)
  simp [isKept, hlow, hsigma, hdot]

theorem isKept_lowerChar (c : Char) : isKept (lowerChar c) = true := by
  rcases mapCase_cases lowerRuns c.toNat with h | ⟨r, hr, hholds, h⟩
  · have hlow : lowerChar c = c := by
      rw [lowerChar, lowerPoint, h]
      exact Char.ofNat_toNat c
    rw [hlow]
    exact isKept_of_lowerPoint h
  · have hrun := List.all_eq_true.1 lowerRuns_clear r hr
    obtain ⟨hsound, hclears⟩ := Bool.and_eq_true_iff.1 hrun
    refine isKept_of_lowerPoint ?_
    have hto : (lowerChar c).toNat = (c.toNat + r.shift).toNat := by
      rw [lowerChar, lowerPoint, h, Char.ofNat,
        dif_pos (CaseRun.isValidChar_of_isSound hsound hholds)]
      exact UInt32.toNat_ofNatLT
    rw [hto]
    exact mapCase_of_not_holds fun other hother =>
      CaseRun.not_holds_of_clears hsound (List.all_eq_true.1 hclears other hother) hholds

theorem isKept_of_mem_lowercaseAfter {before cs : List Char} {c : Char}
    (h : c ∈ lowercaseAfter before cs) : isKept c = true := by
  induction cs generalizing before with
  | nil => simp [lowercaseAfter] at h
  | cons d rest ih =>
    rw [lowercaseAfter, List.mem_append] at h
    rcases h with h | h
    · split at h
      · split at h
        · rw [List.mem_singleton.1 h]
          decide
        · rw [List.mem_singleton.1 h]
          decide
      · split at h
        · have hparts : ['i', '\u0307'].all isKept = true := by decide
          exact List.all_eq_true.1 hparts c h
        · rw [List.mem_singleton.1 h]
          exact isKept_lowerChar d
    · exact ih h

theorem lowercase_lowercase (s : String) : lowercase (lowercase s) = lowercase s := by
  refine lowercase_of_kept fun c hc => ?_
  rw [lowercase, String.toList_ofList] at hc
  exact isKept_of_mem_lowercaseAfter hc

theorem isKept_of_isDigit {c : Char} (h : c.isDigit = true) : isKept c = true := by
  have htable : ∀ n ∈ List.range 10, isKept (Char.ofNat (48 + n)) = true := by decide
  simp only [Char.isDigit, ge_iff_le, Bool.and_eq_true, decide_eq_true_eq] at h
  obtain ⟨hlo, hhi⟩ := h
  have hlo' : 48 ≤ c.toNat := hlo
  have hhi' : c.toNat ≤ 57 := hhi
  have hkept := htable (c.toNat - 48) (List.mem_range.2 (by omega))
  have hadd : 48 + (c.toNat - 48) = c.toNat := by omega
  rw [hadd, Char.ofNat_toNat] at hkept
  exact hkept

end Tripwire.Text
