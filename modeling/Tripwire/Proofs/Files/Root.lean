import Tripwire.Config.Load

/-!
# The project root

The project root is looked for upwards from a directory. It is the nearest of the directory and those
that it lies in that holds a marker, and the directory itself if none does; looked for from there it is
found again.
-/

namespace Tripwire

open Files (Entry Path)

namespace Files

/-! ### Directories on the way -/

namespace Entry

def IsDirectoryAt (root : Entry) (names : List String) : Prop :=
  ∃ children, root.at? names = some (.directory children)

/-- Whether a directory holds a file or a directory with the name of a marker. -/
def HoldsMarker (root : Entry) (names : List String) : Prop :=
  ∃ children, root.at? names = some (.directory children) ∧
    ((Named.get? children "pyproject.toml").isSome ∨ (Named.get? children ".git").isSome)

theorem at?_append (e : Entry) (names rest : List String) :
    e.at? (names ++ rest) = (e.at? names).bind fun c => c.at? rest := by
  induction names generalizing e with
  | nil => rfl
  | cons name names ih =>
    rw [List.cons_append, at?, at?]
    cases e.child? name with
    | none => rfl
    | some c => exact ih c

theorem IsDirectoryAt.outer {root : Entry} {names outer : List String}
    (h : root.IsDirectoryAt names) (ho : outer <+: names) : root.IsDirectoryAt outer := by
  obtain ⟨children, hat⟩ := h
  obtain ⟨rest, rfl⟩ := ho
  rw [at?_append] at hat
  obtain ⟨e, he, hrest⟩ := Option.bind_eq_some_iff.1 hat
  cases e with
  | directory inner => exact ⟨inner, he⟩
  | file bytes =>
    -- a file has no names below it, so the way ends there
    cases rest with
    | nil => cases hrest
    | cons name rest => cases hrest

theorem holds_concat (root : Entry) (names : List String) (name : String) :
    root.holds (names ++ [name]) = true ↔
      ∃ children, root.at? names = some (.directory children) ∧ (Named.get? children name).isSome := by
  rw [holds, at?_append]
  cases root.at? names with
  | none => simp
  | some e =>
    cases e with
    | file bytes => simp [at?, child?]
    | directory children => simp [at?, child?]

end Entry

theorem isMarked_iff {root : Entry} {names : List String} :
    isMarked root names = true ↔ root.HoldsMarker names := by
  simp only [isMarked, rootMarkers, List.any_cons, List.any_nil, Bool.or_false, Bool.or_eq_true,
    Entry.holds_concat, Entry.HoldsMarker, and_or_left, exists_or]

/-! ### The nearest that is marked -/

theorem mem_ancestors {names outer : List String} : outer ∈ ancestors names ↔ outer <+: names := by
  rw [ancestors, List.mem_map]
  constructor
  · rintro ⟨n, -, rfl⟩
    exact List.take_prefix n names
  · intro h
    refine ⟨outer.length, ?_, (List.prefix_iff_eq_take.1 h).symm⟩
    rw [List.mem_reverse, List.mem_range]
    exact Nat.lt_succ_of_le h.length_le

theorem find_ancestors_self {names : List String} {p : List String → Bool} (h : p names = true) :
    (ancestors names).find? p = some names := by
  rw [ancestors, List.range_succ, List.reverse_append, List.reverse_singleton, List.singleton_append,
    List.map_cons, List.take_length, List.find?_cons_of_pos h]

/-- The search goes outwards, so what it passes lies further in than what it finds. -/
theorem not_of_find_ancestors {names found inner : List String} {p : List String → Bool}
    (h : (ancestors names).find? p = some found) (hi : inner <+: names) (hf : found <+: inner)
    (hne : inner ≠ found) : p inner = false := by
  obtain ⟨-, i, hlen, hfound, hbefore⟩ := List.find?_eq_some_iff_getElem.1 h
  simp only [ancestors, List.length_map, List.length_reverse, List.length_range] at hlen
  simp only [ancestors, List.getElem_map, List.getElem_reverse, List.length_range,
    List.getElem_range] at hfound hbefore
  have hshorter : found.length < inner.length := by
    refine Nat.lt_of_le_of_ne hf.length_le fun heq => hne ?_
    exact (hf.eq_of_length heq).symm
  have hwithin := hi.length_le
  have hplace : found.length = names.length - i := by
    rw [← hfound, List.length_take]
    omega
  have hpassed := hbefore (names.length - inner.length) (by omega)
  have hback : names.length + 1 - 1 - (names.length - inner.length) = inner.length := by omega
  rw [hback, ← List.prefix_iff_eq_take.1 hi] at hpassed
  simpa using hpassed

theorem projectRoot_isAncestor (root : Entry) (names : List String) : projectRoot root names <+: names := by
  rw [projectRoot]
  cases h : (ancestors names).find? (isMarked root) with
  | none => exact List.prefix_rfl
  | some found => exact mem_ancestors.1 (List.mem_of_find?_eq_some h)

/-- Either the root is marked and nothing nearer is, or nothing is marked and it is the start. -/
theorem projectRoot_cases (root : Entry) (names : List String) :
    (root.HoldsMarker (projectRoot root names) ∧
      ∀ d, projectRoot root names <+: d → d <+: names → d ≠ projectRoot root names →
        ¬root.HoldsMarker d) ∨
    (projectRoot root names = names ∧ ∀ d, d <+: names → ¬root.HoldsMarker d) := by
  cases h : (ancestors names).find? (isMarked root) with
  | none =>
    have hroot : projectRoot root names = names := by rw [projectRoot, h, Option.getD_none]
    refine .inr ⟨hroot, fun d hd => ?_⟩
    rw [← isMarked_iff]
    exact List.find?_eq_none.1 h d (mem_ancestors.2 hd)
  | some found =>
    have hroot : projectRoot root names = found := by rw [projectRoot, h, Option.getD_some]
    rw [hroot]
    refine .inl ⟨isMarked_iff.1 (List.find?_some h), fun d hfd hd hne => ?_⟩
    rw [← isMarked_iff, Bool.not_eq_true]
    exact not_of_find_ancestors h hd hfd hne

theorem projectRoot_projectRoot (root : Entry) (names : List String) :
    projectRoot root (projectRoot root names) = projectRoot root names := by
  obtain ⟨hmarked, -⟩ | ⟨hself, -⟩ := projectRoot_cases root names
  · rw [projectRoot, find_ancestors_self (isMarked_iff.2 hmarked), Option.getD_some]
  · rw [hself, hself]

/-! ### Where a path leads -/

namespace Path

/-- Following a path ends at the names that it is resolved to. -/
theorem at?_go {root : Entry} {back parts : List String} {e : Entry}
    (h : root.follow? back parts = some e) :
    root.at? (resolveFrom.go back parts).reverse = some e := by
  induction parts generalizing back with
  | nil => exact h
  | cons part rest ih =>
    rw [Entry.follow?] at h
    split at h
    · rw [resolveFrom.go]
      split at h
      · rename_i hstep
        rw [if_pos hstep]
        exact ih h
      · rename_i hstep
        rw [if_neg hstep]
        exact ih h
    · cases h

theorem not_mem_go {back parts : List String} (h : ".." ∉ back) :
    ".." ∉ resolveFrom.go back parts := by
  induction parts generalizing back with
  | nil => exact h
  | cons part rest ih =>
    rw [resolveFrom.go]
    split
    · exact ih fun hmem => h (List.mem_of_mem_tail hmem)
    · rename_i hstep
      exact ih (List.not_mem_cons_of_ne_of_not_mem (Ne.symm hstep) h)

theorem go_of_not_mem {parts : List String} (h : ".." ∉ parts) (back : List String) :
    resolveFrom.go back parts = parts.reverse ++ back := by
  induction parts generalizing back with
  | nil => rfl
  | cons part rest ih =>
    obtain ⟨hstep, hrest⟩ := List.ne_and_not_mem_of_not_mem_cons h
    rw [resolveFrom.go, if_neg (Ne.symm hstep), ih hrest, List.reverse_cons, List.append_assoc]
    rfl

theorem not_mem_resolveFrom {here : List String} (h : ".." ∉ here) (p : Path) :
    ".." ∉ p.resolveFrom here := by
  rw [resolveFrom, List.mem_reverse]
  refine not_mem_go ?_
  rw [List.mem_reverse, setOut]
  split
  · exact h
  · exact List.not_mem_nil

theorem resolveFrom_ofDirectory {names : List String} (h : ".." ∉ names) (here : List String) :
    (ofDirectory names).resolveFrom here = names := by
  have hroot : (ofDirectory names).setOut here = [] := rfl
  rw [resolveFrom, hroot, List.reverse_nil, ofDirectory, go_of_not_mem h, List.append_nil,
    List.reverse_reverse]

end Path

end Files

/-! ### The root of a host -/

namespace Host

/-- What a start path leads to; without one it is the current directory. -/
def startEntry? (h : Host) : Option Path → Option Entry
  | some p => h.find? p
  | none => h.files.at? h.here

/-- The names on the way from the root of all files to a start. -/
def startNames (h : Host) : Option Path → List String
  | some p => p.resolveFrom h.here
  | none => h.here

theorem projectRoot_eq (h : Host) (start : Option Path) :
    h.projectRoot start = Files.projectRoot h.files (h.startNames start) := by
  cases start <;> rfl

theorem at?_startNames {h : Host} {start : Option Path} {e : Entry} (he : h.startEntry? start = some e) :
    h.files.at? (h.startNames start) = some e := by
  cases start with
  | none => exact he
  | some p => exact Path.at?_go he

theorem not_mem_startNames {h : Host} (hhere : ".." ∉ h.here) (start : Option Path) :
    ".." ∉ h.startNames start := by
  cases start with
  | none => exact hhere
  | some p => exact Path.not_mem_resolveFrom hhere p

/-- From a directory, the project root is a directory among it and those that it lies in. If any of
these holds a marker, the root does and no directory between the two, nor the start itself unless it is
the root; if none does, the root is the start. From the root the root is found again. -/
theorem project_root_is_nearest_marked {h : Host} {start : Option Path}
    {children : List (String × Entry)} (hhere : ".." ∉ h.here)
    (hstart : h.startEntry? start = some (.directory children)) :
    h.files.at? (h.startNames start) = some (.directory children) ∧
    h.projectRoot start <+: h.startNames start ∧
    h.files.IsDirectoryAt (h.projectRoot start) ∧
    ((∃ d, d <+: h.startNames start ∧ h.files.HoldsMarker d) →
      h.files.HoldsMarker (h.projectRoot start) ∧
        ∀ d, h.projectRoot start <+: d → d <+: h.startNames start → d ≠ h.projectRoot start →
          ¬h.files.HoldsMarker d) ∧
    ((∀ d, d <+: h.startNames start → ¬h.files.HoldsMarker d) →
      h.projectRoot start = h.startNames start) ∧
    h.projectRoot (some (Path.ofDirectory (h.projectRoot start))) = h.projectRoot start := by
  have hat := at?_startNames hstart
  have houter := Files.projectRoot_isAncestor h.files (h.startNames start)
  have hnames : ".." ∉ Files.projectRoot h.files (h.startNames start) :=
    fun hmem => not_mem_startNames hhere start (houter.subset hmem)
  have hagain : h.startNames (some (Path.ofDirectory (Files.projectRoot h.files (h.startNames start)))) =
      Files.projectRoot h.files (h.startNames start) := Path.resolveFrom_ofDirectory hnames h.here
  simp only [projectRoot_eq]
  refine ⟨hat, houter, .outer ⟨children, hat⟩ houter, ?_, ?_, ?_⟩
  · rintro ⟨d, hd, hmarked⟩
    obtain hnearest | ⟨-, hnone⟩ := Files.projectRoot_cases h.files (h.startNames start)
    · exact hnearest
    · exact absurd hmarked (hnone d hd)
  · intro hnone
    obtain ⟨hmarked, -⟩ | ⟨hself, -⟩ := Files.projectRoot_cases h.files (h.startNames start)
    · exact absurd hmarked (hnone _ houter)
    · exact hself
  · rw [hagain, Files.projectRoot_projectRoot]

/-- A start beside the current directory, below a marked directory that lies in another one. -/
theorem root_of_sibling_is_outside :
    let h : Host := {
      files := .directory [(".git", .directory []), ("p", .directory [("pyproject.toml", .file []),
        ("a", .directory [("b", .directory []), ("c", .directory [])])])]
      here := ["p", "a", "c"] }
    let start : Path := ⟨.here, ["..", "b"]⟩
    ".." ∉ h.here ∧ h.startEntry? (some start) = some (.directory []) ∧
      h.projectRoot (some start) = ["p"] ∧ h.files.IsDirectoryAt ["p"] ∧ h.files.HoldsMarker ["p"] ∧
      ¬h.files.HoldsMarker ["p", "a"] ∧ h.projectRoot (some (Path.ofDirectory ["p"])) = ["p"] := by
  intro h start
  have hhere : ".." ∉ h.here := by decide
  have hstart : h.startEntry? (some start) = some (.directory []) := rfl
  have hroot : h.projectRoot (some start) = ["p"] := by decide
  have hnames : h.startNames (some start) = ["p", "a", "b"] := rfl
  have hsome : ∃ d, d <+: ["p", "a", "b"] ∧ h.files.HoldsMarker d :=
    ⟨["p"], by decide, _, rfl, .inl rfl⟩
  obtain ⟨-, -, hdirectory, hmarked, -, hagain⟩ := project_root_is_nearest_marked hhere hstart
  rw [hroot] at hdirectory hmarked hagain
  rw [hnames] at hmarked
  obtain ⟨hholds, hbetween⟩ := hmarked hsome
  exact ⟨hhere, hstart, hroot, hdirectory, hholds,
    hbetween ["p", "a"] (by decide) (by decide) (by decide), hagain⟩

end Host

end Tripwire
