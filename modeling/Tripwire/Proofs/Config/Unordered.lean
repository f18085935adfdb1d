import Tripwire.Proofs.Config.Grown
import Tripwire.Proofs.Config.Layered
import Tripwire.Proofs.Config.Loading
import Tripwire.Proofs.Config.Same

/-!
# Variables in another order

Variables of which none sets a part of what another sets come to the same data in any order, where they
meet no shared mapping. If lists of clusters on the ways of their paths cannot be read by names, loading
fails in any order, and the order decides at which list.
-/

namespace Tripwire

open Files (Path)

/-- A fault that one of the writes fails with by itself. -/
def Entries.Obstructs (entries : Entries) (writes : List (List String × Value)) (f : Fault) : Prop :=
  ∃ w ∈ writes, entries.write w.1 w.2 = .error f

section Rows

variable {entries : Entries} {writes writes' : List (List String × Value)}

theorem Entries.Writable.perm (h : entries.Writable writes) (hperm : writes'.Perm writes) :
    entries.Writable writes' := fun w hw => h w (hperm.mem_iff.1 hw)

theorem Entries.Obstructs.perm {f : Fault} (h : entries.Obstructs writes' f)
    (hperm : writes'.Perm writes) : entries.Obstructs writes f := by
  obtain ⟨w, hw, hf⟩ := h
  exact ⟨w, hperm.mem_iff.1 hw, hf⟩

theorem Incomparable.perm (h : Incomparable writes) (hperm : writes'.Perm writes) :
    Incomparable writes' :=
  (hperm.pairwise_iff fun hw hc => hw hc.symm).2 h

/-- Writes apart from each other are all in force in the end. -/
theorem inForce_iff_mem (h : Incomparable writes) {path : List String} {v : Value} :
    InForce writes path v ↔ (path, v) ∈ writes := by
  refine ⟨InForce.mem, fun hmem => ?_⟩
  obtain ⟨front, back, rfl⟩ := List.append_of_mem hmem
  refine ⟨front, back, rfl, fun w hw hc => ?_⟩
  exact (List.pairwise_cons.1 (List.pairwise_append.1 h).2.1).1 w hw hc.symm

theorem obstructs_of_writeAll {f : Fault} (hw : entries.Writable writes)
    (h : entries.writeAll writes = .error f) : entries.Obstructs writes f := by
  obtain ⟨path, hpath, hf⟩ :=
    Entries.obstacle?_of_firstObstacle? ((Entries.writeAll_eq_error_iff hw).1 h)
  obtain ⟨w, hmem, rfl⟩ := List.mem_map.1 hpath
  exact ⟨w, hmem, Entries.write_eq_error_iff_obstacle.2 hf⟩

theorem not_obstructs_of_writeAll {r : Entries} {f : Fault} (hw : entries.Writable writes)
    (hapart : Incomparable writes) (h : entries.writeAll writes = .ok r) :
    ¬entries.Obstructs writes f := by
  rintro ⟨⟨path, v⟩, hmem, hf⟩
  obtain ⟨front, back, rfl⟩ := List.append_of_mem hmem
  -- No write before it takes an obstacle out of its way.
  obtain ⟨between, hfront, hback⟩ := Entries.writeAll_append_eq_ok h
  obtain ⟨first, hfirst, -⟩ := Entries.writeAll_cons_eq_ok hback
  have hwf : entries.Writable front := fun w hwf => hw w (List.mem_append_left _ hwf)
  have hfree := Entries.exists_write_iff.1 ⟨first, hfirst⟩
  have hpart : ¬∃ p ∈ front.map (·.1), p <+: path := by
    rintro ⟨p, hp, hpart⟩
    obtain ⟨w, hwf, rfl⟩ := List.mem_map.1 hp
    exact (List.pairwise_append.1 hapart).2.2 w hwf _ List.mem_cons_self (.inl hpart)
  rw [Entries.obstacle?_writeAll hwf hfront, Entries.obstacleAfter?, if_neg hpart,
    Entries.write_eq_error_iff_obstacle.1 hf] at hfree
  cases hfree

/-- That two computations fail, each with a fault that one of the writes fails with by itself. -/
def BothObstructed (entries : Entries) (writes : List (List String × Value))
    (x y : Except Fault Entries) : Prop :=
  ∃ f g, x = .error f ∧ y = .error g ∧ entries.Obstructs writes f ∧ entries.Obstructs writes g

/-- Writes apart from each other come to the same data in any order. -/
theorem writeAll_perm (hw : entries.Writable writes) (hapart : Incomparable writes)
    (hperm : writes'.Perm writes) :
    (∃ r r', entries.writeAll writes = .ok r ∧ entries.writeAll writes' = .ok r' ∧ r.Same r') ∨
      BothObstructed entries writes (entries.writeAll writes) (entries.writeAll writes') := by
  have hw' := hw.perm hperm
  have hapart' := hapart.perm hperm
  cases h : entries.writeAll writes with
  | error f =>
    have hf := obstructs_of_writeAll hw h
    cases h' : entries.writeAll writes' with
    | error g => exact .inr ⟨f, g, rfl, rfl, hf, (obstructs_of_writeAll hw' h').perm hperm⟩
    | ok r' => exact absurd (hf.perm hperm.symm) (not_obstructs_of_writeAll hw' hapart' h')
  | ok r =>
    cases h' : entries.writeAll writes' with
    | error g =>
      exact absurd ((obstructs_of_writeAll hw' h').perm hperm) (not_obstructs_of_writeAll hw hapart h)
    | ok r' =>
      have hpaths (path : List String) :
          path ∈ writes.map (·.1) ↔ path ∈ writes'.map (·.1) := (hperm.map _).mem_iff.symm
      refine .inl ⟨r, r', rfl, rfl, (Entries.same_iff_inForce hw hw' h h' hpaths).2 fun path v => ?_⟩
      rw [inForce_iff_mem hapart, inForce_iff_mem hapart', hperm.mem_iff]

end Rows

/-! ### Variables -/

/-- The variables that are meant to set values. -/
def ofVariables (environment : Named String) : Named String :=
  environment.filter fun x => (variablePath? x.1).isSome

theorem variableWrites_ofVariables (environment : Named String) :
    variableWrites (ofVariables environment) = variableWrites environment := by
  rw [variableWrites, ofVariables, List.filterMap_filter, variableWrites]
  refine List.filterMap_congr ?_
  rintro ⟨name, v⟩ -
  cases hpath : variablePath? name <;> simp [hpath]

theorem path_ne_nil_of_mem {environment : List (String × String)} {w : List String × Value}
    (hw : w ∈ variableWrites environment) : w.1 ≠ [] := by
  obtain ⟨⟨name, v⟩, -, h⟩ := List.mem_filterMap.1 hw
  dsimp only at h
  split at h
  · cases h
  · cases h
  · next hnil _ =>
    cases h
    exact hnil

theorem writable_variableWrites {files : Entries} {environment : List (String × String)}
    (hu : ∀ w ∈ variableWrites environment, files.Unshared w.1) :
    files.Writable (variableWrites environment) := fun w hw =>
  ⟨path_ne_nil_of_mem hw, hu w hw, variableWrites_text hw⟩

/-- The layer of the environment is laid as its variables are written, one after the other. -/
theorem exists_environmentLayer {environment : List (String × String)}
    (hapart : Incomparable (variableWrites environment)) :
    ∃ layer after, environmentLayer environment = .ok layer ∧
      after.Perm (variableWrites environment) ∧
      ∀ files : Entries, files.Writable (variableWrites environment) →
        files.lay layer = files.writeAll after := by
  have hw : Entries.Writable [] (variableWrites environment) :=
    writable_variableWrites fun w _ => Entries.unshared_nil _
  obtain ⟨layer, after, hlayer, ht, hgrown, hperm⟩ := exists_grown hw hapart
  exact ⟨layer, after, hlayer, hperm, fun files hf => hgrown.lay_eq ht (hf.perm hperm)⟩

theorem BothObstructed.bind {entries : Entries} {writes : List (List String × Value)}
    {x y : Except Fault Entries} (h : BothObstructed entries writes x y)
    (next : Entries → Except Fault Entries) :
    BothObstructed entries writes (x >>= next) (y >>= next) := by
  obtain ⟨f, g, rfl, rfl, hf⟩ := h
  exact ⟨f, g, rfl, rfl, hf⟩

section Merged

variable {shared loc files : Entries} {first second : Named String}

theorem mergeLayers_unordered (overrides : List (String × String))
    (hsame : (ofVariables first).Perm (ofVariables second)) (hapart : Incomparable (variableWrites first))
    (hfiles : mergeLayers shared loc [] [] = .ok files)
    (hu : ∀ w ∈ variableWrites first, files.Unshared w.1) :
    SameOutcome (mergeLayers shared loc first overrides) (mergeLayers shared loc second overrides) ∨
      BothObstructed files (variableWrites first) (mergeLayers shared loc first overrides)
        (mergeLayers shared loc second overrides) := by
  have hperm : (variableWrites second).Perm (variableWrites first) := by
    rw [← variableWrites_ofVariables, ← variableWrites_ofVariables first]
    exact (hsame.symm.filterMap _)
  have hw := writable_variableWrites hu
  have hw' := hw.perm hperm
  obtain ⟨layer, after, hlayer, hafter, hlay⟩ := exists_environmentLayer hapart
  obtain ⟨layer', after', hlayer', hafter', hlay'⟩ := exists_environmentLayer (hapart.perm hperm)
  have hboth : after'.Perm after := (hafter'.trans hperm).trans hafter.symm
  rw [mergeLayers_overrides _ _ first, mergeLayers_overrides _ _ second,
    mergeLayers_environment _ _ first, mergeLayers_environment _ _ second, hfiles, ok_bind, ok_bind,
    hlayer, hlayer', ok_bind, ok_bind, hlay files hw, hlay' files hw']
  rcases writeAll_perm (hw.perm hafter) (hapart.perm hafter) hboth with ⟨r, r', hr, hr', h⟩ | h
  · rw [hr, hr']
    exact .inl (h.writeAll _)
  · obtain ⟨f, g, hf, hg, hof, hog⟩ := h.bind fun lower => lower.writeAll (overrideWrites overrides)
    exact .inr ⟨f, g, hf, hg, hof.perm hafter, hog.perm hafter⟩

end Merged

/-! ### Loading -/

section Loading

variable {W : Type} (h : Host) (root : Path) (own : Option Path)

/-- Variables of which none sets a part of what another sets are loaded in any order to the same data,
or fail in any order: with the same fault, or each with the fault of one of them. -/
theorem order_of_variables_is_immaterial (s : Stage W) {first second : Named String}
    (overrides : Named String) (hsame : (ofVariables first).Perm (ofVariables second))
    (hapart : Incomparable (variableWrites first))
    (hunshared : ∀ files t, (loadLayers h root own (some []) []).on s = (.ok files, t) →
      ∀ w ∈ variableWrites first, files.Unshared w.1) :
    ∃ result result' t, (loadLayers h root own (some first) overrides).on s = (result, t) ∧
      (loadLayers h root own (some second) overrides).on s = (result', t) ∧
      (SameOutcome result result' ∨
        ∃ files, (loadLayers h root own (some []) []).on s = (.ok files, t) ∧
          BothObstructed files (variableWrites first) result result') := by
  rcases on_loadLayers h root own s with ⟨f, t, hfail⟩ | ⟨shared, loc, t, hload⟩
  · exact ⟨.error f, .error f, t, hfail _ _, hfail _ _, .inl (.error f)⟩
  · refine ⟨_, _, t, hload _ _, hload _ _, ?_⟩
    have hbelow := hload (some []) []
    rw [Option.getD_some] at hbelow
    cases hfiles : mergeLayers shared loc [] [] with
    | error f =>
      have hfails (environment : Named String) :
          mergeLayers shared loc environment overrides = .error f := by
        rw [mergeLayers_overrides, mergeLayers_environment, hfiles]
        rfl
      rw [Option.getD_some, Option.getD_some, hfails, hfails]
      exact .inl (.error f)
    | ok files =>
      rw [hfiles] at hbelow
      rcases mergeLayers_unordered overrides hsame hapart hfiles (hunshared files t hbelow) with h | h
      · exact .inl h
      · exact .inr ⟨files, hbelow, h⟩

end Loading

/-- Two sections set in either order. -/
theorem sections_come_in_any_order :
    let h : Host := { files := .directory [] }
    let s : Stage Unit := { world := () }
    let first := [("FAILFAST_WAITING__TIMEOUT_SECONDS", "1"), ("HOME", "/"),
      ("FAILFAST_SETTINGS__PAGE_SIZE", "2")]
    let second := [("FAILFAST_SETTINGS__PAGE_SIZE", "2"), ("FAILFAST_WAITING__TIMEOUT_SECONDS", "1")]
    ∃ a b, ((loadLayers h ⟨.here, []⟩ none (some first) []).on s).1 = .ok a ∧
      ((loadLayers h ⟨.here, []⟩ none (some second) []).on s).1 = .ok b ∧ a.Same b := by
  intro h s first second
  have hvariables : ofVariables first = [("FAILFAST_WAITING__TIMEOUT_SECONDS", "1"),
      ("FAILFAST_SETTINGS__PAGE_SIZE", "2")] := by cbv
  have hvariables' : ofVariables second = second := by cbv
  have hwrites : variableWrites first = [(["waiting", "timeout_seconds"], .text "1"),
      (["settings", "page_size"], .text "2")] := by cbv
  have hsame : (ofVariables first).Perm (ofVariables second) := by
    rw [hvariables, hvariables']
    exact .swap _ _ _
  have hapart : Incomparable (variableWrites first) := by
    rw [hwrites]
    simp [Incomparable, Comparable]
  have hnone : (loadLayers h ⟨.here, []⟩ none (some []) []).on s = (.ok [], s) := rfl
  obtain ⟨a, ha, -⟩ := exists_ok_of_toOption (f := fun _ => ()) (b := ())
    (x := ((loadLayers h ⟨.here, []⟩ none (some first) []).on s).1) (by decide +kernel)
  obtain ⟨result, result', t, hload, hload', hout⟩ :=
    order_of_variables_is_immaterial h ⟨.here, []⟩ none s [] hsame hapart (by
      intro files t hfiles w _
      obtain rfl : [] = files := Except.ok.inj (congrArg Prod.fst (hnone.symm.trans hfiles))
      exact Entries.unshared_nil _)
  rw [hload] at ha
  obtain rfl : result = .ok a := ha
  rcases hout with hout | ⟨files, -, f, g, herror, -⟩
  · cases hout with
    | ok hab => exact ⟨a, _, by rw [hload], by rw [hload'], hab⟩
  · cases herror

/-- Where a document uses a mapping twice, what is set last in one place is seen in the other, and of
two lists of clusters that cannot be read by names the first on the way decides the fault. -/
theorem order_of_variables_shows :
    (let bytes := "a: &x\n  k: 0\nb: *x\n".toUTF8.toList
      let h : Host := { files := .directory [("failfast.yaml", .file bytes)] }
      let s : Stage Unit := { world := () }
      let first := [("FAILFAST_A__K", "1"), ("FAILFAST_B__K", "2")]
      Incomparable (variableWrites first) ∧
      ∃ a b, ((loadLayers h ⟨.here, []⟩ none (some first) []).on s).1 = .ok a ∧
        ((loadLayers h ⟨.here, []⟩ none (some first.reverse) []).on s).1 = .ok b ∧
        ¬a.Same b) ∧
    let files : Entries := [(.text "clusters", .list [.int 1]),
      (.text "s", .map [(.text "clusters", .list [.map [(.text "name", .int (10 ^ 4300))] none])] none)]
    let first := [("FAILFAST_CLUSTERS__X", "1"), ("FAILFAST_S__CLUSTERS__X", "2")]
    Incomparable (variableWrites first) ∧
    mergeLayers [] files first [] = .error (.config .clusterNotMapping) ∧
    mergeLayers [] files first.reverse [] = .error .tooManyDigitsToWrite := by
  constructor
  · intro bytes h s first
    have hwrites : variableWrites first = [(["a", "k"], .text "1"), (["b", "k"], .text "2")] := by cbv
    have hapart : Incomparable (variableWrites first) := by
      rw [hwrites]
      simp [Incomparable, Comparable]
    let found (data : Entries) : Option String :=
      (data.follow? [.text "a", .text "k"]).bind Value.text?
    obtain ⟨a, ha, htwo⟩ := exists_ok_of_toOption (f := found) (b := some "2")
      (x := ((loadLayers h ⟨.here, []⟩ none (some first) []).on s).1) (by decide +kernel)
    obtain ⟨b, hb, hone⟩ := exists_ok_of_toOption (f := found) (b := some "1")
      (x := ((loadLayers h ⟨.here, []⟩ none (some first.reverse) []).on s).1) (by decide +kernel)
    have htext {data : Entries} {value : String} (hv : found data = some value) :
        data.follow? (["a", "k"].map .text) = some (.text value) := by
      obtain ⟨v, hfollow, hv⟩ := Option.bind_eq_some_iff.1 hv
      rw [Value.text?_eq_some_iff.1 hv] at hfollow
      exact hfollow
    refine ⟨hapart, a, b, ha, hb, fun hsame => ?_⟩
    have hleads := (htext hone).symm.trans (hsame.follow?_text (htext htwo))
    simp at hleads
  · intro files first
    have hwrites : variableWrites first = [(["clusters", "x"], .text "1"),
        (["s", "clusters", "x"], .text "2")] := by cbv
    refine ⟨?_, eq_error_of_faultOf? (by decide +kernel), eq_error_of_faultOf? (by decide +kernel)⟩
    rw [hwrites]
    simp [Incomparable, Comparable]

end Tripwire
