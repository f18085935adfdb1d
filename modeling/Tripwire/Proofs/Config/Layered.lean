import Tripwire.Config.Load
import Tripwire.Proofs.Outcome

/-!
# What is laid over the files

The files are read first, in the same way whatever the variables and the overrides are. What they give is
data, over which the layer of the environment is laid and into which the overrides are written.
-/

namespace Tripwire

open Files (Path)

variable {W : Type}

theorem mergeLayers_overrides (shared loc : Entries) (environment overrides : List (String × String)) :
    mergeLayers shared loc environment overrides =
      mergeLayers shared loc environment [] >>= fun lower =>
        lower.writeAll (overrideWrites overrides) := by
  simp only [mergeLayers, bind_assoc]
  refine bind_congr fun first => bind_congr fun second => bind_congr fun fromVariables =>
    bind_congr fun lower => ?_
  rfl

theorem mergeLayers_environment (shared loc : Entries) (environment : List (String × String)) :
    mergeLayers shared loc environment [] =
      mergeLayers shared loc [] [] >>= fun files =>
        environmentLayer environment >>= fun fromVariables => files.lay fromVariables := by
  simp only [mergeLayers, bind_assoc]
  refine bind_congr fun first => bind_congr fun second => ?_
  show environmentLayer environment >>= (fun fromVariables => second.lay fromVariables >>= pure) = _
  simp only [bind_pure]
  rfl

/-- Files that cannot be read fail a load whatever else it is given; otherwise they give two layers. -/
theorem on_loadLayers (h : Host) (root : Path) (own : Option Path) (s : Stage W) :
    (∃ f t, ∀ given overrides, (loadLayers h root own given overrides).on s = (.error f, t)) ∨
    ∃ shared loc t, ∀ given overrides, (loadLayers h root own given overrides).on s =
      (mergeLayers shared loc (given.getD h.environment) overrides, t) := by
  rcases hshared : (fileLayer h 0 (root.child sharedName)).on s with ⟨result, s₁⟩
  cases result with
  | error f => exact .inl ⟨f, s₁, fun given overrides => Act.on_bind_error hshared⟩
  | ok shared =>
    rcases hloc : (fileLayer h 1 (own.getD (root.child localName))).on s₁ with ⟨result, s₂⟩
    cases result with
    | error f =>
      refine .inl ⟨f, s₂, fun given overrides => ?_⟩
      exact (Act.on_bind_ok hshared).trans (Act.on_bind_error hloc)
    | ok loc =>
      refine .inr ⟨shared, loc, s₂, fun given overrides => ?_⟩
      rw [loadLayers, Act.on_bind_ok hshared, Act.on_bind_ok hloc, Act.on_ofExcept]

theorem on_loadLayers_overrides {h : Host} {root : Path} {own : Option Path}
    {given : Option (Named String)} {s t : Stage W} {lower : Entries}
    (hlower : (loadLayers h root own given []).on s = (.ok lower, t)) (overrides : Named String) :
    (loadLayers h root own given overrides).on s = (lower.writeAll (overrideWrites overrides), t) := by
  rcases on_loadLayers h root own s with ⟨f, t', hfail⟩ | ⟨shared, loc, t', hload⟩
  · rw [hfail] at hlower
    cases hlower
  · rw [hload] at hlower
    obtain ⟨hmerged, rfl⟩ := Prod.mk.inj hlower
    rw [hload, mergeLayers_overrides, hmerged]
    rfl

end Tripwire
