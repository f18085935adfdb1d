import Tripwire.Proofs.Config.Contained
import Tripwire.Proofs.Decimal.Spelled

/-!
# The interval between two looks

An interval that is at most zero is refused. What is left is above zero, unless it is not a number: that
compares with nothing, and a configuration that says it is accepted.
-/

namespace Tripwire.Config

/-- What data say on the interval, from whatever layer. -/
def intervalSetting (data : Value) : Value :=
  ((data.get? "waiting").bind (·.get? "poll_interval_seconds")).getD (.int 5)

theorem valueOr_section {data entries : Entries} {anchor : Option Nat} {name key : String}
    {default : Value} (h : sectionEntries (valueAt data name) name = .ok entries) :
    valueOr entries key default =
      (((Value.map data anchor).get? name).bind (·.get? key)).getD default := by
  show _ = ((data.get? (.text name)).bind (·.get? key)).getD default
  unfold valueAt at h
  cases hv : data.get? (.text name) with
  | none =>
    rw [hv] at h
    cases h
    rfl
  | some v =>
    rw [hv] at h
    cases v with
    | null =>
      cases h
      rfl
    | map entries' anchor' =>
      cases h
      rfl
    | _ => cases h

/-- What the guard lets pass. -/
theorem interval_of_waitingOf {entries : Entries} {w : Waiting} (h : waitingOf entries = .ok w) :
    (valueOr entries "poll_interval_seconds" (.int 5)).toReal = .ok w.interval ∧
      ¬w.interval ≤ 0.0 := by
  obtain ⟨timeout, -, hrest⟩ := bind_eq_ok.1 h
  obtain ⟨interval, hinterval, hchecked⟩ := bind_eq_ok.1 hrest
  split at hchecked
  · cases hchecked
  · rename_i hnot
    cases hchecked
    exact ⟨hinterval, hnot⟩

theorem accepted_waiting {data : Value} {c : Config} (h : ofValue data = .ok c) :
    (intervalSetting data).toReal = .ok c.waiting.interval ∧ ¬c.waiting.interval ≤ 0.0 := by
  cases data with
  | map entries anchor =>
    obtain ⟨waiting, hwaiting, hw⟩ := bind_eq_ok.1 (ofValue_eq_ok_iff.1 h).2.1
    rw [intervalSetting, ← valueOr_section hwaiting]
    exact interval_of_waitingOf hw
  | _ => cases h

/-- The interval of an accepted configuration is above zero if and only if the data do not say "not a
number" for it. -/
theorem accepted_interval_positive_iff {data : Value} {c : Config} (h : ofValue data = .ok c) :
    0.0 < c.waiting.interval ↔ ¬(intervalSetting data).SaysNaN := by
  obtain ⟨hread, hguard⟩ := accepted_waiting h
  rw [Decimal.zero_lt_iff_of_not_le hguard, ← Value.isNaN_toReal hread, Bool.not_eq_true]

/-- The data of a configuration that say nothing but the interval. -/
def withInterval (v : Value) : Value :=
  .map [(.text "waiting", .map [(.text "poll_interval_seconds", v)] none)] none

theorem half_second_is_positive :
    ∃ c, ofValue (withInterval (.text " +0.5 ")) = .ok c ∧ 0.0 < c.waiting.interval := by
  obtain ⟨c, hc, -⟩ := exists_ok_of_toOption (x := ofValue (withInterval (.text " +0.5 ")))
    (f := fun _ => ()) (b := ()) (by decide +kernel)
  exact ⟨c, hc, (accepted_interval_positive_iff hc).2 (by decide +kernel)⟩

theorem nan_interval_is_accepted :
    ∃ c, ofValue (withInterval (.text "nan")) = .ok c ∧ ¬0.0 < c.waiting.interval := by
  obtain ⟨c, hc, hnan⟩ := exists_ok_of_toOption (x := ofValue (withInterval (.text "nan")))
    (f := fun c => decide (0.0 < c.waiting.interval)) (b := false) (by decide +kernel)
  exact ⟨c, hc, of_decide_eq_false hnan⟩

end Tripwire.Config
