import Mathlib.Data.List.Chain
import Mathlib.Logic.ExistsUnique
import Tripwire.Event.Selector

/-!
# Time windows

Moments taken in pairs are windows of instants, open at the start and closed at the stop. What a selector
of windows accepts depends on instants alone, and moments that do not go back cut the time between the
first and the last of them into windows without gap or overlap.
-/

namespace Tripwire.Selector

open Time (Date Moment Offset)

/-- That the pair of moments at a place is a window with an instant in it. -/
def InPair (moments : List Moment) (k : Nat) (t : Int) : Prop :=
  ∃ start stop, moments[2 * k]? = some start ∧ moments[2 * k + 1]? = some stop ∧
    start.instant < t ∧ t ≤ stop.instant

theorem inPair_iff_instants {moments : List Moment} {k : Nat} {t : Int} :
    InPair moments k t ↔ ∃ start stop, (moments.map Moment.instant)[2 * k]? = some start ∧
      (moments.map Moment.instant)[2 * k + 1]? = some stop ∧ start < t ∧ t ≤ stop := by
  simp only [InPair, List.getElem?_map, Option.map_eq_some_iff]
  constructor
  · rintro ⟨start, stop, hstart, hstop, hlo, hhi⟩
    exact ⟨_, _, ⟨start, hstart, rfl⟩, ⟨stop, hstop, rfl⟩, hlo, hhi⟩
  · rintro ⟨_, _, ⟨start, hstart, rfl⟩, ⟨stop, hstop, rfl⟩, hlo, hhi⟩
    exact ⟨start, stop, hstart, hstop, hlo, hhi⟩

theorem getElem?_windows (moments : List Moment) (k : Nat) (w : Moment × Moment) :
    (windows moments)[k]? = some w ↔
      moments[2 * k]? = some w.1 ∧ moments[2 * k + 1]? = some w.2 := by
  induction moments using windows.induct generalizing k with
  | case1 start stop rest ih =>
    cases k with
    | zero => simp [windows, Prod.ext_iff]
    | succ k =>
      have hk : 2 * (k + 1) = 2 * k + 1 + 1 := by omega
      simp [windows, ih, hk]
  | case2 moments h =>
    match moments, h with
    | [], _ => simp [windows]
    | [m], _ => simp [windows]
    | start :: stop :: rest, h => exact absurd rfl (h start stop rest)

theorem windows_append {front : List Moment} (h : front.length % 2 = 0) (back : List Moment) :
    windows (front ++ back) = windows front ++ windows back := by
  induction front using windows.induct with
  | case1 start stop rest ih =>
    have hrest : rest.length % 2 = 0 := by
      simp only [List.length_cons] at h
      omega
    simp [windows, ih hrest]
  | case2 front hshort =>
    match front, hshort with
    | [], _ => simp [windows]
    | [m], _ => simp at h
    | start :: stop :: rest, hshort => exact absurd rfl (hshort start stop rest)

theorem inAnyWindow_some {e : Event} {seen : Moment} (h : e.lastSeen = some seen)
    (moments : List Moment) : inAnyWindow moments e =
      .ok ((windows moments).any fun w => w.1.before seen && !w.2.before seen) := by
  rw [inAnyWindow, h]

theorem inAnyWindow_none {e : Event} (h : e.lastSeen = none) (moments : List Moment) :
    inAnyWindow moments e = .ok false := by
  rw [inAnyWindow, h]

theorem any_windows_iff {moments : List Moment} {seen : Moment} :
    ((windows moments).any fun w => w.1.before seen && !w.2.before seen) = true ↔
      ∃ k, InPair moments k seen.instant := by
  simp only [List.any_eq_true, List.mem_iff_getElem?, Bool.and_eq_true, Bool.not_eq_true', Moment.before,
    decide_eq_true_eq, decide_eq_false_iff_not, Int.not_lt]
  constructor
  · rintro ⟨w, ⟨k, hk⟩, hlo, hhi⟩
    obtain ⟨hstart, hstop⟩ := (getElem?_windows moments k w).1 hk
    exact ⟨k, w.1, w.2, hstart, hstop, hlo, hhi⟩
  · rintro ⟨k, start, stop, hstart, hstop, hlo, hhi⟩
    exact ⟨(start, stop), ⟨k, (getElem?_windows moments k _).2 ⟨hstart, hstop⟩⟩, hlo, hhi⟩

theorem exists_inAnyWindow (moments : List Moment) (e : Event) :
    ∃ b, inAnyWindow moments e = .ok b ∧
      (b = true ↔ ∃ seen, e.lastSeen = some seen ∧ ∃ k, InPair moments k seen.instant) := by
  cases h : e.lastSeen with
  | none => exact ⟨false, inAnyWindow_none h moments, by simp⟩
  | some seen =>
    refine ⟨_, inAnyWindow_some h moments, ?_⟩
    rw [any_windows_iff]
    simp

theorem inAnyWindow_congr {moments moments' : List Moment} {e e' : Event}
    (hm : moments'.map Moment.instant = moments.map Moment.instant)
    (he : e'.lastSeen.map Moment.instant = e.lastSeen.map Moment.instant) :
    inAnyWindow moments' e' = inAnyWindow moments e := by
  have hpairs (k : Nat) (t : Int) : InPair moments' k t ↔ InPair moments k t := by
    rw [inPair_iff_instants, inPair_iff_instants, hm]
  cases h : e.lastSeen with
  | none =>
    rw [h, Option.map_none, Option.map_eq_none_iff] at he
    rw [inAnyWindow_none h, inAnyWindow_none he]
  | some seen =>
    rw [h, Option.map_some, Option.map_eq_some_iff] at he
    obtain ⟨seen', h', hsame⟩ := he
    rw [inAnyWindow_some h, inAnyWindow_some h', Except.ok.injEq, Bool.eq_iff_iff, any_windows_iff,
      any_windows_iff, hsame]
    exact exists_congr fun k => hpairs k _

theorem inAnyWindow_append {front : List Moment} (h : front.length % 2 = 0) (back : List Moment) :
    inAnyWindow (front ++ back) = anyOf [inAnyWindow front, inAnyWindow back] := by
  funext e
  rw [anyOf, anyOf, anyOf]
  cases hseen : e.lastSeen with
  | none =>
    rw [inAnyWindow_none hseen, inAnyWindow_none hseen, inAnyWindow_none hseen]
    rfl
  | some seen =>
    rw [inAnyWindow_some hseen, inAnyWindow_some hseen, inAnyWindow_some hseen, windows_append h,
      List.any_append]
    cases (windows front).any fun w => w.1.before seen && !w.2.before seen with
    | true => rfl
    | false => cases (windows back).any fun w => w.1.before seen && !w.2.before seen <;> rfl

theorem inAnyWindow_append_singleton {moments : List Moment} (h : moments.length % 2 = 0)
    (m : Moment) : inAnyWindow (moments ++ [m]) = inAnyWindow moments := by
  funext e
  have hwindows : windows (moments ++ [m]) = windows moments := by
    simp [windows_append h, windows]
  rw [inAnyWindow, inAnyWindow, hwindows]

theorem inAnyWindow_pair_iff {start stop seen : Moment} {e : Event} (h : e.lastSeen = some seen) :
    inAnyWindow [start, stop] e = .ok true ↔
      start.instant < seen.instant ∧ seen.instant ≤ stop.instant := by
  simp [inAnyWindow_some h, windows, Moment.before]

/-! ### Chains -/

/-- The window between two neighbours of a chain that an event was seen in. -/
def SeenBetween (moments : List Moment) (e : Event) (i : Nat) : Prop :=
  ∃ start stop, moments[i]? = some start ∧ moments[i + 1]? = some stop ∧
    inAnyWindow [start, stop] e = .ok true

theorem existsUnique_seenBetween {moments : List Moment} {first last seen : Moment} {e : Event}
    (horder : moments.Pairwise fun a b => a.instant ≤ b.instant) (he : e.lastSeen = some seen)
    (hfirst : moments.head? = some first) (hlast : moments.getLast? = some last)
    (hlo : first.instant < seen.instant) (hhi : seen.instant ≤ last.instant) :
    ∃! i, SeenBetween moments e i := by
  have hpair {start stop : Moment} : inAnyWindow [start, stop] e = .ok true ↔
      start.instant < seen.instant ∧ seen.instant ≤ stop.instant := inAnyWindow_pair_iff he
  induction moments generalizing first with
  | nil => cases hfirst
  | cons m moments ih =>
    obtain rfl : m = first := Option.some.inj hfirst
    obtain ⟨-, hrest⟩ := List.pairwise_cons.1 horder
    cases moments with
    | nil =>
      obtain rfl : m = last := Option.some.inj hlast
      exact absurd hlo (Int.not_lt.2 hhi)
    | cons next moments =>
      by_cases hnext : seen.instant ≤ next.instant
      · refine ⟨0, ⟨m, next, rfl, rfl, hpair.2 ⟨hlo, hnext⟩⟩, ?_⟩
        rintro (_ | i) ⟨start, stop, hstart, -, hin⟩
        · rfl
        · -- A later window starts at `next` or after it, so it starts too late.
          have hmem : start ∈ next :: moments := List.mem_of_getElem? hstart
          have hle : next.instant ≤ start.instant := by
            obtain rfl | hmem := List.mem_cons.1 hmem
            · exact Int.le_refl _
            · exact (List.pairwise_cons.1 hrest).1 start hmem
          have hlt := (hpair.1 hin).1
          omega
      · rw [List.getLast?_cons_cons] at hlast
        obtain ⟨i, hi, hunique⟩ := ih hrest rfl hlast (Int.not_le.1 hnext)
        refine ⟨i + 1, hi, ?_⟩
        rintro (_ | j) ⟨start, stop, hstart, hstop, hin⟩
        · cases hstop
          exact absurd (hpair.1 hin).2 hnext
        · exact congrArg Nat.succ (hunique j ⟨start, stop, hstart, hstop, hin⟩)

/-- A selector of windows accepts an event exactly if its last instant lies in the window of some pair.
Only instants count; a moment that is left over does not, and the windows of two lists, the first of
which has pairs only, are those of either list. Moments in the order of their instants cut the time after
the first and up to the last of them into windows, one of which holds each event. -/
theorem windows_hold_instants (moments : List Moment) :
    (∀ e, ∃ b, inAnyWindow moments e = .ok b ∧
      (b = true ↔ ∃ seen, e.lastSeen = some seen ∧ ∃ k, InPair moments k seen.instant)) ∧
    (∀ moments' e e', moments'.map Moment.instant = moments.map Moment.instant →
      e'.lastSeen.map Moment.instant = e.lastSeen.map Moment.instant →
        inAnyWindow moments' e' = inAnyWindow moments e) ∧
    (moments.length % 2 = 0 → ∀ m, inAnyWindow (moments ++ [m]) = inAnyWindow moments) ∧
    (moments.length % 2 = 0 → ∀ more,
      inAnyWindow (moments ++ more) = anyOf [inAnyWindow moments, inAnyWindow more]) ∧
    ((moments.map Moment.instant).IsChain (· ≤ ·) → ∀ e first last seen,
      moments.head? = some first → moments.getLast? = some last → e.lastSeen = some seen →
        first.instant < seen.instant → seen.instant ≤ last.instant →
          ∃! i, SeenBetween moments e i) := by
  refine ⟨exists_inAnyWindow moments, fun moments' e e' => inAnyWindow_congr,
    inAnyWindow_append_singleton, inAnyWindow_append, ?_⟩
  intro hchain e first last seen hfirst hlast he hlo hhi
  have horder : moments.Pairwise fun a b => a.instant ≤ b.instant :=
    List.pairwise_map.1 hchain.pairwise
  exact existsUnique_seenBetween horder he hfirst hlast hlo hhi

/-- An event at the end of the first of three windows, the second of which is empty. The moments and the
event are written with different offsets. -/
theorem end_of_window_is_seen :
    let newYear : Date := ⟨2024, 1, 1, by decide, by decide, by decide, by decide⟩
    let oClock (hour : Fin 24) (offset : Option Offset) : Moment :=
      ⟨newYear, ⟨hour, 0, 0, 0, hour.isLt, by decide, by decide, by decide⟩, offset⟩
    let moments := [oClock 1 none, oClock 3 (some ⟨3600000000, by decide⟩), oClock 2 none, oClock 5 none]
    let e : Event := { lastSeen := some (oClock 0 (some ⟨-7200000000, by decide⟩)) }
    (∃! i, SeenBetween moments e i) ∧
      inAnyWindow (moments ++ [oClock 6 none]) e = .ok true ∧
      inAnyWindow [oClock 1 none, oClock 2 none, oClock 2 none, oClock 5 none] e = .ok true ∧
      inAnyWindow (moments ++ moments) e = anyOf [inAnyWindow moments, inAnyWindow moments] e := by
  intro newYear oClock moments e
  obtain ⟨-, hsame, hunpaired, happend, hchain⟩ := windows_hold_instants moments
  have heven : moments.length % 2 = 0 := by decide
  have hseen : inAnyWindow moments e = .ok true := by decide
  refine ⟨?_, ?_, ?_, ?_⟩
  · exact hchain (by decide) e (oClock 1 none) (oClock 5 none) _ rfl rfl rfl (by decide) (by decide)
  · rw [hunpaired heven, hseen]
  · rw [hsame _ e e (by decide) rfl, hseen]
  · rw [happend heven]

end Tripwire.Selector
