import Tripwire.Time.Moment

/-!
# The calendar and its ends

A day has a date if its ordinal is one of the calendar's, and an instant can be written in universal
time if it lies between the first and the last instant of the calendar.
-/

namespace Tripwire.Time

/-! ### Years -/

/-- Four hundred years have 146097 days; what the leap years of a part of them are off by is less than
two days. -/
theorem daysBeforeYear_bounds (k : Nat) :
    146097 * k ≤ 400 * daysBeforeYear (k + 1) + 591 ∧
      400 * daysBeforeYear (k + 1) ≤ 146097 * k + 288 := by
  have heq : daysBeforeYear (k + 1) = 365 * k + k / 4 - k / 100 + k / 400 := rfl
  have hc : k / 100 = k / 4 / 25 := (Nat.div_div_eq_div_mul k 4 25).symm
  have hd : k / 400 = k / 4 / 25 / 4 := by
    rw [Nat.div_div_eq_div_mul, Nat.div_div_eq_div_mul]
  rw [heq, hc, hd]
  omega

theorem daysBeforeYear_le {a b : Nat} (ha : 1 ≤ a) (h : a ≤ b) :
    daysBeforeYear a ≤ daysBeforeYear b := by
  rcases Nat.eq_or_lt_of_le h with rfl | hlt
  · exact Nat.le_refl _
  · obtain ⟨j, rfl⟩ := Nat.exists_eq_add_of_le' ha
    obtain ⟨k, rfl⟩ := Nat.exists_eq_add_of_le' (Nat.one_le_of_lt hlt)
    have hj := daysBeforeYear_bounds j
    have hk := daysBeforeYear_bounds k
    omega

theorem daysBeforeYear_succ {year : Nat} (h : 1 ≤ year) :
    daysBeforeYear (year + 1) = daysBeforeYear year + if isLeap year then 366 else 365 := by
  obtain ⟨k, rfl⟩ := Nat.exists_eq_add_of_le' h
  have hnow : daysBeforeYear (k + 1) = 365 * k + k / 4 - k / 100 + k / 400 := rfl
  have hnext : daysBeforeYear (k + 1 + 1) =
      365 * (k + 1) + (k + 1) / 4 - (k + 1) / 100 + (k + 1) / 400 := rfl
  have hle : k / 100 ≤ k / 4 := Nat.div_le_div_left (by decide) (by decide)
  have hleap : isLeap (k + 1) = true ↔ 4 ∣ k + 1 ∧ (¬100 ∣ k + 1 ∨ 400 ∣ k + 1) := by
    simp [isLeap, Nat.dvd_iff_mod_eq_zero]
  have h100 : 100 ∣ k + 1 → 4 ∣ k + 1 := Nat.dvd_trans (by decide)
  have h400 : 400 ∣ k + 1 → 100 ∣ k + 1 := Nat.dvd_trans (by decide)
  rw [Nat.succ_div, Nat.succ_div, Nat.succ_div] at hnext
  rw [hnext, hnow]
  generalize k / 4 = q at hle ⊢
  generalize k / 100 = c at hle ⊢
  generalize k / 400 = d
  by_cases hfour : 4 ∣ k + 1
  · by_cases hhundred : 100 ∣ k + 1
    · by_cases hlong : 400 ∣ k + 1
      · rw [if_pos hfour, if_pos hhundred, if_pos hlong, if_pos (hleap.2 ⟨hfour, .inr hlong⟩)]
        omega
      · have hno : ¬isLeap (k + 1) = true := by simp [hleap, hhundred, hlong]
        rw [if_pos hfour, if_pos hhundred, if_neg hlong, if_neg hno]
        omega
    · have hlong : ¬400 ∣ k + 1 := fun h => hhundred (h400 h)
      rw [if_pos hfour, if_neg hhundred, if_neg hlong, if_pos (hleap.2 ⟨hfour, .inl hhundred⟩)]
      omega
  · have hhundred : ¬100 ∣ k + 1 := fun h => hfour (h100 h)
    have hlong : ¬400 ∣ k + 1 := fun h => hhundred (h400 h)
    have hno : ¬isLeap (k + 1) = true := by simp [hleap, hfour]
    rw [if_neg hfour, if_neg hhundred, if_neg hlong, if_neg hno]
    omega

theorem yearOfOrdinal_bounds {n : Nat} (h : 1 ≤ n) :
    1 ≤ yearOfOrdinal n ∧ daysBeforeYear (yearOfOrdinal n) < n ∧
      n ≤ daysBeforeYear (yearOfOrdinal n + 1) := by
  have hle : (n - 1) * 400 / 146097 * 146097 ≤ (n - 1) * 400 := Nat.div_mul_le_self _ _
  have hlt : (n - 1) * 400 < ((n - 1) * 400 / 146097 + 1) * 146097 :=
    Nat.lt_mul_of_div_lt (Nat.lt_succ_self _) (by decide)
  unfold yearOfOrdinal
  simp only
  generalize (n - 1) * 400 / 146097 = y at hle hlt
  have hhere := daysBeforeYear_bounds y
  split
  · rename_i hearly
    cases y with
    | zero =>
      have hzero : daysBeforeYear (0 + 1) = 0 := rfl
      omega
    | succ x =>
      have hbefore := daysBeforeYear_bounds x
      rw [Nat.add_sub_cancel]
      omega
  · have hnext := daysBeforeYear_bounds (y + 1 + 1)
    split
    · omega
    · omega

/-! ### Months -/

theorem daysBeforeMonth_succ (year : Nat) {month : Nat} (h : 1 ≤ month) :
    daysBeforeMonth year (month + 1) = daysBeforeMonth year month + daysInMonth year month := by
  obtain ⟨k, rfl⟩ := Nat.exists_eq_add_of_le' h
  rw [daysBeforeMonth, daysBeforeMonth, Nat.add_sub_cancel, Nat.add_sub_cancel, List.range_succ,
    List.foldl_append]
  rfl

theorem daysBeforeMonth_thirteen (year : Nat) :
    daysBeforeMonth year 13 = if isLeap year then 366 else 365 := by
  cases h : isLeap year with
  | true => simp [daysBeforeMonth, List.range_succ, daysInMonth, h]
  | false => simp [daysBeforeMonth, List.range_succ, daysInMonth, h]

theorem monthDayFrom_bounds {year left month n m d : Nat} (hmonth : 1 ≤ month) (hn : 1 ≤ n)
    (hle : daysBeforeMonth year month + n ≤ daysBeforeMonth year (month + left + 1))
    (hfrom : monthDayFrom year left month n = (m, d)) :
    (month ≤ m ∧ m ≤ month + left) ∧ (1 ≤ d ∧ d ≤ daysInMonth year m) ∧
      daysBeforeMonth year m + d = daysBeforeMonth year month + n := by
  have hsucc := daysBeforeMonth_succ year hmonth
  -- The days of the months passed over and those that are left make up the same number all the time.
  induction left generalizing month n with
  | zero =>
    obtain ⟨rfl, rfl⟩ := Prod.mk.inj hfrom
    rw [Nat.add_zero, hsucc] at hle
    omega
  | succ left ih =>
    rw [monthDayFrom] at hfrom
    split at hfrom
    · obtain ⟨rfl, rfl⟩ := Prod.mk.inj hfrom
      omega
    · have hend : month + (left + 1) + 1 = month + 1 + left + 1 := by omega
      rw [hend] at hle
      have hrest := ih (by omega) (by omega) (by omega) hfrom
        (daysBeforeMonth_succ year (Nat.le_succ_of_le hmonth))
      omega

/-! ### Dates -/

def lastOrdinal : Nat := daysBeforeYear 10000

theorem yearOfOrdinal_le_iff {n : Nat} (h : 1 ≤ n) : yearOfOrdinal n ≤ 9999 ↔ n ≤ lastOrdinal := by
  obtain ⟨-, hafter, hbefore⟩ := yearOfOrdinal_bounds h
  unfold lastOrdinal
  constructor
  · intro hyear
    have hmore : daysBeforeYear (yearOfOrdinal n + 1) ≤ daysBeforeYear 10000 :=
      daysBeforeYear_le (Nat.le_add_left 1 _) (Nat.succ_le_succ hyear)
    exact Nat.le_trans hbefore hmore
  · intro hle
    rcases Nat.lt_or_ge (yearOfOrdinal n) 10000 with hlt | hge
    · exact Nat.le_of_lt_succ hlt
    · have hmore := daysBeforeYear_le (by decide) hge
      omega

/-- Every ordinal of the calendar is that of a date, which is the one that it gives. -/
theorem Date.ofOrdinal?_eq_some {n : Nat} (h : 1 ≤ n) (h' : n ≤ lastOrdinal) :
    ∃ d : Date, Date.ofOrdinal? n = some d ∧ d.ordinal = n := by
  obtain ⟨hyear, hafter, hbefore⟩ := yearOfOrdinal_bounds h
  have hyear' := (yearOfOrdinal_le_iff h).2 h'
  have hlen : daysBeforeMonth (yearOfOrdinal n) 1 + (n - daysBeforeYear (yearOfOrdinal n)) ≤
      daysBeforeMonth (yearOfOrdinal n) (1 + 11 + 1) := by
    have hfirst : daysBeforeMonth (yearOfOrdinal n) 1 = 0 := rfl
    rw [daysBeforeYear_succ hyear] at hbefore
    rw [daysBeforeMonth_thirteen, hfirst]
    omega
  rcases hfrom : monthDayFrom (yearOfOrdinal n) 11 1 (n - daysBeforeYear (yearOfOrdinal n)) with
    ⟨m, d⟩
  obtain ⟨hm, hd, hsum⟩ := monthDayFrom_bounds (Nat.le_refl 1) (by omega) hlen hfrom
  refine ⟨⟨yearOfOrdinal n, m, d, hyear, hyear', hd.1, hd.2⟩, ?_, ?_⟩
  · have hpos : ¬(n : Int) < 1 := by omega
    rw [Date.ofOrdinal?, if_neg hpos, Int.toNat_natCast]
    simp only [hfrom]
    rw [Date.ofFields, dif_pos ⟨hyear, hyear'⟩, if_pos ⟨hm.1, by omega⟩, dif_pos hd]
    rfl
  · have hfirst : daysBeforeMonth (yearOfOrdinal n) 1 = 0 := rfl
    rw [Date.ordinal]
    simp only
    omega

theorem Date.ofOrdinal?_eq_none {n : Int} (h : n < 1 ∨ lastOrdinal < n) :
    Date.ofOrdinal? n = none := by
  by_cases hneg : n < 1
  · rw [Date.ofOrdinal?, if_pos hneg]
  · obtain ⟨k, rfl⟩ := Int.eq_ofNat_of_zero_le (by omega : 0 ≤ n)
    have hlate : ¬(1 ≤ yearOfOrdinal k ∧ yearOfOrdinal k ≤ 9999) := by
      rw [yearOfOrdinal_le_iff (by omega)]
      omega
    rw [Date.ofOrdinal?, if_neg hneg, Int.toNat_natCast]
    simp only
    rw [Date.ofFields, dif_neg hlate]
    rfl

/-! ### Instants -/

theorem Clock.micros_ofMicros {n : Nat} (h : n < dayMicros) : (Clock.ofMicros n).micros = n := by
  have hday : dayMicros = 86400000000 := rfl
  have hminutes : n / 60000000 = n / 1000000 / 60 := (Nat.div_div_eq_div_mul n 1000000 60).symm
  have hhours : n / 3600000000 = n / 1000000 / 60 / 60 := by
    rw [Nat.div_div_eq_div_mul, Nat.div_div_eq_div_mul]
  rw [Clock.micros, Clock.ofMicros]
  simp only [hminutes, hhours]
  omega

namespace Moment

def first : Moment :=
  ⟨⟨1, 1, 1, by decide, by decide, by decide, by decide⟩, Clock.midnight, some Offset.utc⟩

def last : Moment :=
  ⟨⟨9999, 12, 31, by decide, by decide, by decide, by decide⟩,
    ⟨23, 59, 59, 999999, by decide, by decide, by decide, by decide⟩, some Offset.utc⟩

/-- That the instant of a moment has a date in universal time. -/
def InCalendar (m : Moment) : Prop := first.instant ≤ m.instant ∧ m.instant ≤ last.instant

instance (m : Moment) : Decidable m.InCalendar := inferInstanceAs (Decidable (_ ∧ _))

theorem inCalendar_iff_day {m : Moment} :
    m.InCalendar ↔ 1 ≤ m.instant / dayMicros ∧ m.instant / dayMicros ≤ lastOrdinal := by
  have hfirst : first.instant = 86400000000 := by decide
  have hlast : last.instant = 3652059 * 86400000000 + 86399999999 := by decide
  have hday : (dayMicros : Int) = 86400000000 := rfl
  have hend : (lastOrdinal : Int) = 3652059 := rfl
  rw [InCalendar, hfirst, hlast, hday, hend]
  omega

theorem instant_ofInstant? {n : Int} {d : Date} (hd : d.ordinal = n / dayMicros) :
    (⟨d, Clock.ofMicros (n % dayMicros).toNat, some Offset.utc⟩ : Moment).instant = n := by
  have hpos : (0 : Int) < dayMicros := by decide
  have hlt : (n % dayMicros).toNat < dayMicros := by
    have hmod := Int.emod_lt_of_pos n hpos
    omega
  have hclock := Clock.micros_ofMicros hlt
  have hrest := Int.mul_ediv_add_emod n dayMicros
  have hnonneg := Int.emod_nonneg n (Int.ne_of_gt hpos)
  rw [instant, wallMicros, hclock]
  simp only [Offset.utc, Int.sub_zero, Int.natCast_add, Int.natCast_mul, hd]
  rw [Int.toNat_of_nonneg hnonneg, Int.mul_comm]
  exact hrest

/-- A moment has an equal in universal time, of the same instant, if its instant is in the calendar. -/
theorem toUtc?_eq_some {m : Moment} (h : m.InCalendar) :
    ∃ u, m.toUtc? = some u ∧ u.instant = m.instant := by
  obtain ⟨hfirst, hlast⟩ := inCalendar_iff_day.1 h
  obtain ⟨k, hk⟩ := Int.eq_ofNat_of_zero_le (Int.le_trans (by decide) hfirst)
  rw [hk] at hfirst hlast
  obtain ⟨d, hd, hordinal⟩ := Date.ofOrdinal?_eq_some (Int.ofNat_le.1 hfirst) (Int.ofNat_le.1 hlast)
  refine ⟨_, ?_, instant_ofInstant? (d := d) ?_⟩
  · rw [toUtc?, ofInstant?, hk, hd]
    rfl
  · rw [hordinal, hk]

theorem toUtc?_eq_none {m : Moment} (h : ¬m.InCalendar) : m.toUtc? = none := by
  rw [inCalendar_iff_day] at h
  rw [toUtc?, ofInstant?, Date.ofOrdinal?_eq_none (by omega)]
  rfl

end Moment

end Tripwire.Time
