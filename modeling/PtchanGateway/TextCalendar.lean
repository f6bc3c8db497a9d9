import PtchanGateway.TextDigits

/-! The proleptic Gregorian calendar over day numbers, with day 0 the first day of year 0. Every day
has one civil date, dates are ordered as their days, and the date gives the day back. -/

namespace TextCalendar

/-- The days before the first day of a year. -/
def daysBeforeYear (year : Nat) : Nat :=
  365 * year + (year + 3) / 4 - (year + 99) / 100 + (year + 399) / 400

def isLeap (year : Nat) : Bool := year % 4 == 0 && (year % 100 != 0 || year % 400 == 0)

def yearLength (leap : Bool) : Nat := if leap then 366 else 365

theorem isLeap_eq_true_iff (year : Nat) :
    isLeap year = true ↔ year % 4 = 0 ∧ (year % 100 ≠ 0 ∨ year % 400 = 0) := by
  simp [isLeap]

theorem daysBeforeYear_succ (year : Nat) :
    daysBeforeYear (year + 1) = daysBeforeYear year + yearLength (isLeap year) := by
  have h4 : (year + 1 + 3) / 4 = (year + 3) / 4 + if year % 4 = 0 then 1 else 0 := by
    split_ifs <;> omega
  have h100 : (year + 1 + 99) / 100 = (year + 99) / 100 + if year % 100 = 0 then 1 else 0 := by
    split_ifs <;> omega
  have h400 : (year + 1 + 399) / 400 = (year + 399) / 400 + if year % 400 = 0 then 1 else 0 := by
    split_ifs <;> omega
  have hle : (year + 99) / 100 ≤ year + (year + 3) / 4 := by omega
  have h100of400 : year % 400 = 0 → year % 100 = 0 := by omega
  have h4of100 : year % 100 = 0 → year % 4 = 0 := by omega
  simp only [daysBeforeYear, h4, h100, h400, yearLength, isLeap_eq_true_iff]
  generalize (year + 3) / 4 = a at *
  generalize (year + 99) / 100 = b at *
  generalize (year + 399) / 400 = c at *
  clear h4 h100 h400
  -- Every fourth year is a leap year, but of the hundredth years only every fourth.
  by_cases hfour : year % 4 = 0
  · by_cases hhundred : year % 100 = 0
    · by_cases hfourHundred : year % 400 = 0
      · simp only [hfour, hhundred, hfourHundred, if_true, true_and, or_true]
        omega
      · simp only [hfour, hhundred, hfourHundred, if_true, if_false, ne_eq, not_true_eq_false, or_false, and_false]
        omega
    · have hfourHundred : year % 400 ≠ 0 := mt h100of400 hhundred
      simp only [hfour, hhundred, hfourHundred, if_true, if_false, ne_eq, not_false_eq_true, true_or, and_true]
      omega
  · have hhundred : year % 100 ≠ 0 := mt h4of100 hfour
    have hfourHundred : year % 400 ≠ 0 := fun h => hhundred (h100of400 h)
    simp only [hfour, hhundred, hfourHundred, if_false, false_and]
    omega

theorem daysBeforeYear_strictMono : StrictMono daysBeforeYear := by
  apply strictMono_nat_of_lt_succ
  intro year
  rw [daysBeforeYear_succ]
  unfold yearLength
  split_ifs <;> omega

/-- The year of a day: the mean year length is 146097/400 days, and the estimate it gives is at most one
year off. -/
def yearOf (day : Nat) : Nat :=
  let estimate := day * 400 / 146097
  if daysBeforeYear (estimate + 1) ≤ day then estimate + 1
  else if day < daysBeforeYear estimate then estimate - 1
  else estimate

theorem daysBeforeYear_yearOf_le (day : Nat) : daysBeforeYear (yearOf day) ≤ day := by
  unfold yearOf
  dsimp only
  split_ifs with hnext hprev
  · exact hnext
  · unfold daysBeforeYear at *
    omega
  · omega

theorem lt_daysBeforeYear_yearOf_succ (day : Nat) : day < daysBeforeYear (yearOf day + 1) := by
  unfold yearOf
  dsimp only
  split_ifs with hnext hprev
  · unfold daysBeforeYear at *
    omega
  · have hpos : 0 < day * 400 / 146097 := by
      by_contra hzero
      rw [Nat.eq_zero_of_not_pos hzero] at hprev
      exact absurd hprev (Nat.not_lt_zero day)
    rwa [Nat.sub_add_cancel hpos]
  · omega

theorem yearOf_mono {day later : Nat} (h : day ≤ later) : yearOf day ≤ yearOf later := by
  have hyear := daysBeforeYear_yearOf_le day
  have hnext := lt_daysBeforeYear_yearOf_succ later
  have : yearOf day < yearOf later + 1 := daysBeforeYear_strictMono.lt_iff_lt.mp (by omega)
  omega

/-- The day within its year, from 0. -/
def dayOfYear (day : Nat) : Nat := day - daysBeforeYear (yearOf day)

theorem dayOfYear_lt (day : Nat) : dayOfYear day < yearLength (isLeap (yearOf day)) := by
  have hnext := lt_daysBeforeYear_yearOf_succ day
  rw [daysBeforeYear_succ] at hnext
  have := daysBeforeYear_yearOf_le day
  unfold dayOfYear
  omega

/-- The days of a year before a month, months counted from 0; month 12 is the whole year. -/
def daysBeforeMonth (leap : Bool) (month : Nat) : Nat :=
  let february := if leap then 29 else 28
  ([31, february, 31, 30, 31, 30, 31, 31, 30, 31, 30, 31].take month).sum

/-- The month of a day of the year, from 0. -/
def monthOf (leap : Bool) (ordinal : Nat) : Nat :=
  (List.range 11).countP fun month => daysBeforeMonth leap (month + 1) ≤ ordinal

theorem monthOf_spec : ∀ leap : Bool, ∀ ordinal < yearLength leap,
    monthOf leap ordinal < 12 ∧ daysBeforeMonth leap (monthOf leap ordinal) ≤ ordinal ∧
      ordinal < daysBeforeMonth leap (monthOf leap ordinal + 1) := by
  decide +kernel

theorem daysBeforeMonth_mono : ∀ leap : Bool, ∀ month ≤ 12, ∀ later ≤ 12, month ≤ later →
    daysBeforeMonth leap month ≤ daysBeforeMonth leap later := by
  decide +kernel

theorem daysBeforeMonth_succ_le : ∀ leap : Bool, ∀ month < 12,
    daysBeforeMonth leap (month + 1) ≤ daysBeforeMonth leap month + 31 := by
  decide +kernel

theorem monthOf_mono {leap : Bool} {ordinal later : Nat} (h : ordinal ≤ later)
    (hlater : later < yearLength leap) : monthOf leap ordinal ≤ monthOf leap later := by
  obtain ⟨hm, hle, _⟩ := monthOf_spec leap ordinal (by omega)
  obtain ⟨hm', _, hlt⟩ := monthOf_spec leap later hlater
  by_contra hgt
  have := daysBeforeMonth_mono leap (monthOf leap later + 1) (by omega) (monthOf leap ordinal)
    (by omega) (by omega)
  omega

/-- Year, month from 1 and day of the month from 1. -/
def civil (day : Nat) : Nat × Nat × Nat :=
  let leap := isLeap (yearOf day)
  let month := monthOf leap (dayOfYear day)
  (yearOf day, month + 1, dayOfYear day - daysBeforeMonth leap month + 1)

/-- The days of a month, months counted from 1. -/
def monthLength (year month : Nat) : Nat :=
  daysBeforeMonth (isLeap year) month - daysBeforeMonth (isLeap year) (month - 1)

/-- The day number of a date, when there is such a date. -/
def dayNumber? (year month dayOfMonth : Nat) : Option Nat :=
  if 1 ≤ month ∧ month ≤ 12 ∧ 1 ≤ dayOfMonth ∧ dayOfMonth ≤ monthLength year month then
    some (daysBeforeYear year + daysBeforeMonth (isLeap year) (month - 1) + (dayOfMonth - 1))
  else none

theorem civil_month_range (day : Nat) : 1 ≤ (civil day).2.1 ∧ (civil day).2.1 ≤ 12 := by
  obtain ⟨hm, _, _⟩ := monthOf_spec (isLeap (yearOf day)) (dayOfYear day) (dayOfYear_lt day)
  simp only [civil]
  omega

theorem civil_day_range (day : Nat) :
    1 ≤ (civil day).2.2 ∧ (civil day).2.2 ≤ monthLength (civil day).1 (civil day).2.1 := by
  obtain ⟨_, hle, hlt⟩ := monthOf_spec (isLeap (yearOf day)) (dayOfYear day) (dayOfYear_lt day)
  simp only [civil, monthLength, Nat.add_sub_cancel]
  omega

theorem monthLength_le (year month : Nat) (hm : 1 ≤ month ∧ month ≤ 12) :
    monthLength year month ≤ 31 := by
  have := daysBeforeMonth_succ_le (isLeap year) (month - 1) (by omega)
  rw [Nat.sub_add_cancel hm.1] at this
  unfold monthLength
  omega

/-- The civil date gives the day back. -/
theorem dayNumber?_civil (day : Nat) :
    dayNumber? (civil day).1 (civil day).2.1 (civil day).2.2 = some day := by
  have hmonth := civil_month_range day
  have hday := civil_day_range day
  rw [dayNumber?, if_pos ⟨hmonth.1, hmonth.2, hday.1, hday.2⟩]
  obtain ⟨_, hle, _⟩ := monthOf_spec (isLeap (yearOf day)) (dayOfYear day) (dayOfYear_lt day)
  have hyear := daysBeforeYear_yearOf_le day
  simp only [civil, Nat.add_sub_cancel, Option.some.injEq]
  have : dayOfYear day = day - daysBeforeYear (yearOf day) := rfl
  omega

/-- Dates are ordered as their days. -/
theorem civil_lt {day later : Nat} (h : day < later) :
    (civil day).1 < (civil later).1 ∨
      (civil day).1 = (civil later).1 ∧ ((civil day).2.1 < (civil later).2.1 ∨
        (civil day).2.1 = (civil later).2.1 ∧ (civil day).2.2 < (civil later).2.2) := by
  simp only [civil]
  rcases Nat.lt_or_ge (yearOf day) (yearOf later) with hyear | hyear
  · exact Or.inl hyear
  have hsame : yearOf later = yearOf day := le_antisymm hyear (yearOf_mono h.le)
  have hfirst := daysBeforeYear_yearOf_le day
  have hlast := dayOfYear_lt later
  have hord : dayOfYear day < dayOfYear later := by
    unfold dayOfYear
    rw [hsame]
    omega
  rw [hsame] at hlast ⊢
  refine Or.inr ⟨rfl, ?_⟩
  have hmonth := monthOf_mono hord.le hlast
  obtain ⟨_, hle, _⟩ := monthOf_spec (isLeap (yearOf day)) (dayOfYear day) (dayOfYear_lt day)
  rcases Nat.lt_or_ge (monthOf (isLeap (yearOf day)) (dayOfYear day))
    (monthOf (isLeap (yearOf day)) (dayOfYear later)) with hlt | hge
  · exact Or.inl (by omega)
  · have heq := le_antisymm hmonth hge
    refine Or.inr ⟨by rw [heq], ?_⟩
    rw [← heq]
    omega

theorem daysBeforeYear_add_era (era year : Nat) :
    daysBeforeYear (400 * era + year) = 146097 * era + daysBeforeYear year := by
  unfold daysBeforeYear
  omega

theorem isLeap_add_era (era year : Nat) : isLeap (400 * era + year) = isLeap year := by
  rw [Bool.eq_iff_iff, isLeap_eq_true_iff, isLeap_eq_true_iff]
  omega

theorem yearOf_add_era (era day : Nat) : yearOf (146097 * era + day) = 400 * era + yearOf day := by
  have hfirst := daysBeforeYear_yearOf_le (146097 * era + day)
  have hlast := lt_daysBeforeYear_yearOf_succ (146097 * era + day)
  have hfirst' := daysBeforeYear_yearOf_le day
  have hlast' := lt_daysBeforeYear_yearOf_succ day
  have hlow : daysBeforeYear (400 * era + yearOf day) < daysBeforeYear (yearOf (146097 * era + day) + 1) := by
    rw [daysBeforeYear_add_era]
    omega
  have hhigh : daysBeforeYear (yearOf (146097 * era + day)) < daysBeforeYear (400 * era + (yearOf day + 1)) := by
    rw [daysBeforeYear_add_era]
    omega
  rw [daysBeforeYear_strictMono.lt_iff_lt] at hlow hhigh
  omega

/-- The calendar repeats after 400 years. -/
theorem civil_add_era (era day : Nat) :
    civil (146097 * era + day) = (400 * era + (civil day).1, (civil day).2) := by
  have hordinal : dayOfYear (146097 * era + day) = dayOfYear day := by
    simp only [dayOfYear, yearOf_add_era, daysBeforeYear_add_era]
    omega
  simp only [civil, hordinal, yearOf_add_era, isLeap_add_era]

theorem civil_year_lt {day bound : Nat} (h : day < daysBeforeYear bound) : (civil day).1 < bound :=
  daysBeforeYear_strictMono.lt_iff_lt.mp (lt_of_le_of_lt (daysBeforeYear_yearOf_le day) h)

end TextCalendar
