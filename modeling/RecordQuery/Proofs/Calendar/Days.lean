import RecordQuery.Calendar.Date

/-!
# Numbers of days

The number of a date counts the days since the first of January 1970, and each year begins where the
one before it ends (`daysBeforeYear_succ`). The numbers of all dates lie between those of the first
and the last day of the calendar (`firstDay_le_dayNumber`, `dayNumber_le_lastDay`), and a date is
found again from its number (`ofDay_dayNumber`).
-/

namespace RecordQuery.Date

variable {y : Int}

/-! ## Years -/

def daysInYear (y : Int) : Nat := if isLeapYear y then 366 else 365

theorem isLeapYear_iff : isLeapYear y = true ↔ y % 4 = 0 ∧ (y % 100 ≠ 0 ∨ y % 400 = 0) := by
  simp [isLeapYear]

theorem daysBeforeYear_succ (y : Int) :
    daysBeforeYear (y + 1) = daysBeforeYear y + daysInYear y := by
  unfold daysBeforeYear daysInYear
  split
  · rename_i hleap
    rw [isLeapYear_iff] at hleap
    omega
  · rename_i hcommon
    rw [isLeapYear_iff] at hcommon
    omega

theorem daysBeforeYear_mono {y y' : Int} (h : y ≤ y') : daysBeforeYear y ≤ daysBeforeYear y' := by
  unfold daysBeforeYear
  omega

/-- The quotient by the mean length of a year is at most one year off. -/
theorem guess_bounds {n : Int} (hbegun : daysBeforeYear y ≤ n)
    (hended : n < daysBeforeYear (y + 1)) :
    y - 1 ≤ 1970 + n * 400 / 146097 ∧ 1970 + n * 400 / 146097 ≤ y + 1 := by
  unfold daysBeforeYear at *
  omega

theorem yearOfDay_eq {n : Int} (hbegun : daysBeforeYear y ≤ n)
    (hended : n < daysBeforeYear (y + 1)) : yearOfDay n = y := by
  obtain ⟨hlow, hhigh⟩ := guess_bounds hbegun hended
  unfold yearOfDay
  dsimp only
  generalize 1970 + n * 400 / 146097 = guess at *
  obtain rfl | rfl | rfl : guess = y - 1 ∨ guess = y ∨ guess = y + 1 := by omega
  · have hmono := daysBeforeYear_mono (show y - 1 ≤ y by omega)
    rw [if_neg (by omega), if_pos (by rw [Int.sub_add_cancel]; exact hbegun), Int.sub_add_cancel]
  · rw [if_neg (by omega), if_neg (by omega)]
  · rw [if_pos hended, Int.add_sub_cancel]

/-! ## Months -/

theorem daysInMonth_bounds (y : Int) (m : Nat) : 28 ≤ daysInMonth y m ∧ daysInMonth y m ≤ 31 := by
  unfold daysInMonth
  split
  · split <;> decide
  · split <;> decide

theorem daysOfMonths_mono (y : Int) {m n : Nat} (h : m ≤ n) :
    daysOfMonths y m ≤ daysOfMonths y n := by
  induction h with
  | refl => exact Nat.le_refl _
  | step _ ih => exact Nat.le_trans ih (Nat.le_add_right _ _)

theorem daysOfMonths_pred (y : Int) {m : Nat} (h : 1 ≤ m) :
    daysOfMonths y m = daysOfMonths y (m - 1) + daysInMonth y m := by
  obtain ⟨k, rfl⟩ := Nat.exists_eq_add_of_le' h
  rfl

theorem daysOfMonths_twelve (y : Int) : daysOfMonths y 12 = daysInYear y := by
  simp only [daysOfMonths, daysInMonth, daysInYear]
  cases isLeapYear y <;> rfl

/-- The search from month `a` on stops in month `m` when it looks at that month and the days left
there are fewer than the month has. -/
theorem monthFrom_eq {k a m n r : Nat} (ha : 1 ≤ a) (ham : a ≤ m) (hk : m < a + k)
    (hr : r < daysInMonth y m) (hn : daysOfMonths y (a - 1) + n = daysOfMonths y (m - 1) + r) :
    monthFrom y k a n = (m, r + 1) := by
  induction k generalizing a n with
  | zero => omega
  | succ k ih =>
      rw [monthFrom]
      by_cases h : a = m
      · subst h
        obtain rfl : n = r := by omega
        rw [if_pos hr]
      · have hpred := daysOfMonths_pred y ha
        have hmono := daysOfMonths_mono y (show a ≤ m - 1 by omega)
        rw [if_neg (by omega)]
        exact ih (by omega) (by omega) (by omega) (by rw [Nat.add_sub_cancel]; omega)

/-! ## Dates -/

variable (d : Date)

theorem dayOfYear_lt : daysOfMonths d.year (d.month - 1) + d.day - 1 < daysInYear d.year := by
  have hday := d.day_le
  have hpos := d.day_pos
  have hpred := daysOfMonths_pred d.year d.month_pos
  have hmono := daysOfMonths_mono d.year d.month_le
  rw [daysOfMonths_twelve] at hmono
  omega

theorem dayNumber_eq : d.dayNumber =
    daysBeforeYear d.year + (daysOfMonths d.year (d.month - 1) + d.day - 1 : Nat) := by
  have hpos := d.day_pos
  unfold dayNumber number
  omega

theorem daysBeforeYear_le_dayNumber : daysBeforeYear d.year ≤ d.dayNumber := by
  rw [dayNumber_eq]
  omega

theorem dayNumber_lt_daysBeforeYear : d.dayNumber < daysBeforeYear (d.year + 1) := by
  have hlt := dayOfYear_lt d
  rw [dayNumber_eq, daysBeforeYear_succ]
  omega

theorem firstDay_le_dayNumber : firstDay ≤ d.dayNumber := by
  have hfirst : firstDay = daysBeforeYear firstYear := by decide
  rw [hfirst]
  exact Int.le_trans (daysBeforeYear_mono d.year_ge) (daysBeforeYear_le_dayNumber d)

theorem dayNumber_le_lastDay : d.dayNumber ≤ lastDay := by
  have hlast : lastDay + 1 = daysBeforeYear (lastYear + 1) := by decide
  have hle : daysBeforeYear (d.year + 1) ≤ daysBeforeYear (lastYear + 1) :=
    daysBeforeYear_mono (Int.add_le_add_right d.year_le 1)
  have hlt := dayNumber_lt_daysBeforeYear d
  omega

theorem ofDay_dayNumber : ofDay d.dayNumber = (d.year, d.month, d.day) := by
  have hyear : yearOfDay d.dayNumber = d.year :=
    yearOfDay_eq (daysBeforeYear_le_dayNumber d) (dayNumber_lt_daysBeforeYear d)
  have hday := d.day_le
  have hpos := d.day_pos
  have hmonth : monthFrom d.year 12 1 (d.dayNumber - daysBeforeYear d.year).toNat =
      (d.month, d.day - 1 + 1) := by
    refine monthFrom_eq (Nat.le_refl 1) d.month_pos (Nat.lt_one_add_iff.2 d.month_le) (by omega) ?_
    rw [dayNumber_eq, Int.add_comm, Int.add_sub_cancel, Int.toNat_natCast, Nat.sub_self,
      daysOfMonths]
    omega
  rw [Nat.sub_add_cancel hpos] at hmonth
  rw [ofDay, hyear, hmonth]

end RecordQuery.Date
