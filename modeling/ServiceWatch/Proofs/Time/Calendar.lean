import Mathlib.Data.Int.Init
import Mathlib.Tactic.IntervalCases
import ServiceWatch.Time.Calendar

/-!
Every number of days belongs to a date of the calendar, and later days never lie in earlier years. The
calendar repeats every 400 years, its eras; years are counted from March.
-/
namespace ServiceWatch.Time

/-- A date that the calendar has. -/
structure IsDate (y : Int) (m d : Nat) : Prop where
  month : 1 ≤ m ∧ m ≤ 12
  day : 1 ≤ d ∧ d ≤ daysInMonth y m

theorem daysInMonth_le (y : Int) (m : Nat) : daysInMonth y m ≤ 31 := by
  unfold daysInMonth
  split
  · split <;> omega
  all_goals omega

theorem isLeapYear_succ (y : Int) :
    isLeapYear (y + 1) = true ↔ y % 4 = 3 ∧ (y % 100 ≠ 99 ∨ y % 400 = 399) := by
  simp only [isLeapYear, Bool.and_eq_true, Bool.or_eq_true, decide_eq_true_eq]
  omega

/-! ### From dates to days -/

theorem dayNumber_of_le_two {y : Int} {m : Nat} (hm : 1 ≤ m ∧ m ≤ 2) (d : Nat) :
    dayNumber y m d =
      365 * (y - 1) + (y - 1) / 4 - (y - 1) / 100 + (y - 1) / 400 + 31 * m + d - 719194 := by
  have hmonth : (m + 9) % 12 = m + 9 := by omega
  unfold dayNumber
  rw [if_pos hm.2, hmonth]
  push_cast
  omega

theorem dayNumber_of_three_le {y : Int} {m : Nat} (hm : 3 ≤ m ∧ m ≤ 12) (d : Nat) :
    dayNumber y m d =
      365 * y + y / 4 - y / 100 + y / 400 + (153 * (m - 3) + 2) / 5 + d - 719469 := by
  have hmonth : (m + 9) % 12 = m - 3 := by omega
  unfold dayNumber
  rw [if_neg (by omega), hmonth]
  push_cast [hm.1]
  omega

/-- A year starts right behind the last day of the year before. -/
theorem dayNumber_succ_year (y : Int) :
    dayNumber (y + 1) 1 1 = dayNumber y 1 1 + if isLeapYear y then 366 else 365 := by
  rw [dayNumber_of_le_two (by omega), dayNumber_of_le_two (by omega)]
  simp only [isLeapYear, Bool.and_eq_true, Bool.or_eq_true, decide_eq_true_eq]
  split <;> omega

section

variable {y y' : Int} {m m' d d' : Nat}

theorem dayNumber_year_mono (h : y ≤ y') : dayNumber y 1 1 ≤ dayNumber y' 1 1 := by
  induction y', h using Int.leInduction with
  | base => exact Int.le_refl _
  | succ n _ ih =>
    rw [dayNumber_succ_year]
    split <;> omega

theorem IsDate.year_start_le (h : IsDate y m d) : dayNumber y 1 1 ≤ dayNumber y m d := by
  obtain ⟨hm, hd⟩ := h
  rw [dayNumber_of_le_two (by omega)]
  by_cases hearly : m ≤ 2
  · rw [dayNumber_of_le_two ⟨hm.1, hearly⟩]
    omega
  · rw [dayNumber_of_three_le ⟨by omega, hm.2⟩]
    omega

theorem IsDate.lt_year_end (h : IsDate y m d) : dayNumber y m d < dayNumber (y + 1) 1 1 := by
  obtain ⟨hm, hd⟩ := h
  have hlength := daysInMonth_le y m
  rw [dayNumber_of_le_two (y := y + 1) (m := 1) (by omega)]
  by_cases hearly : m ≤ 2
  · rw [dayNumber_of_le_two ⟨hm.1, hearly⟩]
    omega
  · rw [dayNumber_of_three_le ⟨by omega, hm.2⟩]
    omega

/-- A day that is not behind another lies in no later year. -/
theorem IsDate.year_le (h : IsDate y m d) (h' : IsDate y' m' d')
    (hle : dayNumber y m d ≤ dayNumber y' m' d') : y ≤ y' := by
  by_contra hlt
  have hyears : dayNumber (y' + 1) 1 1 ≤ dayNumber y 1 1 := dayNumber_year_mono (by omega)
  have hstart := h.year_start_le
  have hend := h'.lt_year_end
  omega

theorem dayNumber_succ_month (hm : 1 ≤ m ∧ m ≤ 11) :
    dayNumber y (m + 1) 1 = dayNumber y m 1 + daysInMonth y m := by
  obtain ⟨hone, heleven⟩ := hm
  interval_cases m
  case «1» =>
    rw [dayNumber_of_le_two (by omega), dayNumber_of_le_two (by omega)]
    simp only [daysInMonth]
    omega
  case «2» =>
    rw [dayNumber_of_three_le (by omega), dayNumber_of_le_two (by omega)]
    simp only [daysInMonth, isLeapYear, Bool.and_eq_true, Bool.or_eq_true, decide_eq_true_eq]
    split <;> omega
  all_goals
    rw [dayNumber_of_three_le (by omega), dayNumber_of_three_le (by omega)]
    simp only [daysInMonth]
    omega

theorem dayNumber_month_mono (hm : 1 ≤ m) (hle : m ≤ m') (hm' : m' ≤ 12) :
    dayNumber y m 1 ≤ dayNumber y m' 1 := by
  induction m', hle using Nat.le_induction with
  | base => rfl
  | succ k hk ih =>
    rw [dayNumber_succ_month (by omega)]
    have hstart := ih (by omega)
    omega

theorem dayNumber_day (y : Int) (m d : Nat) : dayNumber y m d = dayNumber y m 1 + d - 1 := by
  simp only [dayNumber]
  omega

/-- A day that is not behind another of its year lies in no later month. -/
theorem IsDate.month_le (h : IsDate y m d) (h' : IsDate y m' d')
    (hle : dayNumber y m d ≤ dayNumber y m' d') : m ≤ m' := by
  by_contra hlt
  obtain ⟨hm, hd⟩ := h
  obtain ⟨hm', hd'⟩ := h'
  have hmonths : dayNumber y (m' + 1) 1 ≤ dayNumber y m 1 :=
    dayNumber_month_mono (by omega) (by omega) hm.2
  rw [dayNumber_succ_month (by omega)] at hmonths
  rw [dayNumber_day y m d, dayNumber_day y m' d'] at hle
  omega

/-- No two dates share a day. -/
theorem IsDate.eq_of_dayNumber_eq (h : IsDate y m d) (h' : IsDate y' m' d')
    (heq : dayNumber y m d = dayNumber y' m' d') : y = y' ∧ m = m' ∧ d = d' := by
  obtain rfl : y = y' := le_antisymm (h.year_le h' heq.le) (h'.year_le h heq.ge)
  obtain rfl : m = m' := le_antisymm (h.month_le h' heq.le) (h'.month_le h heq.ge)
  rw [dayNumber_day y m d, dayNumber_day y m d'] at heq
  refine ⟨rfl, rfl, ?_⟩
  omega

end

/-! ### From days to dates -/

/-- The year within an era of the day with the given number in the era. -/
def yearOfEra (day : Int) : Int := (day - day / 1460 + day / 36524 - day / 146096) / 365

/-- The number within its year of the day with the given number in the era. -/
def dayOfYear (day : Int) : Int :=
  day - (365 * yearOfEra day + yearOfEra day / 4 - yearOfEra day / 100)

/-- The date of the day with the given number in the given year. -/
def ofDayOfYear (y n : Int) : Int × Nat × Nat :=
  let month := (5 * n + 2) / 153
  let d := n - (153 * month + 2) / 5 + 1
  let m := if month < 10 then month + 3 else month - 9
  (if m ≤ 2 then y + 1 else y, m.toNat, d.toNat)

theorem civil_eq (day : Int) :
    civil day = ofDayOfYear
      (yearOfEra ((day + 719468) % 146097) + (day + 719468) / 146097 * 400)
      (dayOfYear ((day + 719468) % 146097)) := rfl

section

variable {day : Int}

theorem yearOfEra_mem (hday : 0 ≤ day ∧ day < 146097) :
    0 ≤ yearOfEra day ∧ yearOfEra day < 400 := by
  unfold yearOfEra
  omega

/-- A century has 36524 days, but for the leap day at the end of an era. -/
theorem century_eq (hday : 0 ≤ day ∧ day < 146096) : yearOfEra day / 100 = day / 36524 := by
  unfold yearOfEra
  omega

/-- A year has 365 days, and one more if it ends with a leap day. -/
theorem dayOfYear_mem (hday : 0 ≤ day ∧ day < 146097) :
    0 ≤ dayOfYear day ∧ dayOfYear day ≤ if isLeapYear (yearOfEra day + 1) then 365 else 364 := by
  by_cases hlast : day = 146096
  · subst hlast
    decide
  · have hcentury : yearOfEra day / 100 = day / 36524 := century_eq (by omega)
    have hyear : yearOfEra day = (day - day / 1460 + day / 36524 - day / 146096) / 365 := rfl
    simp only [isLeapYear_succ, dayOfYear]
    generalize yearOfEra day = year at *
    obtain ⟨century, hday'⟩ : ∃ century, day / 36524 = century := ⟨_, rfl⟩
    have hfour : century = 0 ∨ century = 1 ∨ century = 2 ∨ century = 3 := by omega
    rw [hday'] at hcentury hyear
    rcases hfour with rfl | rfl | rfl | rfl <;> split <;> omega

end

section

variable {y n : Int} {month : Nat}

theorem ofDayOfYear_of_le_nine (hmonth : (5 * n + 2) / 153 = month) (hm : month ≤ 9) :
    ofDayOfYear y n = (y, month + 3, (n - (153 * month + 2) / 5 + 1).toNat) := by
  have hlt : (month : Int) < 10 := by omega
  have hlate : ¬(month : Int) + 3 ≤ 2 := by omega
  simp only [ofDayOfYear, hmonth, if_pos hlt, if_neg hlate]
  rfl

theorem ofDayOfYear_of_ten_le (hmonth : (5 * n + 2) / 153 = month) (hm : 10 ≤ month ∧ month ≤ 11) :
    ofDayOfYear y n = (y + 1, month - 9, (n - (153 * month + 2) / 5 + 1).toNat) := by
  have hge : ¬(month : Int) < 10 := by omega
  have hearly : (month : Int) - 9 ≤ 2 := by omega
  have hnat : ((month : Int) - 9).toNat = month - 9 := by omega
  simp only [ofDayOfYear, hmonth, if_neg hge, if_pos hearly, hnat]

/-- The months from March to December have 31, 30, 31, 30 and 31 days, twice. -/
theorem day_le_of_le_nine (hmonth : (5 * n + 2) / 153 = month) (hm : month ≤ 9) :
    (n - (153 * month + 2) / 5 + 1).toNat ≤ daysInMonth y (month + 3) := by
  interval_cases month <;> simp only [daysInMonth] <;> omega

theorem day_le_of_ten_le (hn : n ≤ if isLeapYear y then 365 else 364)
    (hmonth : (5 * n + 2) / 153 = month) (hm : 10 ≤ month ∧ month ≤ 11) :
    (n - (153 * month + 2) / 5 + 1).toNat ≤ daysInMonth y (month - 9) := by
  obtain ⟨hten, heleven⟩ := hm
  interval_cases month
  · simp only [daysInMonth]
    omega
  · change _ ≤ if isLeapYear y then 29 else 28
    by_cases hleap : isLeapYear y
    · rw [if_pos hleap] at hn ⊢
      omega
    · rw [if_neg hleap] at hn ⊢
      omega

theorem ofDayOfYear_spec (hn : 0 ≤ n ∧ n ≤ if isLeapYear (y + 1) then 365 else 364) :
    IsDate (ofDayOfYear y n).1 (ofDayOfYear y n).2.1 (ofDayOfYear y n).2.2 ∧
      dayNumber (ofDayOfYear y n).1 (ofDayOfYear y n).2.1 (ofDayOfYear y n).2.2 =
        365 * y + y / 4 - y / 100 + y / 400 + n - 719468 := by
  have hle : n ≤ 365 := by split at hn <;> omega
  obtain ⟨month, hmonth⟩ := Int.eq_ofNat_of_zero_le (a := (5 * n + 2) / 153) (by omega)
  have hfirst : 1 ≤ (n - (153 * month + 2) / 5 + 1).toNat := by omega
  by_cases hm : month ≤ 9
  · simp only [ofDayOfYear_of_le_nine hmonth hm]
    have hday := day_le_of_le_nine (y := y) hmonth hm
    refine ⟨⟨by omega, hfirst, hday⟩, ?_⟩
    rw [dayNumber_of_three_le (by omega)]
    push_cast
    omega
  · have hm : 10 ≤ month ∧ month ≤ 11 := by omega
    simp only [ofDayOfYear_of_ten_le hmonth hm]
    have hday := day_le_of_ten_le hn.2 hmonth hm
    refine ⟨⟨by omega, hfirst, hday⟩, ?_⟩
    rw [dayNumber_of_le_two (by omega), add_sub_cancel_right]
    omega

end

/-- Each day has its date. -/
theorem civil_spec (day : Int) :
    IsDate (civil day).1 (civil day).2.1 (civil day).2.2 ∧
      dayNumber (civil day).1 (civil day).2.1 (civil day).2.2 = day := by
  rw [civil_eq]
  obtain ⟨era, hera⟩ : ∃ era, (day + 719468) / 146097 = era := ⟨_, rfl⟩
  obtain ⟨e, he⟩ : ∃ e, (day + 719468) % 146097 = e := ⟨_, rfl⟩
  rw [hera, he]
  have hlt : 0 ≤ e ∧ e < 146097 := by omega
  have hnumber : dayOfYear e = e - (365 * yearOfEra e + yearOfEra e / 4 - yearOfEra e / 100) := rfl
  have hleap : isLeapYear (yearOfEra e + era * 400 + 1) = isLeapYear (yearOfEra e + 1) := by
    rw [Bool.eq_iff_iff, isLeapYear_succ, isLeapYear_succ]
    omega
  have hdate := ofDayOfYear_spec (y := yearOfEra e + era * 400) (by
    rw [hleap]
    exact dayOfYear_mem hlt)
  have hyear := yearOfEra_mem hlt
  refine ⟨hdate.1, hdate.2.trans ?_⟩
  omega

end ServiceWatch.Time
