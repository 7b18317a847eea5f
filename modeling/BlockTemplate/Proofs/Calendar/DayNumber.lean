import BlockTemplate.Calendar.Civil
import Mathlib

/-!
# The days of the calendar and their numbers

The day after a day is the next one of its month, the first of the next month or the first of the
next year. Numbers count the days like that from the first of January 1970 on, in both directions,
and every number is that of one day of the calendar.

## Implementation notes

Both `Civil.toDays` and `Civil.ofDays` calculate with years that start in March. That they count
days is shown from the calendar alone: a step to the next day adds one (`Civil.toDays_next`), so
every number is reached by steps (`Civil.exists_toDays_eq`). The year is the only part that is hard
to read off a number (`yearOfEra_eq`).

Main statements: `Civil.toDays_next`, `Civil.weekday_next`, `Civil.ofDays_toDays`,
`Civil.toDays_ofDays`.
-/

namespace BlockTemplate.Calendar

namespace Civil

variable {c : Civil}

/-! ### One day on and one day back -/

/-- The day after a day. -/
def next (c : Civil) : Civil :=
  if c.day < daysInMonth c.year c.month then { c with day := c.day + 1 }
  else if c.month < 12 then ⟨c.year, c.month + 1, 1⟩
  else ⟨c.year + 1, 1, 1⟩

/-- The day before a day. -/
def previous (c : Civil) : Civil :=
  if 1 < c.day then { c with day := c.day - 1 }
  else if 1 < c.month then ⟨c.year, c.month - 1, daysInMonth c.year (c.month - 1)⟩
  else ⟨c.year - 1, 12, 31⟩

theorem isValid_iff : c.isValid = true ↔
    (1 ≤ c.month ∧ c.month ≤ 12) ∧ 1 ≤ c.day ∧ c.day ≤ daysInMonth c.year c.month := by
  simp [isValid, and_assoc]

theorem isLeap_iff (year : Int) :
    isLeap year = true ↔ year % 4 = 0 ∧ (year % 100 ≠ 0 ∨ year % 400 = 0) := by
  simp [isLeap]

/-- No month is shorter than February or longer than January. -/
theorem daysInMonth_bounds (year : Int) (month : Nat) :
    28 ≤ daysInMonth year month ∧ daysInMonth year month ≤ 31 := by
  unfold daysInMonth
  split_ifs <;> omega

theorem isValid_next (h : c.isValid = true) : c.next.isValid = true := by
  rw [isValid_iff] at h ⊢
  obtain ⟨⟨hmonth, hmonth'⟩, hday, -⟩ := h
  unfold next
  split_ifs with hinside hlater
  · exact ⟨⟨hmonth, hmonth'⟩, by dsimp only; omega, hinside⟩
  · have hlength := daysInMonth_bounds c.year (c.month + 1)
    refine ⟨?_, ?_⟩ <;> dsimp only <;> omega
  · have hlength := daysInMonth_bounds (c.year + 1) 1
    refine ⟨?_, ?_⟩ <;> dsimp only <;> omega

theorem isValid_previous (h : c.isValid = true) : c.previous.isValid = true := by
  rw [isValid_iff] at h ⊢
  obtain ⟨⟨hmonth, hmonth'⟩, hday, hday'⟩ := h
  unfold previous
  split_ifs with hinside hlater
  · refine ⟨⟨hmonth, hmonth'⟩, ?_⟩
    dsimp only
    omega
  · have hlength := daysInMonth_bounds c.year (c.month - 1)
    refine ⟨?_, ?_⟩ <;> dsimp only <;> omega
  · exact ⟨⟨by simp, by simp⟩, by simp, le_rfl⟩

theorem next_previous (h : c.isValid = true) : c.previous.next = c := by
  obtain ⟨⟨hmonth, hmonth'⟩, hday, hday'⟩ := isValid_iff.1 h
  obtain ⟨year, month, day⟩ := c
  dsimp only at hmonth hmonth' hday hday'
  by_cases hinside : 1 < day
  · have hnext : day - 1 < daysInMonth year month := by omega
    simp only [previous, if_pos hinside, next, if_pos hnext, mk.injEq, true_and]
    omega
  · obtain rfl : day = 1 := by omega
    by_cases hearlier : 1 < month
    · have hnext : month - 1 < 12 := by omega
      simp only [previous, if_pos hearlier, next, lt_irrefl, if_false,
        if_pos hnext, mk.injEq, true_and, and_true]
      omega
    · obtain rfl : month = 1 := by omega
      simp [previous, next, daysInMonth]

/-! ### Years from March -/

/-- The year of a day if years start in March. -/
def marchYear (c : Civil) : Int := if c.month ≤ 2 then c.year - 1 else c.year

/-- The days of a year from March on that are before a month, given by its number. -/
def daysBefore (month : Nat) : Int := (153 * (((month : Int) + 9) % 12) + 2) / 5

/-- The days from the first of March on that are before a day. -/
def dayOfYear (c : Civil) : Int := daysBefore c.month + c.day - 1

theorem toDays_eq (c : Civil) :
    c.toDays = c.marchYear * 365 + c.marchYear / 4 - c.marchYear / 100 + c.marchYear / 400 +
      c.dayOfYear - 719468 := by
  simp only [toDays, dayOfYear, daysBefore, marchYear]
  generalize (if c.month ≤ 2 then c.year - 1 else c.year) = year
  omega

/-- Years with a leap day are counted by the quotients of the year, so their differences tell how
long February is. -/
theorem daysInMonth_two (year : Int) : (daysInMonth year 2 : Int) =
    28 + (year / 4 - (year - 1) / 4) - (year / 100 - (year - 1) / 100) +
      (year / 400 - (year - 1) / 400) := by
  have hfour : year / 4 - (year - 1) / 4 = if year % 4 = 0 then 1 else 0 := by
    split <;> omega
  have hcentury : year / 100 - (year - 1) / 100 = if year % 100 = 0 then 1 else 0 := by
    split <;> omega
  have hera : year / 400 - (year - 1) / 400 = if year % 400 = 0 then 1 else 0 := by
    split <;> omega
  have hlength : daysInMonth year 2 = if isLeap year then 29 else 28 := rfl
  rw [hfour, hcentury, hera, hlength]
  simp only [isLeap_iff]
  split_ifs <;> omega

/-- Months follow one another, but for February, which ends the year. -/
theorem daysBefore_succ (year : Int) {month : Nat} (h : 1 ≤ month) (h' : month < 12)
    (hend : month ≠ 2) : daysBefore (month + 1) = daysBefore month + daysInMonth year month := by
  interval_cases month
  case «2» => exact absurd rfl hend
  all_goals rfl

/-- A step to the next day adds one. -/
theorem toDays_next (h : c.isValid = true) : c.next.toDays = c.toDays + 1 := by
  obtain ⟨⟨hmonth, hmonth'⟩, hday, hday'⟩ := isValid_iff.1 h
  rw [toDays_eq, toDays_eq]
  obtain ⟨year, month, day⟩ := c
  dsimp only at hmonth hmonth' hday hday'
  by_cases hinside : day < daysInMonth year month
  · simp only [next, if_pos hinside, marchYear, dayOfYear]
    omega
  obtain rfl : day = daysInMonth year month := by omega
  by_cases hlater : month < 12
  · simp only [next, if_neg hinside, if_pos hlater, dayOfYear, marchYear]
    by_cases hend : month = 2
    · subst hend
      have hmarch : daysBefore 3 = 0 := rfl
      have hfebruary : daysBefore 2 = 337 := rfl
      have hlength := daysInMonth_two year
      simp only [Nat.reduceLeDiff, Nat.reduceAdd, if_true, if_false, hmarch, hfebruary]
      omega
    · rw [daysBefore_succ year hmonth hlater hend]
      split_ifs <;> omega
  · obtain rfl : month = 12 := by omega
    have hjanuary : daysBefore 1 = 306 := rfl
    have hdecember : daysBefore 12 = 275 := rfl
    simp only [next, if_neg hinside, if_neg hlater, dayOfYear, marchYear, hjanuary, hdecember]
    simp [daysInMonth]
    omega

/-- The days of the week go round. -/
theorem weekday_next (h : c.isValid = true) : c.next.weekday = (c.weekday + 1) % 7 := by
  rw [weekday, weekday, toDays_next h]
  omega

theorem toDays_previous (h : c.isValid = true) : c.previous.toDays = c.toDays - 1 := by
  have hnext := toDays_next (isValid_previous h)
  rw [next_previous h] at hnext
  omega

/-- Every number is that of a day, which is reached step by step from the first one. -/
theorem exists_toDays_eq (n : Int) : ∃ c : Civil, c.isValid = true ∧ c.toDays = n := by
  induction n using Int.induction_on with
  | zero => exact ⟨⟨1970, 1, 1⟩, rfl, rfl⟩
  | succ n ih =>
      obtain ⟨c, hvalid, hn⟩ := ih
      exact ⟨c.next, isValid_next hvalid, by rw [toDays_next hvalid, hn]⟩
  | pred n ih =>
      obtain ⟨c, hvalid, hn⟩ := ih
      exact ⟨c.previous, isValid_previous hvalid, by rw [toDays_previous hvalid, hn]⟩

/-! ### Days from numbers -/

/-- The last day of a year from March on is the leap day that may be in the year after it. -/
theorem dayOfYear_bounds (h : c.isValid = true) : 0 ≤ c.dayOfYear ∧
    (c.dayOfYear < 365 ∨ c.dayOfYear = 365 ∧ isLeap (c.marchYear + 1) = true) := by
  obtain ⟨⟨hmonth, hmonth'⟩, hday, hday'⟩ := isValid_iff.1 h
  obtain ⟨year, month, day⟩ := c
  dsimp only at hmonth hmonth' hday hday'
  unfold dayOfYear marchYear
  by_cases hend : month = 2
  · subst hend
    have hfebruary : daysBefore 2 = 337 := rfl
    have hlength : daysInMonth year 2 = if isLeap year then 29 else 28 := rfl
    rw [hlength] at hday'
    simp only [hfebruary, le_refl, if_true, Int.sub_add_cancel]
    cases hleap : isLeap year <;> simp only [hleap, if_true, if_false, Bool.false_eq_true] at hday'
    · omega
    · simp only [and_true]
      omega
  · have hbound : daysBefore month ≤ 306 := by
      interval_cases month
      case «2» => exact absurd rfl hend
      all_goals decide
    have hlength := daysInMonth_bounds year month
    have hstart : 0 ≤ daysBefore month := by
      unfold daysBefore
      omega
    dsimp only
    omega

/-- The year of an era is read off the day of the era. The quotients take away the leap days before
that day; the last day of the era would be taken away twice. -/
theorem yearOfEra_eq {year day : Int} (hyear : 0 ≤ year ∧ year < 400) (hday : 0 ≤ day)
    (hlast : day < 365 ∨ day = 365 ∧ isLeap (year + 1) = true) {n : Int}
    (hn : n = year * 365 + year / 4 - year / 100 + day) :
    (n - n / 1460 + n / 36524 - n / 146096) / 365 = year := by
  rw [isLeap_iff] at hlast
  obtain ⟨c, q, r, rfl, hc, hq, hr⟩ : ∃ c q r : Int,
      year = 100 * c + 4 * q + r ∧ (0 ≤ c ∧ c < 4) ∧ (0 ≤ q ∧ q < 25) ∧ 0 ≤ r ∧ r < 4 :=
    ⟨year / 100, year % 100 / 4, year % 4, by omega, by omega, by omega, by omega⟩
  have hquarters : (100 * c + 4 * q + r) / 4 = 25 * c + q := by omega
  have hcenturies : (100 * c + 4 * q + r) / 100 = c := by omega
  rw [hquarters, hcenturies] at hn
  have hleap : day < 365 ∨ day = 365 ∧ r = 3 ∧ (q < 24 ∨ c = 3 ∧ q = 24) := by
    rcases hlast with hshort | ⟨hlong, hfour, hcentury⟩
    · exact Or.inl hshort
    · refine Or.inr ⟨hlong, by omega, ?_⟩
      by_cases hq24 : q < 24
      · exact Or.inl hq24
      · obtain rfl : q = 24 := by omega
        obtain rfl : r = 3 := by omega
        rcases hcentury with hcentury | hcentury <;> omega
  clear hlast hquarters hcenturies
  by_cases hend : n = 146096
  · subst hend
    omega
  · have htwice : n / 146096 = 0 := by omega
    have hcentury : n / 36524 = c := by omega
    have hfour : n / 1460 = 25 * c + q + (24 * c + q + 365 * r + day) / 1460 := by omega
    rw [htwice, hcentury, hfour]
    omega

/-- The month is read off the day of the year. -/
theorem monthFromMarch_eq (h : c.isValid = true) :
    (5 * c.dayOfYear + 2) / 153 = ((c.month : Int) + 9) % 12 := by
  obtain ⟨⟨hmonth, hmonth'⟩, hday, hday'⟩ := isValid_iff.1 h
  obtain ⟨year, month, day⟩ := c
  dsimp only at hmonth hmonth' hday hday'
  have hlong : daysInMonth year month ≤
      if month = 2 then 29 else if month ∈ [4, 6, 9, 11] then 30 else 31 := by
    unfold daysInMonth
    split_ifs <;> simp_all
  unfold dayOfYear daysBefore
  dsimp only
  interval_cases month <;> simp at hlong ⊢ <;> omega

/-- A day comes back from its number. -/
theorem ofDays_toDays (h : c.isValid = true) : ofDays c.toDays = c := by
  obtain ⟨hday, hlast⟩ := dayOfYear_bounds h
  have hnumber := toDays_eq c
  -- the era and the day of the era
  have hera : (c.toDays + 719468) / 146097 = c.marchYear / 400 := by omega
  have hdayOfEra : (c.toDays + 719468) % 146097 = c.marchYear % 400 * 365 +
      c.marchYear % 400 / 4 - c.marchYear % 400 / 100 + c.dayOfYear := by omega
  have hleap : isLeap (c.marchYear % 400 + 1) = isLeap (c.marchYear + 1) := by
    rw [Bool.eq_iff_iff, isLeap_iff, isLeap_iff]
    omega
  have hyear := yearOfEra_eq (by omega) hday (hleap ▸ hlast) hdayOfEra
  have hdayOfYear : (c.toDays + 719468) % 146097 - (365 * (c.marchYear % 400) +
      c.marchYear % 400 / 4 - c.marchYear % 400 / 100) = c.dayOfYear := by omega
  simp only [ofDays, hera, hyear, hdayOfYear]
  -- the month and the day of the month
  obtain ⟨⟨hmonth, hmonth'⟩, hfirst, -⟩ := isValid_iff.1 h
  rw [monthFromMarch_eq h, dayOfYear, daysBefore, marchYear]
  obtain ⟨year, month, day⟩ := c
  dsimp only at hmonth hmonth' hfirst
  simp only [mk.injEq]
  refine ⟨?_, ?_, ?_⟩
  · split_ifs <;> omega
  · split_ifs <;> omega
  · omega

/-- Every number is that of the day it stands for, and that day is in the calendar. -/
theorem toDays_ofDays (n : Int) : (ofDays n).toDays = n ∧ (ofDays n).isValid = true := by
  obtain ⟨c, hvalid, rfl⟩ := exists_toDays_eq n
  rw [ofDays_toDays hvalid]
  exact ⟨rfl, hvalid⟩

theorem ofDays_add_one (h : c.isValid = true) : ofDays (c.toDays + 1) = c.next := by
  rw [← toDays_next h, ofDays_toDays (isValid_next h)]

theorem ofDays_sub_one (h : c.isValid = true) : ofDays (c.toDays - 1) = c.previous := by
  rw [← toDays_previous h, ofDays_toDays (isValid_previous h)]

end Civil

end BlockTemplate.Calendar
