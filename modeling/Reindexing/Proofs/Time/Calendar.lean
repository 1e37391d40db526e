import Reindexing.Time.Calendar

/-!
# Day numbers and dates

Every day number is that of the date that is computed from it, and the date exists.
A day is placed within its era of four centuries by its century, its leap cycle of
four years, its year and its day in the year. In these terms the division by which
the year is found is linear.
-/
namespace Reindexing.Time

/-- A day of an era: its century, its cycle of four years, and its year and day within the cycle. -/
structure Place where
  century : Int
  cycle : Int
  year : Int
  day : Int

namespace Place

/-- Only the last year of a cycle has a day 365, and the last cycle of a century only in the fourth one. -/
structure Valid (p : Place) : Prop where
  century : 0 ≤ p.century ∧ p.century ≤ 3
  cycle : 0 ≤ p.cycle ∧ p.cycle ≤ 24
  year : 0 ≤ p.year ∧ p.year ≤ 3
  day : 0 ≤ p.day ∧ p.day ≤ 365
  leap : p.day = 365 → p.year = 3 ∧ (p.cycle < 24 ∨ p.century = 3)

def dayOfEra (p : Place) : Int := 36524 * p.century + 1461 * p.cycle + 365 * p.year + p.day

def yearOfEra (p : Place) : Int := 100 * p.century + 4 * p.cycle + p.year

variable {p : Place}

theorem exists_of_day {day : Int} (first : 0 ≤ day) (last : day < 146097) :
    ∃ p : Place, p.Valid ∧ p.dayOfEra = day := by
  let century := min (day / 36524) 3
  let inCentury := day - 36524 * century
  have centuries : 0 ≤ century ∧ century ≤ 3 ∧ 0 ≤ inCentury ∧ inCentury ≤ 36524 ∧
      (inCentury = 36524 → century = 3) := by omega
  let cycle := inCentury / 1461
  let inCycle := inCentury % 1461
  have cycles : 0 ≤ cycle ∧ cycle ≤ 24 ∧ 0 ≤ inCycle ∧ inCycle ≤ 1460 ∧
      (inCycle = 1460 → cycle < 24 ∨ century = 3) := by omega
  let year := min (inCycle / 365) 3
  let inYear := inCycle - 365 * year
  have years : 0 ≤ year ∧ year ≤ 3 ∧ 0 ≤ inYear ∧ inYear ≤ 365 ∧
      (inYear = 365 → year = 3 ∧ inCycle = 1460) := by omega
  refine ⟨⟨century, cycle, year, inYear⟩, ⟨?_, ?_, ?_, ?_, ?_⟩, ?_⟩ <;> simp only [dayOfEra] <;> omega

theorem Valid.dayOfEra_bounds (valid : p.Valid) : 0 ≤ p.dayOfEra ∧ p.dayOfEra < 146097 := by
  obtain ⟨_, _, _, _, leap⟩ := valid
  unfold dayOfEra
  omega

/-- The days that centuries lack are counted by the centuries that have passed. -/
theorem Valid.centuries (valid : p.Valid) : p.dayOfEra / 36524 - p.dayOfEra / 146096 = p.century := by
  obtain ⟨_, _, _, _, leap⟩ := valid
  have cases : 1461 * p.cycle + 365 * p.year + p.day < 36524 ∨ p.dayOfEra = 146096 := by
    unfold dayOfEra
    omega
  rcases cases with within | final
  · have century : p.dayOfEra / 36524 = p.century := by
      unfold dayOfEra
      omega
    have era : p.dayOfEra / 146096 = 0 := by
      unfold dayOfEra
      omega
    rw [century, era, Int.sub_zero]
  · rw [final]
    unfold dayOfEra at final
    omega

/-- The leap days are counted by the cycles that have passed, give or take one that the year does not notice. -/
theorem Valid.cycles (valid : p.Valid) :
    p.dayOfEra / 1460 = 25 * p.century + p.cycle ∧ p.day < 365 ∨
      p.dayOfEra / 1460 = 25 * p.century + p.cycle + 1 ∧ 0 < p.day := by
  obtain ⟨_, _, _, _, leap⟩ := valid
  unfold dayOfEra
  omega

theorem Valid.yearOfEra (valid : p.Valid) :
    (p.dayOfEra - p.dayOfEra / 1460 + p.dayOfEra / 36524 - p.dayOfEra / 146096) / 365 = p.yearOfEra := by
  have centuries := valid.centuries
  have cycles := valid.cycles
  have value : p.dayOfEra = 36524 * p.century + 1461 * p.cycle + 365 * p.year + p.day := rfl
  obtain ⟨_, _, _, _, leap⟩ := valid
  simp only [Place.yearOfEra]
  omega

/-- The days before a year of an era. -/
theorem Valid.dayOfYear (valid : p.Valid) :
    p.dayOfEra - (365 * p.yearOfEra + p.yearOfEra / 4 - p.yearOfEra / 100) = p.day := by
  obtain ⟨_, _, _, _, _⟩ := valid
  have fours : p.yearOfEra / 4 = 25 * p.century + p.cycle := by
    simp only [Place.yearOfEra]
    omega
  have hundreds : p.yearOfEra / 100 = p.century := by
    simp only [Place.yearOfEra]
    omega
  rw [fours, hundreds]
  simp only [Place.yearOfEra, dayOfEra]
  omega

theorem Valid.yearOfEra_bounds (valid : p.Valid) : 0 ≤ p.yearOfEra ∧ p.yearOfEra < 400 := by
  obtain ⟨_, _, _, _, _⟩ := valid
  unfold Place.yearOfEra
  omega

/-- The month of a day, counted from March. -/
def shifted (p : Place) : Int := (5 * p.day + 2) / 153

/-- The month of a day, counted from January. -/
def month (p : Place) : Int := if p.shifted < 10 then p.shifted + 3 else p.shifted - 9

/-- The date of a place in an era. January and February belong to the next year. -/
def date (era : Int) (p : Place) : Date :=
  let year := p.yearOfEra + era * 400
  ⟨if p.month ≤ 2 then year + 1 else year, p.month.toNat, (p.day - (153 * p.shifted + 2) / 5 + 1).toNat⟩

theorem Valid.shifted_bounds (valid : p.Valid) : 0 ≤ p.shifted ∧ p.shifted ≤ 11 := by
  obtain ⟨_, _, _, _, _⟩ := valid
  unfold shifted
  omega

/-- The day of the month, counted from zero. -/
theorem Valid.dayOfMonth_bounds (valid : p.Valid) :
    0 ≤ p.day - (153 * p.shifted + 2) / 5 ∧ p.day - (153 * p.shifted + 2) / 5 ≤ 30 := by
  obtain ⟨_, _, _, _, _⟩ := valid
  unfold shifted
  omega

theorem Valid.month_bounds (valid : p.Valid) : 1 ≤ p.month ∧ p.month ≤ 12 := by
  have bounds := valid.shifted_bounds
  unfold month
  split <;> omega

end Place

variable {p : Place}

/-- Every day number is that of a place in an era. -/
theorem exists_place (days : Int) :
    ∃ (era : Int) (p : Place), p.Valid ∧ days = era * 146097 + p.dayOfEra - 719468 := by
  obtain ⟨p, valid, day⟩ := Place.exists_of_day (Int.emod_nonneg (days + 719468) (by decide))
    (Int.emod_lt_of_pos (days + 719468) (by decide))
  exact ⟨(days + 719468) / 146097, p, valid, by omega⟩

theorem ofDays_place (era : Int) (valid : p.Valid) :
    Date.ofDays (era * 146097 + p.dayOfEra - 719468) = p.date era := by
  obtain ⟨first, last⟩ := valid.dayOfEra_bounds
  have whole : (era * 146097 + p.dayOfEra - 719468 + 719468) / 146097 = era := by omega
  have rest : (era * 146097 + p.dayOfEra - 719468 + 719468) % 146097 = p.dayOfEra := by omega
  simp only [Date.ofDays, whole, rest, valid.yearOfEra, valid.dayOfYear]
  rfl

theorem toDays_place (era : Int) (valid : p.Valid) :
    (p.date era).toDays = era * 146097 + p.dayOfEra - 719468 := by
  have bounds := valid.yearOfEra_bounds
  have day := valid.dayOfYear
  have dayOfMonth := valid.dayOfMonth_bounds
  have months := valid.month_bounds
  have early : p.month.toNat ≤ 2 ↔ p.month ≤ 2 := by omega
  have year : (if p.month ≤ 2 then (p.date era).year - 1 else (p.date era).year) = p.yearOfEra + era * 400 := by
    simp only [Place.date]
    split <;> omega
  have month : (if p.month ≤ 2 then (p.month.toNat : Int) + 9 else p.month.toNat - 3) = p.shifted := by
    have bounds := valid.shifted_bounds
    unfold Place.month at *
    split <;> split <;> omega
  have eras : (p.yearOfEra + era * 400) / 400 = era := by omega
  have years : (p.yearOfEra + era * 400) % 400 = p.yearOfEra := by omega
  change Date.toDays ⟨(p.date era).year, p.month.toNat, (p.day - (153 * p.shifted + 2) / 5 + 1).toNat⟩ = _
  simp only [Date.toDays, early, year, month, eras, years]
  omega

/-- The last day of February in a leap year is the only day 365. -/
theorem isLeapYear_of_leap (era : Int) (valid : p.Valid) (leap : p.day = 365) :
    isLeapYear (p.yearOfEra + era * 400 + 1) = true := by
  have cases := valid.leap leap
  obtain ⟨_, _, _, _, _⟩ := valid
  have fourth : (p.yearOfEra + era * 400 + 1) % 4 = 0 := by
    unfold Place.yearOfEra
    omega
  have century : (p.yearOfEra + era * 400 + 1) % 100 ≠ 0 ∨ (p.yearOfEra + era * 400 + 1) % 400 = 0 := by
    unfold Place.yearOfEra
    omega
  rcases century with other | whole
  · simp [isLeapYear, fourth, other]
  · simp [isLeapYear, fourth, whole]

/-- How many days the months other than February have, whatever the year. -/
theorem daysInMonth_month (year : Int) (valid : p.Valid) (other : p.shifted ≠ 11) :
    (daysInMonth year p.month.toNat : Int) = (153 * (p.shifted + 1) + 2) / 5 - (153 * p.shifted + 2) / 5 := by
  obtain ⟨first, last⟩ := valid.shifted_bounds
  unfold Place.month
  obtain ⟨n, eq⟩ := Int.eq_ofNat_of_zero_le first
  have bound : n ≤ 10 := by omega
  rw [eq]
  match n, bound with
  | 0, _ | 1, _ | 2, _ | 3, _ | 4, _ | 5, _ | 6, _ | 7, _ | 8, _ | 9, _ | 10, _ => rfl

theorem day_le_daysInMonth (era : Int) (valid : p.Valid) :
    p.day - (153 * p.shifted + 2) / 5 + 1 ≤ daysInMonth (p.date era).year p.month.toNat := by
  have day := valid.day
  have shifted : p.shifted = (5 * p.day + 2) / 153 := rfl
  by_cases february : p.shifted = 11
  · have month : p.month = 2 := by
      simp [Place.month, february]
    have year : (p.date era).year = p.yearOfEra + era * 400 + 1 := by
      simp [Place.date, month]
    rw [month, year]
    change _ ≤ ((if isLeapYear (p.yearOfEra + era * 400 + 1) then 29 else 28 : Nat) : Int)
    by_cases leap : p.day = 365
    · rw [if_pos (isLeapYear_of_leap era valid leap)]
      omega
    · split <;> omega
  · rw [daysInMonth_month _ valid february]
    omega

theorem isValid_place (era : Int) (valid : p.Valid) : (p.date era).isValid = true := by
  have months := valid.month_bounds
  have days := valid.dayOfMonth_bounds
  have last := day_le_daysInMonth era valid
  simp only [Date.isValid, Bool.and_eq_true, decide_eq_true_eq]
  simp only [Place.date] at last ⊢
  omega

/-- A day number is that of its date. -/
@[simp] theorem toDays_ofDays (days : Int) : (Date.ofDays days).toDays = days := by
  obtain ⟨era, p, valid, rfl⟩ := exists_place days
  rw [ofDays_place era valid, toDays_place era valid]

/-- The date of a day number is on the calendar. -/
theorem isValid_ofDays (days : Int) : (Date.ofDays days).isValid = true := by
  obtain ⟨era, p, valid, rfl⟩ := exists_place days
  rw [ofDays_place era valid]
  exact isValid_place era valid

end Reindexing.Time
