import Harvester.Instant.Calendar
namespace Harvester.Date

-- Days and years of one era of 400 years, both counted from its first of March.
section Era

-- The day on which a year begins. The leap days behind it are not counted yet: they end the years, not begin them.
def yearStart (year : Int) : Int := 365 * year + year / 4 - year / 100 + year / 400

def yearOfEra (day : Int) : Int := (day - day / 1460 + day / 36524 - day / 146096) / 365

variable {day : Int} (first : 0 ≤ day) (last : day < 146097)
include first last

theorem yearOfEra_range : 0 ≤ yearOfEra day ∧ yearOfEra day ≤ 399 := by
  unfold yearOfEra
  omega

-- The correction by centuries is what the year itself would give.
theorem century_yearOfEra : day / 36524 - day / 146096 = yearOfEra day / 100 := by
  unfold yearOfEra
  obtain century | century | century | century : day / 36524 - day / 146096 = 0 ∨ day / 36524 - day / 146096 = 1 ∨
      day / 36524 - day / 146096 = 2 ∨ day / 36524 - day / 146096 = 3 := by omega
  all_goals omega

theorem yearStart_le : yearStart (yearOfEra day) ≤ day := by
  have century := century_yearOfEra first last
  have range := yearOfEra_range first last
  have eras : yearOfEra day / 400 = 0 := by omega
  unfold yearStart
  unfold yearOfEra at *
  omega

-- The next year has not begun. At the turn of a century the leap day may be missing, so these years stand apart.
theorem lt_yearStart : day < yearStart (yearOfEra day + 1) := by
  have century := century_yearOfEra first last
  have range := yearOfEra_range first last
  unfold yearStart
  generalize same : yearOfEra day = year at *
  unfold yearOfEra at same
  by_cases turn : year % 100 = 99
  · obtain rfl | rfl | rfl | rfl : year = 99 ∨ year = 199 ∨ year = 299 ∨ year = 399 := by omega
    all_goals omega
  · have centuries : (year + 1) / 100 = year / 100 := by omega
    have eras : (year + 1) / 400 = 0 := by omega
    by_cases fourth : year % 4 = 3
    · have fourths : (year + 1) / 4 = year / 4 + 1 := by omega
      omega
    · have fourths : (year + 1) / 4 = year / 4 := by omega
      omega

end Era

theorem yearStart_of_era {year : Int} (inEra : 0 ≤ year ∧ year ≤ 399) :
    yearStart year = 365 * year + year / 4 - year / 100 := by
  have eras : year / 400 = 0 := by omega
  rw [yearStart, eras, Int.add_zero]

-- A year has its leap day at its end, in the calendar year that begins with its month of January.
theorem yearStart_succ (year : Int) :
    yearStart (year + 1) = yearStart year + if isLeap (year + 1) then 366 else 365 := by
  have leap : isLeap (year + 1) = true ↔ (year + 1) % 4 = 0 ∧ ((year + 1) % 100 ≠ 0 ∨ (year + 1) % 400 = 0) := by
    simp [isLeap]
  unfold yearStart
  split
  · have known := leap.mp ‹_›
    omega
  · have known := mt leap.mpr ‹_›
    omega

-- Months run from March too, from 0. The day on which a month begins, within its year.
def monthStart (month : Int) : Int := (153 * month + 2) / 5

def monthOfYear (day : Int) : Int := (5 * day + 2) / 153

theorem monthOfYear_parts {day : Int} (inYear : 0 ≤ day ∧ day ≤ 365) : (0 ≤ monthOfYear day ∧ monthOfYear day ≤ 11) ∧
    monthStart (monthOfYear day) ≤ day ∧ day < monthStart (monthOfYear day + 1) := by
  unfold monthStart monthOfYear
  omega

-- The date of a day of a month of a year of an era, all of them counted from 0.
def ofMarch (era year month day : Int) : Date :=
  let calendarMonth := if month < 10 then month + 3 else month - 9
  ⟨year + era * 400 + (if calendarMonth ≤ 2 then 1 else 0), calendarMonth.toNat, (day + 1).toNat⟩

theorem toDays_ofMarch {era year month day : Int} (inEra : 0 ≤ year ∧ year ≤ 399) (inYear : 0 ≤ month ∧ month ≤ 11)
    (counted : 0 ≤ day) : toDays (ofMarch era year month day) =
      era * 146097 + (yearStart year + (monthStart month + day)) - 719468 := by
  rw [yearStart_of_era inEra]
  simp only [toDays, ofMarch, monthStart]
  by_cases later : month < 10
  · have calendar : ¬(month + 3).toNat ≤ 2 := by omega
    have back : (((month + 3).toNat : Int) + 9) % 12 = month := by omega
    simp only [later, if_true, calendar, if_false, back]
    omega
  · have calendar : (month - 9).toNat ≤ 2 := by omega
    have back : (((month - 9).toNat : Int) + 9) % 12 = month := by omega
    simp only [later, if_true, calendar, if_false, back]
    omega

theorem isLeap_era (era year : Int) : isLeap (year + era * 400) = isLeap year := by
  have fourth : (year + era * 400) % 4 = year % 4 := by omega
  have century : (year + era * 400) % 100 = year % 100 := by omega
  have whole : (year + era * 400) % 400 = year % 400 := by omega
  simp [isLeap, fourth, century, whole]

theorem ofMarch_isDate {era year month day : Int} (inYear : 0 ≤ month ∧ month ≤ 11) (counted : 0 ≤ day)
    (inMonth : monthStart month + day < monthStart (month + 1))
    (ends : yearStart year + (monthStart month + day) < yearStart (year + 1))
    (first : firstYear ≤ (ofMarch era year month day).year) (last : (ofMarch era year month day).year ≤ lastYear) :
    (ofMarch era year month day).IsDate := by
  refine ⟨first, last, ?_⟩
  rw [yearStart_succ] at ends
  obtain february | other : month = 11 ∨ month ≤ 10 := by omega
  · subst february
    have calendar : (ofMarch era year 11 day).year = year + 1 + era * 400 := by
      simp only [ofMarch]
      omega
    have begun : monthStart 11 = 337 := rfl
    rw [begun] at ends
    rw [calendar]
    simp only [ofMarch, monthLength, isLeap_era]
    split at ends
    · rename_i leap
      simp [leap]
      omega
    · rename_i common
      simp [common]
      omega
  · obtain rfl | rfl | rfl | rfl | rfl | rfl | rfl | rfl | rfl | rfl | rfl : month = 0 ∨ month = 1 ∨ month = 2 ∨
      month = 3 ∨ month = 4 ∨ month = 5 ∨ month = 6 ∨ month = 7 ∨ month = 8 ∨ month = 9 ∨ month = 10 := by omega
    all_goals
      simp [ofMarch, monthLength, monthStart] at inMonth ⊢
      omega

-- Every day is a day of a month of a year of an era.
theorem ofDays_parts (days : Int) : ∃ era year month day, (0 ≤ year ∧ year ≤ 399) ∧ (0 ≤ month ∧ month ≤ 11) ∧
    0 ≤ day ∧ monthStart month + day < monthStart (month + 1) ∧
    yearStart year + (monthStart month + day) < yearStart (year + 1) ∧
    era * 146097 + (yearStart year + (monthStart month + day)) - 719468 = days ∧
    ofDays days = ofMarch era year month day := by
  have first : 0 ≤ (days + 719468) % 146097 := by omega
  have last : (days + 719468) % 146097 < 146097 := by omega
  have whole : (days + 719468) / 146097 * 146097 + (days + 719468) % 146097 = days + 719468 := by omega
  have shape : ofDays days =
      let day := (days + 719468) % 146097
      let year := yearOfEra day
      let ofYear := day - (365 * year + year / 4 - year / 100)
      ofMarch ((days + 719468) / 146097) year (monthOfYear ofYear) (ofYear - monthStart (monthOfYear ofYear)) := rfl
  rw [shape]
  dsimp only
  generalize (days + 719468) % 146097 = day at *
  have range := yearOfEra_range first last
  have starts := yearStart_le first last
  have ends := lt_yearStart first last
  rw [← yearStart_of_era range]
  have length := yearStart_succ (yearOfEra day)
  have inYear : 0 ≤ day - yearStart (yearOfEra day) ∧ day - yearStart (yearOfEra day) ≤ 365 := by
    split at length <;> omega
  obtain ⟨months, begun, inMonth⟩ := monthOfYear_parts inYear
  exact ⟨_, _, _, _, range, months, by omega, by omega, by omega, by omega, rfl⟩

-- A day is found again from its date.
theorem toDays_ofDays (days : Int) : toDays (ofDays days) = days := by
  obtain ⟨era, year, month, day, inEra, inYear, counted, _, _, whole, shown⟩ := ofDays_parts days
  rw [shown, toDays_ofMarch inEra inYear counted, whole]

theorem ofDays_isDate {days : Int} (first : firstYear ≤ (ofDays days).year) (last : (ofDays days).year ≤ lastYear) :
    (ofDays days).IsDate := by
  obtain ⟨era, year, month, day, _, inYear, counted, inMonth, ends, _, shown⟩ := ofDays_parts days
  rw [shown] at first last ⊢
  exact ofMarch_isDate inYear counted inMonth ends first last

end Harvester.Date
