import RunWatch.Time.Calendar

/-!
# Dates and numbers of days

A number of days and its date determine each other: `Date.toDays_ofDays`, and the date exists
(`Date.isValid_ofDays`).
-/

namespace RunWatch

namespace Date

/-- The parts of a number of days since the first of March of the year 0: periods of 400, 100 and 4
years, years and days. Only the last year of a period has a day more, the leap day. -/
structure Counted (n era century cycle year day : Int) : Prop where
  sum_eq : n = 146097 * era + 36524 * century + 1461 * cycle + 365 * year + day
  century_range : 0 ≤ century ∧ century ≤ 3
  cycle_range : 0 ≤ cycle ∧ cycle ≤ 24
  year_range : 0 ≤ year ∧ year ≤ 3
  day_range : 0 ≤ day ∧ day ≤ 365
  of_leap : day = 365 → year = 3 ∧ (cycle = 24 → century = 3)

theorem counted (n : Int) :
    let inEra := n % 146097
    let century := min 3 (inEra / 36524)
    let inCentury := inEra - 36524 * century
    let cycle := inCentury / 1461
    let inCycle := inCentury % 1461
    let year := min 3 (inCycle / 365)
    Counted n (n / 146097) century cycle year (inCycle - 365 * year) := by
  intro inEra century inCentury cycle inCycle year
  have hera : 0 ≤ inEra ∧ inEra < 146097 := by omega
  have hcentury : 0 ≤ century ∧ century ≤ 3 := by omega
  have hinCentury : 0 ≤ inCentury ∧ inCentury ≤ 36524 ∧ (inCentury = 36524 → century = 3) := by
    omega
  have hcycle : 0 ≤ cycle ∧ cycle ≤ 24 := by omega
  have hinCycle : 0 ≤ inCycle ∧ inCycle ≤ 1460 := by omega
  have hyear : 0 ≤ year ∧ year ≤ 3 := by omega
  exact ⟨by omega, hcentury, hcycle, hyear, by omega, fun h => ⟨by omega, by omega⟩⟩

/-- The date of a day of a year that starts at the first of March. -/
def ofMarch (year day : Int) : Date :=
  let month := (5 * day + 2) / 153
  { year := if month < 10 then year else year + 1
    month := (if month < 10 then month + 3 else month - 9).toNat
    day := (day - (153 * month + 2) / 5 + 1).toNat }

theorem exists_ofDays (days : Int) : ∃ era century cycle year day,
    Counted (days + epochOffset) era century cycle year day ∧
      ofDays days = ofMarch (400 * era + 100 * century + 4 * cycle + year) day :=
  ⟨_, _, _, _, _, counted (days + epochOffset), rfl⟩

/-- The months from March on: which ones lie before the new year, and where each one starts. -/
theorem month_ofMarch (year : Int) {day : Int} (h : 0 ≤ day ∧ day ≤ 365) :
    ∃ month : Int, 0 ≤ month ∧ month ≤ 11 ∧ (153 * month + 2) / 5 ≤ day ∧
      day < (153 * (month + 1) + 2) / 5 ∧
      ofMarch year day = ⟨if month < 10 then year else year + 1,
        (if month < 10 then month + 3 else month - 9).toNat,
        (day - (153 * month + 2) / 5 + 1).toNat⟩ :=
  ⟨(5 * day + 2) / 153, by omega, by omega, by omega, by omega, rfl⟩

theorem toDays_ofMarch {year day : Int} (h : 0 ≤ day ∧ day ≤ 365) :
    toDays (ofMarch year day) = 365 * year + year / 4 - year / 100 + year / 400 + day -
      epochOffset := by
  obtain ⟨month, hleast, hmost, hstart, -, heq⟩ := month_ofMarch year h
  have hday : (((day - (153 * month + 2) / 5 + 1).toNat : Nat) : Int) =
      day - (153 * month + 2) / 5 + 1 := by omega
  rw [heq, toDays]
  simp only [hday]
  by_cases hm : month < 10
  · have hmonth : ¬ (month + 3).toNat ≤ 2 := by omega
    have hcast : (((month + 3).toNat : Nat) : Int) - 3 = month := by omega
    simp only [if_pos hm, if_neg hmonth, hcast]
    omega
  · have hmonth : (month - 9).toNat ≤ 2 := by omega
    have hcast : (((month - 9).toNat : Nat) : Int) + 9 = month := by omega
    simp only [if_neg hm, if_pos hmonth, hcast]
    rw [Int.add_sub_cancel]
    omega

/-- The date of a number of days has this number of days. -/
theorem toDays_ofDays (days : Int) : toDays (ofDays days) = days := by
  obtain ⟨era, century, cycle, year, day, hcounted, heq⟩ := exists_ofDays days
  obtain ⟨hsum, hcentury, hcycle, hyear, hday, -⟩ := hcounted
  have hfour : (400 * era + 100 * century + 4 * cycle + year) / 4 =
      100 * era + 25 * century + cycle := by omega
  have hhundred : (400 * era + 100 * century + 4 * cycle + year) / 100 = 4 * era + century := by
    omega
  have hall : (400 * era + 100 * century + 4 * cycle + year) / 400 = era := by omega
  rw [heq, toDays_ofMarch hday, hfour, hhundred, hall]
  omega

example : ofDays 19782 = ⟨2024, 2, 29⟩ ∧ toDays ⟨2024, 2, 29⟩ = 19782 := by decide

theorem isLeapYear_iff (year : Int) :
    isLeapYear year = true ↔ year % 4 = 0 ∧ (year % 100 ≠ 0 ∨ year % 400 = 0) := by
  simp [isLeapYear]

theorem isValid_ofMarch {year day : Int} (h : 0 ≤ day ∧ day ≤ 365)
    (hleap : day = 365 → isLeapYear (year + 1) = true) : (ofMarch year day).IsValid := by
  obtain ⟨month, hleast, hmost, hstart, hend, heq⟩ := month_ofMarch year h
  rw [heq]
  have hcases : month = 0 ∨ month = 1 ∨ month = 2 ∨ month = 3 ∨ month = 4 ∨ month = 5 ∨ month = 6 ∨
      month = 7 ∨ month = 8 ∨ month = 9 ∨ month = 10 ∨ month = 11 := by omega
  rcases hcases with rfl | rfl | rfl | rfl | rfl | rfl | rfl | rfl | rfl | rfl | rfl | rfl
  all_goals simp [IsValid, daysInMonth]
  all_goals try omega
  -- Only the length of February depends on the year.
  by_cases hlast : day = 365
  · simp [hleap hlast]
    omega
  · split <;> omega

/-- The date of a number of days exists. -/
theorem isValid_ofDays (days : Int) : (ofDays days).IsValid := by
  obtain ⟨era, century, cycle, year, day, hcounted, heq⟩ := exists_ofDays days
  obtain ⟨-, hcentury, hcycle, hyear, hday, hleap⟩ := hcounted
  rw [heq]
  refine isValid_ofMarch hday fun hlast => ?_
  obtain ⟨hthree, hcycle'⟩ := hleap hlast
  rw [isLeapYear_iff]
  omega

end Date
end RunWatch
