import Mathlib.Tactic.IntervalCases
import TaskWatch.Calendar

/-!
# Days and dates

The date of a day is a day of the calendar (`isValid_ofDays`), and its number is the day's again
(`toDays_ofDays`). A day is in a year or a later one exactly when it does not come before the first
of January of that year (`le_year_iff`).

A day is split into its era, the year of the era and the day of that year, counted from March
(`exists_ofDays_eq`). Only a leap year has a day 365: it is the fourth year of a span, and if the
span is the last of a century, the century is the last of an era.
-/

namespace TaskWatch.Date

/-! ## The parts of a day -/

/-- The date of a day of a year, with the year counted from the start of an era and starting in
March. -/
def ofParts (era : Int) (year day : Nat) : Date :=
  let month := (5 * day + 2) / 153
  if month < 10 then ⟨400 * era + year, month + 3, day - daysBeforeMonth month + 1⟩
  else ⟨400 * era + year + 1, month - 9, day - daysBeforeMonth month + 1⟩

theorem exists_century {inEra : Nat} (h : inEra < 146097) :
    ∃ century inCentury, min (inEra / 36524) 3 = century ∧
      inEra - 36524 * century = inCentury ∧ inEra = 36524 * century + inCentury ∧ century ≤ 3 ∧
      inCentury ≤ 36524 ∧ (inCentury = 36524 → century = 3) :=
  ⟨_, _, rfl, rfl, by omega, by omega, by omega, by omega⟩

theorem exists_span {inCentury : Nat} (h : inCentury ≤ 36524) :
    ∃ span inSpan, inCentury / 1461 = span ∧ inCentury - 1461 * span = inSpan ∧
      inCentury = 1461 * span + inSpan ∧ span ≤ 24 ∧ inSpan ≤ 1460 ∧
      (span = 24 → inSpan = 1460 → inCentury = 36524) :=
  ⟨_, _, rfl, rfl, by omega, by omega, by omega, by omega⟩

theorem exists_year {inSpan : Nat} (h : inSpan ≤ 1460) :
    ∃ year inYear, min (inSpan / 365) 3 = year ∧ inSpan - 365 * year = inYear ∧
      inSpan = 365 * year + inYear ∧ year ≤ 3 ∧ inYear ≤ 365 ∧
      (inYear = 365 → year = 3 ∧ inSpan = 1460) :=
  ⟨_, _, rfl, rfl, by omega, by omega, by omega, by omega⟩

theorem exists_ofDays_eq (n : Int) :
    ∃ (era : Int) (century span year day : Nat),
      ofDays n = ofParts era (100 * century + 4 * span + year) day ∧
      n + epochDay = eraLength * era + (36524 * century + 1461 * span + 365 * year + day : Nat) ∧
      century ≤ 3 ∧ span ≤ 24 ∧ year ≤ 3 ∧ day ≤ 365 ∧
      (day = 365 → year = 3 ∧ (span = 24 → century = 3)) := by
  have hera : ((n + epochDay) % eraLength).toNat < 146097 := by
    rw [eraLength]
    omega
  obtain ⟨century, inCentury, hcentury, hinCentury, hsum₁, hle₁, hmax₁, hlast₁⟩ :=
    exists_century hera
  obtain ⟨span, inSpan, hspan, hinSpan, hsum₂, hle₂, hmax₂, hlast₂⟩ := exists_span hmax₁
  obtain ⟨year, day, hyear, hday, hsum₃, hle₃, hmax₃, hlast₃⟩ := exists_year hmax₂
  refine ⟨(n + epochDay) / eraLength, century, span, year, day, ?_, ?_, hle₁, hle₂, hle₃, hmax₃, ?_⟩
  · simp only [ofDays, ofParts, hcentury, hinCentury, hspan, hinSpan, hyear, hday]
  · rw [eraLength] at hsum₁ ⊢
    omega
  · intro h
    obtain ⟨hyear, hinSpan⟩ := hlast₃ h
    exact ⟨hyear, fun hspan => hlast₁ (hlast₂ hspan hinSpan)⟩

/-! ## The date and the number -/

theorem daysBeforeMonth_le (day : Nat) : daysBeforeMonth ((5 * day + 2) / 153) ≤ day := by
  rw [daysBeforeMonth]
  omega

theorem toDays_ofParts (era : Int) {year day : Nat} (hyear : year < 400) (hday : day ≤ 365) :
    toDays (ofParts era year day) =
      eraLength * era + (365 * year + year / 4 - year / 100 + day : Nat) - epochDay := by
  have hle := daysBeforeMonth_le day
  have hmonth : (5 * day + 2) / 153 ≤ 11 := by omega
  rw [ofParts]
  generalize (5 * day + 2) / 153 = month at *
  split
  · next h =>
    have hlate : ¬month + 3 ≤ 2 := by omega
    have hin : ((400 * era + year) % 400).toNat = year := by omega
    have hera : (400 * era + (year : Int)) / 400 = era := by omega
    simp only [toDays, if_neg hlate, hin, hera, Nat.add_sub_cancel]
    omega
  · next h =>
    have hearly : month - 9 ≤ 2 := by omega
    have hin : ((400 * era + year + 1 - 1) % 400).toNat = year := by omega
    have hera : (400 * era + (year : Int) + 1 - 1) / 400 = era := by omega
    have hback : month - 9 + 9 = month := by omega
    simp only [toDays, if_pos hearly, hin, hera, hback, Nat.add_sub_cancel]
    omega

/-- The number of the date of a day is the day. -/
theorem toDays_ofDays (n : Int) : toDays (ofDays n) = n := by
  obtain ⟨era, century, span, year, day, hdate, hn, hcentury, hspan, hyear, hday, -⟩ :=
    exists_ofDays_eq n
  rw [hdate, toDays_ofParts era (by omega) hday]
  omega

/-! ## The days of a month -/

theorem isLeap_next (era : Int) {century span year : Nat} (hspan : span ≤ 24) (hyear : year = 3)
    (hlast : span = 24 → century = 3) :
    isLeap (400 * era + (100 * century + 4 * span + year : Nat) + 1) = true := by
  subst hyear
  rw [isLeap, decide_eq_true_iff]
  by_cases h : span = 24
  · have := hlast h
    omega
  · omega

theorem isValid_ofParts (era : Int) {year day : Nat} (hday : day ≤ 365)
    (hleap : day = 365 → isLeap (400 * era + year + 1) = true) :
    (ofParts era year day).isValid = true := by
  have hlow : 153 * ((5 * day + 2) / 153) ≤ 5 * day + 2 := by omega
  have hhigh : 5 * day + 2 < 153 * ((5 * day + 2) / 153) + 153 := by omega
  have hmonth : (5 * day + 2) / 153 ≤ 11 := by omega
  rw [ofParts]
  generalize (5 * day + 2) / 153 = month at *
  interval_cases month
  -- February is the last month; the others are as long in every year
  case «11» =>
    by_cases h : day = 365
    · subst h
      simp [isValid, monthLength, daysBeforeMonth, hleap rfl]
    · have hlength : 28 ≤ monthLength (400 * era + year + 1) 2 := by
        rw [monthLength]
        split <;> omega
      simp [isValid, daysBeforeMonth]
      omega
  all_goals
    simp [isValid, monthLength, daysBeforeMonth]
    omega

/-- The date of a day is a day of the calendar. -/
theorem isValid_ofDays (n : Int) : (ofDays n).isValid = true := by
  obtain ⟨era, century, span, year, day, hdate, -, hcentury, hspan, hyear, hday, hlast⟩ :=
    exists_ofDays_eq n
  rw [hdate]
  exact isValid_ofParts era hday fun h => isLeap_next era hspan (hlast h).1 (hlast h).2

theorem le_of_isValid {d : Date} (h : d.isValid = true) : d.month ≤ 12 ∧ d.day ≤ 31 := by
  obtain ⟨hone, hlength⟩ := of_decide_eq_true h
  unfold monthLength at hlength
  split at hlength
  case h_12 => split at hlength <;> omega
  all_goals omega

/-! ## The days of a year -/

/-- The days from the first of March of year zero to the first of March of a year. -/
def daysBeforeYear (year : Int) : Int := 365 * year + year / 4 - year / 100 + year / 400

theorem daysBeforeYear_add_le {year year' : Int} (h : year < year') :
    daysBeforeYear year + 365 ≤ daysBeforeYear year' := by
  simp only [daysBeforeYear]
  omega

/-- A day lies in a year that starts in March, and from its day 306 on the date is in the next. -/
theorem exists_year_ofDays (n : Int) :
    ∃ (year : Int) (day : Nat), n + epochDay = daysBeforeYear year + day ∧
      daysBeforeYear year + day < daysBeforeYear (year + 1) ∧
      (ofDays n).year = if day < 306 then year else year + 1 := by
  obtain ⟨era, century, span, year, day, hdate, hn, hcentury, hspan, hyear, hday, hlast⟩ :=
    exists_ofDays_eq n
  refine ⟨400 * era + (100 * century + 4 * span + year : Nat), day, ?_, ?_, ?_⟩
  · simp only [daysBeforeYear, eraLength] at hn ⊢
    omega
  · simp only [daysBeforeYear]
    by_cases h : day = 365
    · obtain ⟨hthird, hcenturies⟩ := hlast h
      by_cases hspans : span = 24
      · have := hcenturies hspans
        omega
      · omega
    · omega
  · have hmonth : (5 * day + 2) / 153 < 10 ↔ day < 306 := by omega
    rw [hdate, ofParts]
    simp only [hmonth]
    split <;> rfl

theorem toDays_newYear (year : Int) :
    toDays ⟨year, 1, 1⟩ = daysBeforeYear (year - 1) + 306 - epochDay := by
  have hmonth : daysBeforeMonth 10 = 306 := rfl
  simp only [toDays, daysBeforeYear, eraLength, Nat.reduceLeDiff, if_true, Nat.reduceAdd, hmonth,
    Nat.sub_self, Nat.add_zero]
  omega

/-- The year of a day is told by the first days of January. -/
theorem le_year_iff (year n : Int) : year ≤ (ofDays n).year ↔ toDays ⟨year, 1, 1⟩ ≤ n := by
  obtain ⟨march, day, hn, hday, hyear⟩ := exists_year_ofDays n
  rw [toDays_newYear, hyear]
  rcases Int.lt_trichotomy (year - 1) march with h | h | h
  · have hle := daysBeforeYear_add_le h
    split <;> omega
  · rw [h]
    split <;> omega
  · have hle : daysBeforeYear (march + 1) ≤ daysBeforeYear (year - 1) := by
      rcases Int.lt_or_eq_of_le (Int.add_one_le_of_lt h) with hlt | heq
      · have := daysBeforeYear_add_le hlt
        omega
      · rw [heq]
    split <;> omega

end TaskWatch.Date
