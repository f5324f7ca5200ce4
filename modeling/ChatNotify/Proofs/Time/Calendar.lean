import ChatNotify.Time.Calendar

namespace ChatNotify

namespace Date

/-- The date of a day in a year that begins in March. -/
def ofYearDay (year day : Int) : Date :=
  let month := (5 * day + 2) / 153
  { year := if month < 10 then year else year + 1
    month := (if month < 10 then month + 3 else month - 9).toNat
    day := (day - dayOfYear month + 1).toNat }

/-- The parts that a number of days falls into: cycles of four hundred years, centuries, periods of four years, years,
and days of a year that begins in March. The last day of a leap year is the last of a period, and then the period is
not the last of its century, unless the century is the last of its cycle. -/
theorem exists_parts (days : Int) :
    ∃ cycle century period ofPeriod day : Int,
      (0 ≤ century ∧ century ≤ 3) ∧ (0 ≤ period ∧ period ≤ 24) ∧ (0 ≤ ofPeriod ∧ ofPeriod ≤ 3) ∧
      (0 ≤ day ∧ day ≤ 365) ∧ (day = 365 → ofPeriod = 3 ∧ (period = 24 → century = 3)) ∧
      days + daysBeforeEpoch =
        146097 * cycle + 36524 * century + 1461 * period + 365 * ofPeriod + day ∧
      ofDayNumber days = ofYearDay (cycle * 400 + 100 * century + 4 * period + ofPeriod) day := by
  let shifted := days + daysBeforeEpoch
  let inCycle := shifted % cycleDays
  let century := min 3 (inCycle / 36524)
  let inCentury := inCycle - 36524 * century
  let period := min 24 (inCentury / 1461)
  let inPeriod := inCentury - 1461 * period
  let ofPeriod := min 3 (inPeriod / 365)
  have hcycle : shifted = 146097 * (shifted / cycleDays) + inCycle ∧ 0 ≤ inCycle ∧ inCycle < 146097 := by
    simp only [inCycle, cycleDays]
    omega
  have hcentury : (0 ≤ century ∧ century ≤ 3) ∧ 0 ≤ inCentury ∧ inCentury ≤ 36524 ∧
      (inCentury = 36524 → century = 3) := by
    simp only [inCentury, century]
    omega
  have hperiod : (0 ≤ period ∧ period ≤ 24) ∧ 0 ≤ inPeriod ∧ inPeriod ≤ 1460 ∧
      (inPeriod = 1460 → period = 24 → inCentury = 36524) := by
    simp only [inPeriod, period]
    omega
  have hofPeriod : (0 ≤ ofPeriod ∧ ofPeriod ≤ 3) ∧ 0 ≤ inPeriod - 365 * ofPeriod ∧
      inPeriod - 365 * ofPeriod ≤ 365 ∧
      (inPeriod - 365 * ofPeriod = 365 → ofPeriod = 3 ∧ inPeriod = 1460) := by
    simp only [ofPeriod]
    omega
  refine ⟨shifted / cycleDays, century, period, ofPeriod, inPeriod - 365 * ofPeriod, hcentury.1, hperiod.1,
    hofPeriod.1, ⟨hofPeriod.2.1, hofPeriod.2.2.1⟩, ?_, ?_, rfl⟩
  · intro hlast
    obtain ⟨hthird, hend⟩ := hofPeriod.2.2.2 hlast
    exact ⟨hthird, fun hfinal => hcentury.2.2.2 (hperiod.2.2.2 hend hfinal)⟩
  · have hsplit := hcycle.1
    simp only [inPeriod, inCentury] at hsplit ⊢
    omega

/-- The day of a year lies in the month that is computed for it. -/
theorem month_bounds {day : Int} (hlow : 0 ≤ day) (hhigh : day ≤ 365) :
    let month := (5 * day + 2) / 153
    (0 ≤ month ∧ month ≤ 11) ∧ dayOfYear month ≤ day ∧ day < dayOfYear (month + 1) := by
  simp only [dayOfYear]
  omega

/-- A date written for a day of a year is that day of that year. -/
theorem dayNumber_ofYearDay (year : Int) {day : Int} (hlow : 0 ≤ day) (hhigh : day ≤ 365) :
    (ofYearDay year day).dayNumber =
      year / 400 * cycleDays + (365 * (year % 400) + year % 400 / 4 - year % 400 / 100 + day) -
        daysBeforeEpoch := by
  obtain ⟨hmonth, hfirst, -⟩ := month_bounds hlow hhigh
  unfold dayNumber ofYearDay
  generalize (5 * day + 2) / 153 = month at hmonth hfirst
  dsimp only
  have hyear : (if (if month < 10 then month + 3 else month - 9).toNat ≤ 2 then
      (if month < 10 then year else year + 1) - 1 else if month < 10 then year else year + 1) = year := by
    by_cases hlate : month < 10
    · rw [if_pos hlate, if_pos hlate, if_neg (by omega)]
    · rw [if_neg hlate, if_neg hlate, if_pos (by omega)]
      omega
  have hback : (((if month < 10 then month + 3 else month - 9).toNat : Int) + 9) % 12 = month := by
    split <;> omega
  have hday : ((day - dayOfYear month + 1).toNat : Int) = day - dayOfYear month + 1 := by omega
  rw [hyear, hback, hday]
  omega

theorem dayNumber_ofDayNumber (days : Int) : (ofDayNumber days).dayNumber = days := by
  obtain ⟨cycle, century, period, ofPeriod, day, hcentury, hperiod, hofPeriod, hday, -, hsum, hdate⟩ :=
    exists_parts days
  rw [hdate, dayNumber_ofYearDay _ hday.1 hday.2, cycleDays]
  omega

/-- The year that begins in March ends in a leap year if it has 366 days. -/
theorem isLeapYear_of_last_day {cycle century period : Int} (hperiod : 0 ≤ period ∧ period ≤ 24)
    (hlast : period = 24 → century = 3) :
    isLeapYear (cycle * 400 + 100 * century + 4 * period + 3 + 1) = true := by
  simp only [isLeapYear, Bool.and_eq_true, Bool.or_eq_true, decide_eq_true_eq]
  omega

/-- A date written for a day of a year exists, if the year ends in a leap year or the day is not beyond
the end of February. -/
theorem isValid_ofYearDay {year day : Int} (hlow : 0 ≤ day) (hhigh : day ≤ 365)
    (hleap : day = 365 → isLeapYear (year + 1) = true) : (ofYearDay year day).isValid = true := by
  obtain ⟨hmonth, hfirst, hlast⟩ := month_bounds hlow hhigh
  unfold ofYearDay
  generalize (5 * day + 2) / 153 = month at hmonth hfirst hlast
  simp only [dayOfYear] at hfirst hlast ⊢
  have hcases : month = 0 ∨ month = 1 ∨ month = 2 ∨ month = 3 ∨ month = 4 ∨ month = 5 ∨ month = 6 ∨
      month = 7 ∨ month = 8 ∨ month = 9 ∨ month = 10 ∨ month = 11 := by omega
  simp only [isValid, Bool.and_eq_true, decide_eq_true_eq]
  rcases hcases with rfl | rfl | rfl | rfl | rfl | rfl | rfl | rfl | rfl | rfl | rfl | rfl
  case inr.inr.inr.inr.inr.inr.inr.inr.inr.inr.inr =>
    -- February has a day more just when the year needs it.
    change ((1 ≤ 2 ∧ 2 ≤ 12) ∧ 1 ≤ (day - (153 * 11 + 2) / 5 + 1).toNat) ∧
      (day - (153 * 11 + 2) / 5 + 1).toNat ≤ if isLeapYear (year + 1) = true then 29 else 28
    by_cases hend : day = 365
    · rw [if_pos (hleap hend)]
      omega
    · split <;> omega
  all_goals
    simp [monthLength]
    omega

theorem isValid_ofDayNumber (days : Int) : (ofDayNumber days).isValid = true := by
  obtain ⟨cycle, century, period, ofPeriod, day, -, hperiod, -, hday, hend, -, hdate⟩ := exists_parts days
  rw [hdate]
  refine isValid_ofYearDay hday.1 hday.2 fun hlast => ?_
  obtain ⟨rfl, hfinal⟩ := hend hlast
  exact isLeapYear_of_last_day hperiod hfinal

theorem year_ofYearDay (year : Int) {day : Int} (hlow : 0 ≤ day) (hhigh : day ≤ 365) :
    (ofYearDay year day).year = if day < 306 then year else year + 1 := by
  have hmonth : (5 * day + 2) / 153 < 10 ↔ day < 306 := by omega
  simp only [ofYearDay, hmonth]

/-- The days of the years from -9999 to 9999. -/
theorem year_mem_calendar_iff (days : Int) :
    -9999 ≤ (ofDayNumber days).year ∧ (ofDayNumber days).year ≤ 9999 ↔ -4371587 ≤ days ∧ days < 2932897 := by
  obtain ⟨cycle, century, period, ofPeriod, day, hcentury, hperiod, hofPeriod, hday, hlast, hsum, hdate⟩ :=
    exists_parts days
  rw [hdate, year_ofYearDay _ hday.1 hday.2]
  simp only [daysBeforeEpoch] at hsum
  split <;> omega

theorem monthLength_le (year : Int) (month : Nat) : monthLength year month ≤ 31 := by
  unfold monthLength
  split
  · split <;> decide
  all_goals decide

end Date

namespace TimeOfDay

theorem isValid_ofNanos {nanos : Nat} (hlt : nanos < nanosPerDay) : (ofNanos nanos).isValid = true := by
  simp only [nanosPerDay, nanosPerSecond] at hlt
  unfold isValid ofNanos nanosPerSecond
  simp
  omega

theorem nanosOfDay_ofNanos (nanos : Nat) : (ofNanos nanos).nanosOfDay = nanos := by
  simp only [nanosOfDay, ofNanos, nanosPerSecond]
  omega

end TimeOfDay

namespace Instant

theorem toNat_emod_nanosPerDay (nanos : Int) : ((nanos % nanosPerDay).toNat : Int) = nanos % nanosPerDay :=
  Int.toNat_of_nonneg (Int.emod_nonneg nanos (by decide))

theorem isValid_date (instant : Instant) : instant.date.isValid = true :=
  Date.isValid_ofDayNumber _

theorem isValid_timeOfDay (instant : Instant) : instant.timeOfDay.isValid = true := by
  refine TimeOfDay.isValid_ofNanos ?_
  have hlt : instant.nanos % nanosPerDay < nanosPerDay := Int.emod_lt_of_pos _ (by decide)
  have hnat := toNat_emod_nanosPerDay instant.nanos
  omega

/-- An instant is the time of day on the date that it shows. -/
theorem ofDateTime_date_timeOfDay (instant : Instant) : ofDateTime instant.date instant.timeOfDay = instant := by
  refine congrArg mk (Eq.trans ?_ (Int.ediv_mul_add_emod instant.nanos nanosPerDay))
  rw [date, timeOfDay, Date.dayNumber_ofDayNumber, TimeOfDay.nanosOfDay_ofNanos, toNat_emod_nanosPerDay]

theorem isInCalendar_iff (instant : Instant) : instant.isInCalendar = true ↔
    -4371587 * (nanosPerDay : Int) ≤ instant.nanos ∧ instant.nanos < 2932897 * (nanosPerDay : Int) := by
  rw [isInCalendar, Bool.and_eq_true, decide_eq_true_eq, decide_eq_true_eq, date, Date.year_mem_calendar_iff]
  simp only [nanosPerDay, nanosPerSecond]
  omega

end Instant

end ChatNotify
