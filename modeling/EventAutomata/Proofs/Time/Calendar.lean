import EventAutomata.Time.Calendar

/-!
# Dates and days

Every count of days is a date that the calendar has, and counting the days to that date gives the
count back. A day of a cycle of 400 years is split into centuries, groups of four years, years and
days (`Split`). The last of the longer groups is where a leap day makes the difference.
-/

namespace EventAutomata.Time

/-- A day of the cycle, as `c` centuries, `q` groups of four years, `y` years and `d` days. Only a
year that ends with a leap day has a day 365. -/
structure Split (day c q y d : Int) : Prop where
  century : 0 ≤ c ∧ c ≤ 3
  quad : 0 ≤ q ∧ q ≤ 24
  year : 0 ≤ y ∧ y ≤ 3
  dayOfYear : 0 ≤ d ∧ d ≤ 365
  sum : day = 36524 * c + 1461 * q + 365 * y + d
  leap : d = 365 → y = 3 ∧ (q = 24 → c = 3)

variable {day c q y d cycle : Int}

theorem splitCycle_eq (hday : 0 ≤ day ∧ day < 146097) :
    ∃ c q y d, splitCycle day = (100 * c + 4 * q + y, d) ∧ Split day c q y d := by
  refine ⟨_, _, _, _, rfl, ?_, ?_, ?_, ?_, ?_, ?_⟩ <;> omega

theorem Split.daysBeforeYear_eq (h : Split day c q y d) (cycle : Int) :
    daysBeforeYear (400 * cycle + (100 * c + 4 * q + y)) =
      146097 * cycle + 36524 * c + 1461 * q + 365 * y - 719468 := by
  obtain ⟨hc, hq, hy, -, -, -⟩ := h
  unfold daysBeforeYear
  omega

/-- The year after one with a day 365 is a leap year: its February is that year's last month. -/
theorem Split.isLeapYear (h : Split day c q y d) (hd : d = 365) (cycle : Int) :
    isLeapYear (400 * cycle + (100 * c + 4 * q + y) + 1) = true := by
  obtain ⟨hc, hq, hy, -, -, hleap⟩ := h
  obtain ⟨rfl, hlast⟩ := hleap hd
  simp only [Time.isLeapYear, Bool.and_eq_true, Bool.or_eq_true, beq_iff_eq, bne_iff_ne]
  omega

/-- The month of a day of a year that begins in March, and how long that month is. -/
theorem month_cases (hd : 0 ≤ d ∧ d ≤ 365) :
    let month := (5 * d + 2) / 153
    let day := d - daysBeforeMonth month + 1
    0 ≤ month ∧ month ≤ 11 ∧ 1 ≤ day ∧ day ≤ 31 ∧
      (month = 1 ∨ month = 3 ∨ month = 6 ∨ month = 8 → day ≤ 30) ∧
      (month = 11 → day ≤ 29 ∧ (day = 29 → d = 365)) := by
  unfold daysBeforeMonth
  omega

theorem Date.ofDays_eq (days : Int) :
    ∃ c q y d, Split ((days + 719468) % 146097) c q y d ∧
      let year := 400 * ((days + 719468) / 146097) + (100 * c + 4 * q + y)
      let month := (5 * d + 2) / 153
      let day := (d - daysBeforeMonth month + 1).toNat
      Date.ofDays days =
        if month < 10 then ⟨year, (month + 3).toNat, day⟩
        else ⟨year + 1, (month - 9).toNat, day⟩ := by
  have hday : 0 ≤ (days + 719468) % 146097 ∧ (days + 719468) % 146097 < 146097 := by omega
  obtain ⟨c, q, y, d, heq, hsplit⟩ := splitCycle_eq hday
  refine ⟨c, q, y, d, hsplit, ?_⟩
  simp only [Date.ofDays, heq]

theorem Date.toDays_ofDays (days : Int) : (Date.ofDays days).toDays = days := by
  obtain ⟨c, q, y, d, hsplit, heq⟩ := Date.ofDays_eq days
  have hyear := hsplit.daysBeforeYear_eq ((days + 719468) / 146097)
  obtain ⟨hlow, hhigh, hday, -⟩ := month_cases hsplit.dayOfYear
  have hsum := hsplit.sum
  rw [heq]
  generalize (5 * d + 2) / 153 = month at hlow hhigh hday ⊢
  split
  next hmonth =>
    have hback : ((month + 3).toNat : Int) - 3 = month := by omega
    rw [Date.toDays, if_neg (by show ¬(month + 3).toNat ≤ 2; omega)]
    dsimp only
    rw [hback, hyear]
    omega
  next hmonth =>
    have hback : ((month - 9).toNat : Int) + 9 = month := by omega
    rw [Date.toDays, if_pos (by show (month - 9).toNat ≤ 2; omega)]
    dsimp only
    rw [hback, Int.add_sub_cancel, hyear]
    omega

theorem Date.valid_ofDays (days : Int) : (Date.ofDays days).Valid := by
  obtain ⟨c, q, y, d, hsplit, heq⟩ := Date.ofDays_eq days
  have hleap := fun hd => hsplit.isLeapYear hd ((days + 719468) / 146097)
  obtain ⟨hlow, hhigh, hfirst, hlast, hshort, hfebruary⟩ := month_cases hsplit.dayOfYear
  rw [heq]
  generalize (5 * d + 2) / 153 = month at *
  split
  next hmonth =>
    refine ⟨by dsimp only; omega, by dsimp only; omega, by dsimp only; omega, ?_⟩
    dsimp only [daysInMonth]
    rw [if_neg (by omega)]
    split <;> omega
  next hmonth =>
    refine ⟨by dsimp only; omega, by dsimp only; omega, by dsimp only; omega, ?_⟩
    dsimp only [daysInMonth]
    split
    next =>
      obtain ⟨hdays, hleapDay⟩ := hfebruary (by omega)
      split
      next => omega
      next hcommon =>
        have hshorter : d - daysBeforeMonth month + 1 ≠ 29 :=
          fun h => hcommon (hleap (hleapDay h))
        omega
    next =>
      rw [if_neg (by omega)]
      omega

end EventAutomata.Time
