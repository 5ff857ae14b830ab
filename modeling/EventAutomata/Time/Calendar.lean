/-!
# The civil calendar

Dates of the Gregorian calendar, carried on without end in both directions; the
year before year 1 is year 0. A date is turned into a count of days from
1970-01-01 and back.

Days are counted in years that begin on the first of March, so that the leap day
is the last day of its year. Four hundred years hold 146097 days; a century of
them 36524, four years 1461, a year 365, and in each case the last of the group
may be a day longer.
-/

namespace EventAutomata.Time

@[ext]
structure Date where
  year : Int
  month : Nat
  day : Nat
  deriving DecidableEq, Repr

def isLeapYear (year : Int) : Bool := year % 4 == 0 && (year % 100 != 0 || year % 400 == 0)

def daysInMonth (year : Int) (month : Nat) : Nat :=
  if month = 2 then (if isLeapYear year then 29 else 28)
  else if month = 4 ∨ month = 6 ∨ month = 9 ∨ month = 11 then 30
  else 31

def Date.Valid (d : Date) : Prop :=
  1 ≤ d.month ∧ d.month ≤ 12 ∧ 1 ≤ d.day ∧ d.day ≤ daysInMonth d.year d.month

instance (d : Date) : Decidable d.Valid := by
  unfold Date.Valid
  infer_instance

/-- Days before the month, in a year that begins in March; March is month 0. -/
def daysBeforeMonth (month : Int) : Int := (153 * month + 2) / 5

def daysBeforeYear (year : Int) : Int :=
  365 * year + year / 4 - year / 100 + year / 400 - 719468

def Date.toDays (d : Date) : Int :=
  if d.month ≤ 2 then daysBeforeYear (d.year - 1) + daysBeforeMonth (d.month + 9) + d.day - 1
  else daysBeforeYear d.year + daysBeforeMonth (d.month - 3) + d.day - 1

/-- The year of a day in a cycle of 400 years, and the day in that year. -/
def splitCycle (day : Int) : Int × Int :=
  let century := min 3 (day / 36524)
  let inCentury := day - 36524 * century
  let quad := inCentury / 1461
  let inQuad := inCentury - 1461 * quad
  let year := min 3 (inQuad / 365)
  (100 * century + 4 * quad + year, inQuad - 365 * year)

def Date.ofDays (days : Int) : Date :=
  let shifted := days + 719468
  let (yearInCycle, dayOfYear) := splitCycle (shifted % 146097)
  let year := 400 * (shifted / 146097) + yearInCycle
  let month := (5 * dayOfYear + 2) / 153
  let day := (dayOfYear - daysBeforeMonth month + 1).toNat
  if month < 10 then ⟨year, (month + 3).toNat, day⟩ else ⟨year + 1, (month - 9).toNat, day⟩

end EventAutomata.Time
