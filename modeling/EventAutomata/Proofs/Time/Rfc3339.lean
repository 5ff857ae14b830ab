import EventAutomata.Proofs.Time.Calendar
import EventAutomata.Time.Rfc3339
import Mathlib.Algebra.Group.Nat.Defs

/-!
# Timestamps are read back as they were written

Each part of a written timestamp is read off the front of the text, whatever follows, as long as
what follows does not go on with the part: a run of digits ends at a mark. The years of the
calendar go below 0 and above 9999, where the writer puts a sign, and the fraction is written with
as few digits as lose nothing (`read?_write`).
-/

namespace EventAutomata.Text

theorem isBlank_of_visible {c : Char} (h : 0x20 < c.toNat ∧ c.toNat < 0x85) : isBlank c = false := by
  simp only [isBlank, blankRanges, Ranges.holds, Ranges.among]
  simp only [Bool.and_eq_false_imp, Bool.or_eq_false_iff, decide_eq_true_eq, decide_eq_false_iff_not]
  omega

theorem isBlank_of_isDigit {c : Char} (h : c.isDigit = true) : isBlank c = false := by
  obtain ⟨hlow, hhigh⟩ := Char.isDigit_iff_toNat.1 h
  change 48 ≤ c.toNat at hlow
  change c.toNat ≤ 57 at hhigh
  exact isBlank_of_visible (by omega)

theorem skipBlanks_cons {c : Char} (hc : isBlank c = false) (cs : List Char) :
    skipBlanks (c :: cs) = c :: cs := by
  simp [skipBlanks, hc]

theorem padded_eq_cons (width n : Nat) : ∃ d ds, padded width n = d :: ds ∧ d.isDigit = true := by
  cases h : padded width n with
  | nil => exact absurd (List.append_eq_nil_iff.1 h).2 (digits_ne_nil n)
  | cons d ds => exact ⟨d, ds, rfl, isDigit_of_mem_padded (h ▸ List.mem_cons_self)⟩

theorem length_padded_of_lt {width n : Nat} (hw : 0 < width) (h : n < 10 ^ width) :
    (padded width n).length = width :=
  length_padded ((Nat.length_toDigits_le_iff (by decide) hw).2 h)

theorem skipBlanks_padded (width n : Nat) (rest : List Char) :
    skipBlanks (padded width n ++ rest) = padded width n ++ rest := by
  obtain ⟨d, ds, heq, hd⟩ := padded_eq_cons width n
  rw [heq, List.cons_append, skipBlanks_cons (isBlank_of_isDigit hd)]

theorem leadingDigits_padded (width n : Nat) {c : Char} (hc : c.isDigit = false) (rest : List Char) :
    leadingDigits (padded width n ++ c :: rest) = (padded width n, c :: rest) := by
  refine leadingDigits_append_of_stop (fun d => isDigit_of_mem_padded) fun d hd => ?_
  cases hd
  exact hc

theorem digitsValue_append_zeros (run : List Char) (k : Nat) :
    digitsValue (run ++ List.replicate k '0') = 10 ^ k * digitsValue run := by
  rw [digitsValue, Nat.ofDigitChars_append, Nat.ofDigitChars_replicate_zero]
  rfl

end EventAutomata.Text

namespace EventAutomata.Time.Rfc3339

open EventAutomata.Text

-- ---------------------------------------------------------------------------
-- Numbers and marks
-- ---------------------------------------------------------------------------

theorem number?_padded {width n : Nat} (hw : 0 < width) (h : n < 10 ^ width) (rest : List Char) :
    number? width (padded width n ++ rest) = some (n, rest) := by
  have hlength := length_padded_of_lt hw h
  have hrun : (leadingDigits (padded width n ++ rest)).1.take width = padded width n := by
    rw [leadingDigits, List.takeWhile_append_of_pos fun d => isDigit_of_mem_padded]
    exact List.take_left' hlength
  have hne : (padded width n).isEmpty = false := by
    obtain ⟨d, ds, heq, -⟩ := padded_eq_cons width n
    rw [heq]
    rfl
  simp only [number?, skipBlanks_padded, hrun, hne, digitsValue_padded, Bool.false_eq_true, if_false]
  rw [List.drop_left' rfl]

theorem mark?_cons {c : Char} (hc : isBlank c = false) (rest : List Char) :
    mark? c (c :: rest) = some rest := by
  rw [mark?, skipBlanks_cons hc]
  exact if_pos rfl

theorem year?_yearText (year : Int) (rest : List Char) :
    year? (yearText year ++ '-' :: rest) = some (year, '-' :: rest) := by
  have hsigned : ∀ (n : Nat) (value : Nat → Int),
      year?.signed (padded 4 n ++ '-' :: rest) value = some (value n, '-' :: rest) := by
    intro n value
    obtain ⟨d, ds, heq, -⟩ := padded_eq_cons 4 n
    have hvalue := digitsValue_padded 4 n
    rw [year?.signed, leadingDigits_padded 4 n (by decide), heq]
    rw [heq] at hvalue
    dsimp only
    rw [hvalue]
  unfold yearText
  split
  next hplain =>
    obtain ⟨d, ds, heq, hd⟩ := padded_eq_cons 4 year.toNat
    have hread : number? 4 (padded 4 year.toNat ++ '-' :: rest) = some (year.toNat, '-' :: rest) :=
      number?_padded (by decide) (by omega) _
    rw [year?, skipBlanks_padded]
    -- A year without a sign begins with a digit, so no sign is read.
    split
    next hminus =>
      rw [heq] at hminus
      cases hminus
      cases hd
    next hplus =>
      rw [heq] at hplus
      cases hplus
      cases hd
    next =>
      rw [hread]
      simp only [Option.map_some, Int.toNat_of_nonneg hplain.1]
  next =>
    by_cases hneg : year < 0
    · rw [if_pos hneg, List.cons_append, year?, skipBlanks_cons (by decide)]
      refine (hsigned year.natAbs _).trans ?_
      have habs : -(year.natAbs : Int) = year := by omega
      rw [habs]
    · rw [if_neg hneg, List.cons_append, year?, skipBlanks_cons (by decide)]
      refine (hsigned year.natAbs _).trans ?_
      have habs : (year.natAbs : Int) = year := by omega
      rw [habs]

theorem date?_dateText {d : Date} (hfirst : firstYear ≤ d.year) (hlast : d.year ≤ lastYear)
    (hvalid : d.Valid) (rest : List Char) :
    date? (dateText d ++ rest) = some (d, rest) := by
  have hmonth : d.month < 10 ^ 2 := by have := hvalid.2.1; omega
  have hday : d.day < 10 ^ 2 := by
    have hshort : daysInMonth d.year d.month ≤ 31 := by
      unfold daysInMonth
      repeat' split
      all_goals omega
    have := hvalid.2.2.2
    omega
  simp only [dateText, List.append_assoc, List.cons_append, date?, year?_yearText,
    mark?_cons (by decide : isBlank '-' = false), number?_padded (by decide : 0 < 2) hmonth,
    number?_padded (by decide : 0 < 2) hday, Option.bind_eq_bind, Option.bind_some]
  exact if_pos ⟨hfirst, hlast, hvalid⟩

-- ---------------------------------------------------------------------------
-- Times
-- ---------------------------------------------------------------------------

theorem fraction?_padded {width n : Nat} (hw : 0 < width) (hw' : width ≤ 9) (h : n < 10 ^ width)
    (rest : List Char) :
    fraction? ('.' :: padded width n ++ 'Z' :: rest) = some (10 ^ (9 - width) * n, 'Z' :: rest) := by
  obtain ⟨d, ds, heq, -⟩ := padded_eq_cons width n
  have hne : (padded width n).isEmpty = false := by rw [heq]; rfl
  have htake : (padded width n ++ List.replicate 9 '0').take 9 =
      padded width n ++ List.replicate (9 - width) '0' := by
    rw [List.take_append, length_padded_of_lt hw h, List.take_replicate,
      List.take_of_length_le (by rw [length_padded_of_lt hw h]; exact hw'),
      Nat.min_eq_left (Nat.sub_le 9 width)]
  simp only [List.cons_append, fraction?, leadingDigits_padded width n (by decide : 'Z'.isDigit = false),
    hne, htake, digitsValue_append_zeros, digitsValue_padded, Bool.false_eq_true, if_false]

theorem fraction?_fractionText {nanos : Nat} (h : nanos < 10 ^ 9) (rest : List Char) :
    fraction? (fractionText nanos ++ 'Z' :: rest) = some (nanos, 'Z' :: rest) := by
  unfold fractionText
  split
  next hzero => rw [hzero]; rfl
  next =>
    split
    next =>
      rw [fraction?_padded (by decide) (by decide) (by omega)]
      have hexact : 10 ^ (9 - 3) * (nanos / 1000000) = nanos := by omega
      rw [hexact]
    next =>
      split
      next =>
        rw [fraction?_padded (by decide) (by decide) (by omega)]
        have hexact : 10 ^ (9 - 6) * (nanos / 1000) = nanos := by omega
        rw [hexact]
      next =>
        rw [fraction?_padded (by decide) (by decide) h]
        simp

theorem time?_timeText {t : Timestamp} (hnanos : t.nanos < nanosPerSecond) (rest : List Char) :
    time? (timeText t ++ 'Z' :: rest) = some ((t.secondOfDay, t.nanos), 'Z' :: rest) := by
  have hday : t.secondOfDay < 86400 := by
    unfold Timestamp.secondOfDay secondsPerDay
    omega
  have hleap : t.nanos / nanosPerSecond = 0 := Nat.div_eq_of_lt hnanos
  have hwhole : t.nanos % nanosPerSecond = t.nanos := Nat.mod_eq_of_lt hnanos
  have hhour : t.secondOfDay / 3600 < 10 ^ 2 := by omega
  have hminute : t.secondOfDay / 60 % 60 < 10 ^ 2 := by omega
  have hsecond : t.secondOfDay % 60 < 10 ^ 2 := by omega
  have hmark := mark?_cons (by decide : isBlank ':' = false)
  have htwo : 0 < 2 := by decide
  simp only [timeText, hleap, hwhole, Nat.add_zero, List.append_assoc, List.cons_append, time?,
    number?_padded htwo hhour, number?_padded htwo hminute, number?_padded htwo hsecond, hmark,
    fraction?_fractionText hnanos, Option.bind_eq_bind, Option.bind_some]
  rw [if_pos (by omega)]
  have hsum : 3600 * (t.secondOfDay / 3600) + 60 * (t.secondOfDay / 60 % 60) +
      t.secondOfDay % 60 - t.secondOfDay % 60 / 60 = t.secondOfDay := by omega
  have hnone : t.secondOfDay % 60 / 60 = 0 := by omega
  rw [hsum, hnone, Nat.mul_zero, Nat.add_zero]

/-- A timestamp in the years of the calendar and in no leap second is read as it was written. -/
theorem read?_write {t : Timestamp} (ht : t.Regular) : read? (write t) = some t := by
  obtain ⟨hfirst, hlast, hnanos⟩ := ht
  have hdate : date? (dateText t.date ++ 'T' :: (timeText t ++ ['Z'])) =
      some (t.date, 'T' :: (timeText t ++ ['Z'])) :=
    date?_dateText hfirst hlast (Date.valid_ofDays t.day) _
  have hsecs : t.date.toDays * secondsPerDay + t.secondOfDay - 0 = t.secs := by
    have hdays : t.date.toDays = t.secs / secondsPerDay := Date.toDays_ofDays t.day
    rw [hdays]
    unfold Timestamp.secondOfDay secondsPerDay
    omega
  have hoffset : offset? (skipBlanks ['Z']) = some (0, []) := by decide
  simp only [write, read?, List.append_assoc, List.cons_append, hdate, separator?, true_or, if_true,
    time?_timeText hnanos, hoffset, hsecs, Option.bind_eq_bind, Option.bind_some]
  exact if_pos ⟨rfl, hfirst, hlast⟩

end EventAutomata.Time.Rfc3339
