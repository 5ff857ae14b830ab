/-!
# Decimal digits

Natural numbers as runs of ASCII digits: written without leading zeros or padded
to a width, and read back from the front of a text.
-/

namespace EventAutomata.Text

def digits (n : Nat) : List Char := Nat.toDigits 10 n

def padded (width n : Nat) : List Char :=
  List.replicate (width - (digits n).length) '0' ++ digits n

def digitsValue (cs : List Char) : Nat := Nat.ofDigitChars 10 cs 0

def leadingDigits (cs : List Char) : List Char × List Char :=
  (cs.takeWhile Char.isDigit, cs.dropWhile Char.isDigit)

theorem digitsValue_digits (n : Nat) : digitsValue (digits n) = n :=
  Nat.ofDigitChars_ten_toDigits

theorem digitsValue_padded (width n : Nat) : digitsValue (padded width n) = n := by
  rw [digitsValue, padded, Nat.ofDigitChars_append, Nat.ofDigitChars_replicate_zero]
  simp only [Nat.mul_zero]
  exact digitsValue_digits n

theorem isDigit_of_mem_digits {n : Nat} {c : Char} (h : c ∈ digits n) : c.isDigit = true :=
  Nat.isDigit_of_mem_toDigits (by decide) (by decide) h

theorem digits_ne_nil (n : Nat) : digits n ≠ [] := Nat.toDigits_ne_nil

theorem isDigit_of_mem_padded {width n : Nat} {c : Char} (h : c ∈ padded width n) :
    c.isDigit = true := by
  rcases List.mem_append.1 h with h | h
  · obtain ⟨_, rfl⟩ := List.mem_replicate.1 h
    rfl
  · exact isDigit_of_mem_digits h

theorem length_padded {width n : Nat} (h : (digits n).length ≤ width) :
    (padded width n).length = width := by
  simp [padded]
  omega

/-- A run of digits is read off exactly when no digit follows it. -/
theorem leadingDigits_append_of_stop {run rest : List Char}
    (hrun : ∀ c ∈ run, c.isDigit = true) (hstop : ∀ c ∈ rest.head?, c.isDigit = false) :
    leadingDigits (run ++ rest) = (run, rest) := by
  have hrest : leadingDigits rest = ([], rest) := by
    cases rest with
    | nil => rfl
    | cons c rest => simp [leadingDigits, hstop c rfl]
  simp only [leadingDigits, Prod.mk.injEq] at hrest ⊢
  rw [List.takeWhile_append_of_pos hrun, List.dropWhile_append_of_pos hrun, hrest.1, hrest.2]
  simp

end EventAutomata.Text
