import EventAutomata.History.Json

/-!
# What a limit does to a history

A history with a limit other than 0 keeps the newest records, as many as the limit allows, however
many it held before: the first record that is added also takes out what was there beyond the
limit. With the limit 0 nothing is added and nothing is taken out. A history that began empty has
nothing to lose then, but one that was read from a text keeps the records it came with.
-/

namespace EventAutomata

-- ---------------------------------------------------------------------------
-- The newest elements of a list
-- ---------------------------------------------------------------------------

theorem keepLast_map {β γ : Type} (limit : Option Nat) (f : β → γ) (xs : List β) :
    (keepLast limit xs).map f = keepLast limit (xs.map f) := by
  cases limit with
  | none => rfl
  | some n => simp [keepLast]

theorem keepLast_suffix {β : Type} (limit : Option Nat) (xs : List β) : keepLast limit xs <:+ xs := by
  cases limit with
  | none => exact List.suffix_rfl
  | some n => exact List.drop_suffix _ _

/-- What is lost first would be lost anyway. -/
theorem keepLast_append_keepLast {β : Type} (limit : Option Nat) (xs ys : List β) :
    keepLast limit (keepLast limit xs ++ ys) = keepLast limit (xs ++ ys) := by
  cases limit with
  | none => rfl
  | some n =>
    have hle : xs.length - n ≤ xs.length := Nat.sub_le _ _
    simp only [keepLast, ← List.drop_append_of_le_length hle, List.length_drop, List.length_append,
      List.drop_drop]
    congr 1
    omega

theorem keepLast_keepLast {β : Type} {limit limit' : Option Nat} (h : limit = none ∨ limit = limit')
    (xs : List β) : keepLast limit' (keepLast limit xs) = keepLast limit' xs := by
  rcases h with rfl | rfl
  · rfl
  · simpa using keepLast_append_keepLast limit xs []

@[simp] theorem keepLast_zero {β : Type} (xs : List β) : keepLast (some 0) xs = [] := by
  simp [keepLast]

theorem length_keepLast {β : Type} (n : Nat) (xs : List β) :
    (keepLast (some n) xs).length = min n xs.length := by
  simp only [keepLast, List.length_drop]
  omega

namespace History

variable {h : History}

-- ---------------------------------------------------------------------------
-- Adding records
-- ---------------------------------------------------------------------------

def recordAll (h : History) (rs : List TransitRecord) : History := rs.foldl record h

theorem recordAll_of_zero (hl : h.limit = some 0) (rs : List TransitRecord) : h.recordAll rs = h := by
  induction rs with
  | nil => rfl
  | cons r rs ih => rw [recordAll, List.foldl_cons, record_of_zero hl, ← recordAll, ih]

theorem limit_recordAll (h : History) (rs : List TransitRecord) :
    (h.recordAll rs).limit = h.limit := by
  induction rs generalizing h with
  | nil => rfl
  | cons r rs ih => rw [recordAll, List.foldl_cons, ← recordAll, ih, limit_record]

theorem records_recordAll (hl : h.limit ≠ some 0) (r : TransitRecord) (rs : List TransitRecord) :
    (h.recordAll (r :: rs)).records = keepLast h.limit (h.records ++ r :: rs) := by
  induction rs generalizing h r with
  | nil => exact records_record_of_ne_zero hl r
  | cons next rs ih =>
    have hl' : (h.record r).limit ≠ some 0 := by rwa [limit_record]
    calc
      (h.recordAll (r :: next :: rs)).records = ((h.record r).recordAll (next :: rs)).records := rfl
      _ = keepLast h.limit ((h.record r).records ++ next :: rs) := by rw [ih hl', limit_record]
      _ = keepLast h.limit (h.records ++ r :: next :: rs) := by
        rw [records_record_of_ne_zero hl, keepLast_append_keepLast]
        simp

theorem length_recordAll {n : Nat} (hn : h.limit = some n) (hpos : 0 < n) (r : TransitRecord)
    (rs : List TransitRecord) :
    (h.recordAll (r :: rs)).length = min n (h.length + 1 + rs.length) := by
  have hl : h.limit ≠ some 0 := by
    rw [hn]
    rintro heq
    cases heq
    exact absurd hpos (Nat.lt_irrefl 0)
  rw [length_eq, records_recordAll hl, hn, length_keepLast, length_eq, List.length_append,
    List.length_cons]
  omega

-- ---------------------------------------------------------------------------
-- Where histories come from
-- ---------------------------------------------------------------------------

/-- Histories begin empty or, if `reading` holds, are read from a text. A clone is the history
again. -/
inductive Obtained (reading : Prop) : History → Prop
  | withLimit (limit : Option Nat) : Obtained reading (.withLimit limit)
  | read {cs : List Char} {h : History} : reading → ofJson cs = .ok h → Obtained reading h
  | record {h : History} (r : TransitRecord) : Obtained reading h → Obtained reading (h.record r)
  | clear {h : History} : Obtained reading h → Obtained reading h.clear

theorem Obtained.length_le (hh : h.Obtained False) {n : Nat} (hn : h.limit = some n) :
    h.records.length ≤ n := by
  induction hh with
  | withLimit limit => exact Nat.zero_le n
  | read hreading => exact hreading.elim
  | @record h r _ ih =>
    rw [limit_record] at hn
    by_cases hl : h.limit = some 0
    · rw [record_of_zero hl]
      exact ih hn
    · rw [records_record_of_ne_zero hl, hn, length_keepLast]
      exact Nat.min_le_left _ _
  | clear => exact Nat.zero_le n

/-- Only a history that was read from a text can hold records in spite of the limit 0. -/
theorem Obtained.records_eq_nil (hh : h.Obtained False) (hl : h.limit = some 0) : h.records = [] :=
  List.length_eq_zero_iff.1 (Nat.le_zero.1 (hh.length_le hl))

/-- Where records are added, exactly the newest are kept that the limit allows, unless the limit is
0 and there are records. Then no record is added and none is taken out. No history that began empty
is like that. -/
theorem limit_is_kept_to_unless_zero (h : History) :
    ((∀ r rs, (h.recordAll (r :: rs)).records = keepLast h.limit (h.records ++ r :: rs)) ↔
      (h.limit = some 0 → h.records = [])) ∧
    (∀ n r rs, h.limit = some n → 0 < n →
      (h.recordAll (r :: rs)).length = min n (h.length + 1 + rs.length)) ∧
    (∀ rs, (h.recordAll rs).limit = h.limit) ∧
    (h.limit = some 0 → ∀ rs, h.recordAll rs = h) ∧
    (h.Obtained False → h.limit = some 0 → h.records = []) := by
  refine ⟨⟨fun hlaw hl => ?_, fun hempty r rs => ?_⟩,
    fun n r rs hn hpos => length_recordAll hn hpos r rs, limit_recordAll h, recordAll_of_zero,
    Obtained.records_eq_nil⟩
  · have hkept := hlaw ⟨none, ⟨0⟩, ⟨0⟩, ⟨0, 0⟩⟩ []
    rwa [recordAll_of_zero hl, hl, keepLast_zero] at hkept
  · by_cases hl : h.limit = some 0
    · rw [recordAll_of_zero hl, hempty hl, hl, keepLast_zero]
    · exact records_recordAll hl r rs

/-- A history that no call makes, only a text: there is a record, but the limit is 0. -/
def overfull : History := .ofRecords [⟨some ⟨0⟩, ⟨1⟩, ⟨2⟩, ⟨1577934245, 0⟩⟩] (some 0)

/-- No record takes out the one that was read. -/
theorem loaded_record_outlives_zero_limit :
    overfull.Obtained True ∧ overfull.limit = some 0 ∧
      ∀ r, (overfull.record r).length = 1 ∧
        (overfull.record r).records ≠ keepLast overfull.limit (overfull.records ++ [r]) := by
  have hread : ofJson ("\x7b\"records\":[\x7b\"from\":0,\"to\":1,\"transition\":2," ++
      "\"timestamp\":\"2020-01-02T03:04:05Z\"\x7d],\"limit\":0\x7d").toList = .ok overfull := by rfl
  have hl : overfull.limit = some 0 := rfl
  refine ⟨.read trivial hread, hl, fun r => ?_⟩
  rw [record_of_zero hl, hl, keepLast_zero]
  exact ⟨rfl, List.cons_ne_nil _ _⟩

end History

end EventAutomata
