import EventAutomata.Fifo
import EventAutomata.Description
import EventAutomata.Time.Rfc3339

/-!
# Transit history

A history lists the transits that ran to completion, oldest first. With a limit
it keeps only the newest records, and with the limit 0 none at all. A limit takes
effect when a record is added: a history that was put together with more records
than its limit keeps them until then, and with the limit 0 for good.
-/

namespace EventAutomata

open EventAutomata.Time

/-- One completed transit. There was no source if no state was current. -/
@[ext]
structure TransitRecord where
  source : Option StateId
  target : StateId
  transition : TransitionId
  timestamp : Timestamp
  deriving DecidableEq, Repr

/-- The newest elements of a list, as many as a limit allows. -/
def keepLast {α : Type} (limit : Option Nat) (xs : List α) : List α :=
  match limit with
  | none => xs
  | some n => xs.drop (xs.length - n)

def Fifo.keepLast {α : Type} (limit : Option Nat) (q : Fifo α) : Fifo α :=
  match limit with
  | none => q
  | some n => q.drop (q.size - n)

@[simp] theorem Fifo.toList_keepLast {α : Type} (limit : Option Nat) (q : Fifo α) :
    (q.keepLast limit).toList = EventAutomata.keepLast limit q.toList := by
  cases limit <;> simp [Fifo.keepLast, EventAutomata.keepLast]

structure History where
  entries : Fifo TransitRecord := ∅
  limit : Option Nat := none
  deriving DecidableEq

namespace History

def records (h : History) : List TransitRecord := h.entries.toList

@[ext]
theorem ext {h k : History} (hr : h.records = k.records) (hl : h.limit = k.limit) : h = k := by
  obtain ⟨p, l⟩ := h
  obtain ⟨q, m⟩ := k
  have hpq : p = q := Fifo.ext_toList hr
  cases hl
  rw [hpq]

def ofRecords (records : List TransitRecord) (limit : Option Nat) : History :=
  ⟨.ofList records, limit⟩

@[simp] theorem records_ofRecords (records : List TransitRecord) (limit : Option Nat) :
    (ofRecords records limit).records = records := Fifo.toList_ofList records

def withLimit (limit : Option Nat) : History := ⟨∅, limit⟩

def record (h : History) (r : TransitRecord) : History :=
  if h.limit = some 0 then h else { h with entries := (h.entries.push r).keepLast h.limit }

def clear (h : History) : History := { h with entries := ∅ }

def length (h : History) : Nat := h.entries.size

@[simp] theorem length_eq (h : History) : h.length = h.records.length := h.entries.size_eq_length

def isEmpty (h : History) : Bool := h.length = 0

def last? (h : History) : Option TransitRecord := h.records.getLast?

def sameAt (h : History) (i j : Nat) : Bool := decide (h.records[i]? = h.records[j]?)

/-- The states in the order they were visited: where the first record came from,
then where each record led. -/
def path (h : History) : List StateId :=
  ((h.records.head?.bind TransitRecord.source).toList) ++ h.records.map TransitRecord.target

def duration? (h : History) : Option Duration := do
  let first ← h.records.head?
  let last ← h.records.getLast?
  last.timestamp.durationSince? first.timestamp

@[simp] theorem limit_record (h : History) (r : TransitRecord) : (h.record r).limit = h.limit := by
  unfold record
  split <;> rfl

theorem records_record_of_ne_zero {h : History} (hl : h.limit ≠ some 0) (r : TransitRecord) :
    (h.record r).records = keepLast h.limit (h.records ++ [r]) := by
  simp [record, records, hl]

theorem record_of_zero {h : History} (hl : h.limit = some 0) (r : TransitRecord) :
    h.record r = h := by simp [record, hl]

end History

-- ---------------------------------------------------------------------------
-- Descriptions
-- ---------------------------------------------------------------------------

instance : Describe Timestamp := ⟨fun t => .word (String.ofList (Rfc3339.write t))⟩

instance : Describe TransitRecord :=
  ⟨fun r => .record "TransitRecord"
    [("from", describe r.source), ("to", describe r.target),
     ("transition", describe r.transition), ("timestamp", describe r.timestamp)]⟩

instance : Describe History :=
  ⟨fun h => .record "TransitHistory"
    [("records", describe h.records), ("limit", describe h.limit)]⟩

end EventAutomata
