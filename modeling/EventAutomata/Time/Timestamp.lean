import EventAutomata.Time.Calendar

/-!
# Points in time

A point in time is a count of seconds from 1970-01-01T00:00:00Z, leap seconds
left out, and a fraction in nanoseconds. A fraction of a second or more lies in
the leap second that follows the second counted.
-/

namespace EventAutomata.Time

def secondsPerDay : Int := 86400

def nanosPerSecond : Nat := 1000000000

@[ext]
structure Timestamp where
  secs : Int
  nanos : Nat := 0
  deriving DecidableEq, Repr

structure Duration where
  secs : Nat
  nanos : Nat
  deriving DecidableEq, Repr

def Duration.ofNanos (n : Nat) : Duration := ⟨n / nanosPerSecond, n % nanosPerSecond⟩

/-- The first and the last year that the calendar of timestamps covers. -/
def firstYear : Int := -262143

def lastYear : Int := 262142

namespace Timestamp

def day (t : Timestamp) : Int := t.secs / secondsPerDay

def date (t : Timestamp) : Date := .ofDays t.day

def secondOfDay (t : Timestamp) : Nat := (t.secs % secondsPerDay).toNat

def isLeap (t : Timestamp) : Bool := nanosPerSecond ≤ t.nanos

/-- The years of the calendar hold the timestamp, and it is in no leap second. -/
def Regular (t : Timestamp) : Prop :=
  firstYear ≤ t.date.year ∧ t.date.year ≤ lastYear ∧ t.nanos < nanosPerSecond

instance (t : Timestamp) : Decidable t.Regular := by
  unfold Regular
  infer_instance

/-- Nanoseconds from one point in time to another. A leap second between two
times of day counts if one of them lies in it and is the earlier one. -/
def nanosSince (later earlier : Timestamp) : Int :=
  let leaps : Int :=
    if earlier.secondOfDay < later.secondOfDay then (if earlier.isLeap then 1 else 0)
    else if later.secondOfDay < earlier.secondOfDay then (if later.isLeap then -1 else 0)
    else 0
  (later.secs - earlier.secs + leaps) * nanosPerSecond + later.nanos - earlier.nanos

def durationSince? (later earlier : Timestamp) : Option Duration :=
  match later.nanosSince earlier with
  | .ofNat n => some (.ofNanos n)
  | .negSucc _ => none

end Timestamp

end EventAutomata.Time
