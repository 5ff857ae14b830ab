import EventAutomata.Text.Ranges
import EventAutomata.Text.Decimal
import EventAutomata.Time.Timestamp

/-!
# Timestamps in the Internet form

A timestamp is written as RFC 3339 has it, in UTC: `2020-01-02T03:04:05Z`. The
fraction has no digits, or three, six or nine, the fewest that lose nothing. A
year below 0 or above 9999 has a sign and at least four digits. A leap second is
second 60.

The reader is more lenient than the writer. It takes blanks between the parts, a
month or an hour of one digit, a signed year, a lower-case `t` or a blank between
date and time, more than nine digits of fraction (those past the ninth are
dropped), and any offset below a day, with or without a colon. It takes only
dates that the calendar has.
-/

namespace EventAutomata.Time.Rfc3339

open EventAutomata.Text

-- ---------------------------------------------------------------------------
-- Writing
-- ---------------------------------------------------------------------------

def yearText (year : Int) : List Char :=
  if 0 ≤ year ∧ year ≤ 9999 then padded 4 year.toNat
  else (if year < 0 then '-' else '+') :: padded 4 year.natAbs

def dateText (d : Date) : List Char :=
  yearText d.year ++ '-' :: padded 2 d.month ++ '-' :: padded 2 d.day

def fractionText (nanos : Nat) : List Char :=
  if nanos = 0 then []
  else if nanos % 1000000 = 0 then '.' :: padded 3 (nanos / 1000000)
  else if nanos % 1000 = 0 then '.' :: padded 6 (nanos / 1000)
  else '.' :: padded 9 nanos

def timeText (t : Timestamp) : List Char :=
  let second := t.secondOfDay % 60 + t.nanos / nanosPerSecond
  padded 2 (t.secondOfDay / 3600) ++ ':' :: padded 2 (t.secondOfDay / 60 % 60) ++
    ':' :: padded 2 second ++ fractionText (t.nanos % nanosPerSecond)

def write (t : Timestamp) : List Char := dateText t.date ++ 'T' :: timeText t ++ ['Z']

-- ---------------------------------------------------------------------------
-- Reading
-- ---------------------------------------------------------------------------

def number? (width : Nat) (cs : List Char) : Option (Nat × List Char) :=
  let cs := skipBlanks cs
  let run := (leadingDigits cs).1.take width
  if run.isEmpty then none else some (digitsValue run, cs.drop run.length)

/-- A year: up to four digits, or a sign and any number of digits. -/
def year? (cs : List Char) : Option (Int × List Char) :=
  match skipBlanks cs with
  | '-' :: rest => signed rest fun n => -(n : Int)
  | '+' :: rest => signed rest fun n => n
  | rest => (number? 4 rest).map fun (n, rest) => (n, rest)
where
  /-- The digits behind the sign of a year. -/
  signed (cs : List Char) (value : Nat → Int) : Option (Int × List Char) :=
    match leadingDigits cs with
    | ([], _) => none
    | (run, rest) => some (value (digitsValue run), rest)

def mark? (c : Char) (cs : List Char) : Option (List Char) :=
  match skipBlanks cs with
  | [] => none
  | d :: rest => if d = c then some rest else none

/-- The optional fraction of a second, in nanoseconds. Digits behind the ninth
have no effect. -/
def fraction? : List Char → Option (Nat × List Char)
  | '.' :: cs =>
    let (run, rest) := leadingDigits cs
    if run.isEmpty then none
    else some (digitsValue ((run ++ List.replicate 9 '0').take 9), rest)
  | cs => some (0, cs)

def twoDigits? : List Char → Option (Nat × List Char)
  | a :: b :: rest =>
    if a.isDigit && b.isDigit then some (digitsValue [a, b], rest) else none
  | _ => none

def offset? (cs : List Char) : Option (Int × List Char) :=
  match cs with
  | [] => none
  | 'Z' :: rest => some (0, rest)
  | 'z' :: rest => some (0, rest)
  | sign :: rest =>
    if (cs.take 3).map Char.toUpper = ['U', 'T', 'C'] then some (0, cs.drop 3)
    else if sign = '+' ∨ sign = '-' ∨ sign = '\u2212' then do
      let (hours, rest) ← twoDigits? rest
      let (minutes, rest) ← twoDigits? (rest.dropWhile fun c => c = ':' || isBlank c)
      let distance := 3600 * hours + 60 * minutes
      if minutes < 60 ∧ distance < 86400 then
        some (if sign = '+' then (distance : Int) else -(distance : Int), rest)
      else none
    else none

def date? (cs : List Char) : Option (Date × List Char) := do
  let (year, cs) ← year? cs
  let (month, cs) ← number? 2 (← mark? '-' cs)
  let (day, cs) ← number? 2 (← mark? '-' cs)
  let date : Date := ⟨year, month, day⟩
  if firstYear ≤ year ∧ year ≤ lastYear ∧ date.Valid then some (date, cs) else none

/-- The second of the day and the nanoseconds; second 60 is a leap second. -/
def time? (cs : List Char) : Option ((Nat × Nat) × List Char) := do
  let (hour, cs) ← number? 2 cs
  let (minute, cs) ← number? 2 (← mark? ':' cs)
  let (second, cs) ← number? 2 (← mark? ':' cs)
  let (nanos, cs) ← fraction? cs
  if hour < 24 ∧ minute < 60 ∧ second ≤ 60 then
    let leap := second / 60
    some ((3600 * hour + 60 * minute + second - leap, nanos + nanosPerSecond * leap), cs)
  else none

def separator? : List Char → Option (List Char)
  | c :: rest => if c = 'T' ∨ c = 't' ∨ c = ' ' then some rest else none
  | [] => none

def read? (cs : List Char) : Option Timestamp := do
  let (date, cs) ← date? cs
  let ((second, nanos), cs) ← time? (← separator? cs)
  let (offset, cs) ← offset? (skipBlanks cs)
  let stamp : Timestamp := ⟨date.toDays * secondsPerDay + second - offset, nanos⟩
  if (skipBlanks cs).isEmpty ∧ firstYear ≤ stamp.date.year ∧ stamp.date.year ≤ lastYear then
    some stamp
  else none

end EventAutomata.Time.Rfc3339
