import EventAutomata.Text.Decimal

/-!
# Scanning JSON text

The pieces of JSON text that do not depend on what the text is read for: blanks,
punctuation, the three words, strings and numerals. Each scanner takes the text
from where it stands and gives what it read and the rest of the text.

A text fails at its first problem in reading order. There are three kinds: the
text is not JSON, it ends too early, or it is JSON of another shape than the one
asked for.
-/

namespace EventAutomata.Json

open EventAutomata.Text

inductive Problem
  /-- The text is not JSON. -/
  | malformed
  /-- The text ends before the value does. -/
  | incomplete
  /-- The value is not of the shape asked for. -/
  | unfitting
  deriving DecidableEq, Repr

abbrev Scanner (α : Type) := List Char → Except Problem (α × List Char)

def isJsonBlank (c : Char) : Bool := c = ' ' || c = '\t' || c = '\n' || c = '\r'

def skipSpace (cs : List Char) : List Char := cs.dropWhile isJsonBlank

def peek (cs : List Char) : Except Problem (Char × List Char) :=
  match skipSpace cs with
  | [] => .error .incomplete
  | c :: rest => .ok (c, rest)

def word (letters : List Char) (cs : List Char) : Except Problem (List Char) :=
  match letters, cs with
  | [], rest => .ok rest
  | _ :: _, [] => .error .incomplete
  | l :: ls, c :: rest => if l = c then word ls rest else .error .malformed

def wordTail? : Char → Option (List Char)
  | 'n' => some ['u', 'l', 'l']
  | 't' => some ['r', 'u', 'e']
  | 'f' => some ['a', 'l', 's', 'e']
  | _ => none

def colon (cs : List Char) : Except Problem (List Char) := do
  let (c, rest) ← peek cs
  if c = ':' then .ok rest else .error .malformed

-- ---------------------------------------------------------------------------
-- Strings
-- ---------------------------------------------------------------------------

def hexValue? (c : Char) : Option Nat :=
  if '0' ≤ c ∧ c ≤ '9' then some (c.toNat - '0'.toNat)
  else if 'a' ≤ c ∧ c ≤ 'f' then some (c.toNat - 'a'.toNat + 10)
  else if 'A' ≤ c ∧ c ≤ 'F' then some (c.toNat - 'A'.toNat + 10)
  else none

/-- Four hexadecimal digits. A text too short to hold four bytes is incomplete
whatever it holds. -/
def hexQuad : Scanner Nat := fun cs =>
  if (String.ofList (cs.take 4)).utf8ByteSize < 4 then .error .incomplete
  else
    match cs with
    | a :: b :: c :: d :: rest =>
      match hexValue? a, hexValue? b, hexValue? c, hexValue? d with
      | some a, some b, some c, some d => .ok (((a * 16 + b) * 16 + c) * 16 + d, rest)
      | _, _, _, _ => .error .malformed
    | _ => .error .malformed

def isHighSurrogate (n : Nat) : Bool := 0xD800 ≤ n && n ≤ 0xDBFF

def isLowSurrogate (n : Nat) : Bool := 0xDC00 ≤ n && n ≤ 0xDFFF

def exactly (expected : Char) : List Char → Except Problem (List Char)
  | [] => .error .incomplete
  | c :: rest => if c = expected then .ok rest else .error .malformed

/-- A character written by its number, behind `\u`. A character above U+FFFF
is a pair of surrogates; a surrogate without its partner is refused. -/
def numbered : Scanner Char := fun cs => do
  let (high, rest) ← hexQuad cs
  if isLowSurrogate high then .error .malformed
  else if isHighSurrogate high then
    let rest ← exactly '\\' rest
    let rest ← exactly 'u' rest
    let (low, rest) ← hexQuad rest
    if isLowSurrogate low then
      .ok (Char.ofNat (0x10000 + (high - 0xD800) * 0x400 + (low - 0xDC00)), rest)
    else .error .malformed
  else .ok (Char.ofNat high, rest)

def escapeLetter? : Char → Option Char
  | '"' => some '"'
  | '\\' => some '\\'
  | '/' => some '/'
  | 'b' => some '\x08'
  | 'f' => some '\x0c'
  | 'n' => some '\n'
  | 'r' => some '\r'
  | 't' => some '\t'
  | _ => none

def escape : Scanner Char
  | [] => .error .incomplete
  | 'u' :: rest => numbered rest
  | c :: rest =>
    match escapeLetter? c with
    | some d => .ok (d, rest)
    | none => .error .malformed

def looseEscape : Scanner Char
  | 'u' :: rest => (hexQuad rest).map fun (_, rest) => ('u', rest)
  | cs => escape cs

/-- The body of a string up to its closing quote, with the characters read so far
in reverse. There are at most as many steps as `bound` is long. -/
def stringBody (unescape : Scanner Char) :
    (bound : List Char) → (readSoFar : List Char) → Scanner (List Char)
  | _ :: bound, readSoFar, c :: rest =>
    if c = '"' then .ok (readSoFar.reverse, rest)
    else if c = '\\' then do
      let (d, rest) ← unescape rest
      stringBody unescape bound (d :: readSoFar) rest
    else if c.toNat < 0x20 then .error .malformed
    else stringBody unescape bound (c :: readSoFar) rest
  | _, _, _ => .error .incomplete

def string : Scanner (List Char) := fun cs => stringBody escape cs [] cs

def looseString : Scanner (List Char) := fun cs => stringBody looseEscape cs [] cs

-- ---------------------------------------------------------------------------
-- Numerals
-- ---------------------------------------------------------------------------

inductive Numeral
  /-- A whole number below 2^64, written without fraction or exponent. -/
  | whole (n : Nat)
  /-- Any other number. -/
  | other
  deriving DecidableEq, Repr

def wholeBound : Nat := UInt64.size

/-- Appends digits to a number as long as it stays below 2^64. Gives the number
and how many digits it took. -/
def absorb (n : Nat) : List Char → Nat × Nat
  | [] => (n, 0)
  | d :: ds =>
    let next := 10 * n + (d.toNat - '0'.toNat)
    if next < wholeBound then
      let (m, taken) := absorb next ds
      (m, taken + 1)
    else (n, 0)

/-- The nearest number with at most 53 binary digits before its trailing zeros,
of two equally near the even one. -/
def roundTo53 (n : Nat) : Nat :=
  let unit : Nat := 1 <<< (n.log2 + 1 - 53)
  let (q, r) := (n / unit, n % unit)
  let up := unit < 2 * r || (2 * r = unit && q % 2 = 1)
  (if up then q + 1 else q) * unit

/-- From here on no double is nearest: the middle between the largest one and 2^1024. -/
def doubleBound : Nat := (1 <<< 1024) - (1 <<< 970)

/-- The number `n * 10 ^ exponent` is beyond the largest double, when `n` and
the power are rounded to doubles before they are multiplied. -/
def exceedsDouble (n : Nat) (exponent : Int) : Bool :=
  match exponent with
  | .negSucc _ => false
  | .ofNat e =>
    n ≠ 0 && (308 < e || doubleBound ≤ roundTo53 n * roundTo53 (Nat.pow 10 e))

def someDigits (cs : List Char) : Except Problem (List Char × List Char) :=
  match leadingDigits cs with
  | ([], []) => .error .incomplete
  | ([], _ :: _) => .error .malformed
  | (ds, rest) => .ok (ds, rest)

def wholeDigits (cs : List Char) : Except Problem (List Char × List Char) := do
  let (ds, rest) ← someDigits cs
  if ds.head? = some '0' ∧ 1 < ds.length then .error .malformed else .ok (ds, rest)

def fractionDigits : List Char → Except Problem (Option (List Char) × List Char)
  | '.' :: rest => do
    let (ds, rest) ← someDigits rest
    .ok (some ds, rest)
  | cs => .ok (none, cs)

def exponentSign : List Char → Int × List Char
  | '+' :: rest => (1, rest)
  | '-' :: rest => (-1, rest)
  | cs => (1, cs)

def exponent (cs : List Char) : Except Problem (Option Int × List Char) :=
  match cs with
  | [] => .ok (none, cs)
  | c :: rest =>
    if c = 'e' ∨ c = 'E' then do
      let (sign, rest) := exponentSign rest
      let (ds, rest) ← someDigits rest
      .ok (some (sign * digitsValue ds), rest)
    else .ok (none, cs)

/-- A numeral without its sign. One that no double can hold is malformed. -/
def numeral : Scanner Numeral := fun cs => do
  let (before, rest) ← wholeDigits cs
  let (behind, rest) ← fractionDigits rest
  let (power, rest) ← exponent rest
  let (n, taken) := absorb 0 before
  if behind = none ∧ power = none ∧ taken = before.length then .ok (.whole n, rest)
  else
    let (m, takenBehind) := absorb n (behind.getD [])
    let shift : Int := (before.length - taken : Nat) - (takenBehind : Int) + power.getD 0
    if exceedsDouble m shift then .error .malformed else .ok (.other, rest)

/-- A numeral whose value does not matter. Every problem is one of its form. -/
def looseNumeral (cs : List Char) : Except Problem (List Char) :=
  let read : Except Problem (List Char) := do
    let (_, rest) ← wholeDigits cs
    let (_, rest) ← fractionDigits rest
    let (_, rest) ← exponent rest
    .ok rest
  match read with
  | .ok rest => .ok rest
  | .error _ => .error .malformed

end EventAutomata.Json
