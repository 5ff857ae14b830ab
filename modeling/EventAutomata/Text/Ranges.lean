/-!
# Ranges of code points

A property of characters is a table of the ranges of code points that have it,
both ends included. The ranges ascend and lie apart, so that a look-up stops at
the first range that starts above the code point.

The blanks are the characters with the Unicode property White_Space.
-/

namespace EventAutomata.Text

/-- The ranges ascend from a code point on, and at least one code point lies
between each and the next. -/
def apartFrom (start : Nat) : List (Nat × Nat) → Bool
  | [] => true
  | (low, high) :: rest => start ≤ low && low ≤ high && apartFrom (high + 2) rest

structure Ranges where
  toList : List (Nat × Nat)
  apart : apartFrom 0 toList = true

namespace Ranges

def among (n : Nat) : List (Nat × Nat) → Bool
  | [] => false
  | (low, high) :: rest => low ≤ n && (n ≤ high || among n rest)

def holds (rs : Ranges) (n : Nat) : Bool := among n rs.toList

end Ranges

-- ---------------------------------------------------------------------------
-- Blanks
-- ---------------------------------------------------------------------------

def blankRanges : Ranges where
  toList :=
    [(0x0009, 0x000D), (0x0020, 0x0020), (0x0085, 0x0085), (0x00A0, 0x00A0), (0x1680, 0x1680),
     (0x2000, 0x200A), (0x2028, 0x2029), (0x202F, 0x202F), (0x205F, 0x205F), (0x3000, 0x3000)]
  apart := by decide

def isBlank (c : Char) : Bool := blankRanges.holds c.toNat

def skipBlanks (cs : List Char) : List Char := cs.dropWhile isBlank

end EventAutomata.Text
