import EventAutomata.Text.Extending
import EventAutomata.Text.Unassigned

/-!
# Quoted text

Text between double quotes on one line. The quote and the backslash are written
after a backslash; tab, line feed, carriage return and NUL have letters of their
own; every other unprintable character is written by its number, as `\u{200b}`
in lower-case hexadecimal digits without padding. An apostrophe stands for
itself.

Unprintable are the characters that a reader would not see, or would see merged
with their neighbour: the invisible ones, marks that extend the character before
them, and code points that are no character.
-/

namespace EventAutomata.Text

/-- Controls, format and private-use characters, separators other than the plain
blank, and fillers that are drawn as nothing, as of Unicode 17.0. -/
def invisibleRanges : Ranges where
  toList :=
    [(0x0000, 0x001F), (0x007F, 0x00A0), (0x00AD, 0x00AD), (0x0600, 0x0605), (0x061C, 0x061C),
     (0x06DD, 0x06DD), (0x070F, 0x070F), (0x0890, 0x0891), (0x08E2, 0x08E2), (0x115F, 0x1160),
     (0x1680, 0x1680), (0x180E, 0x180E), (0x2000, 0x200F), (0x2028, 0x202F), (0x205F, 0x2064),
     (0x2066, 0x206F), (0x3000, 0x3000), (0x3164, 0x3164), (0xE000, 0xF8FF), (0xFEFF, 0xFEFF),
     (0xFFA0, 0xFFA0), (0xFFF9, 0xFFFB), (0x110BD, 0x110BD), (0x110CD, 0x110CD), (0x13430, 0x1343F),
     (0x1BCA0, 0x1BCA3), (0x1D173, 0x1D17A), (0xE0001, 0xE0001), (0xE0020, 0xE007F),
     (0xF0000, 0xFFFFD), (0x100000, 0x10FFFD)]
  apart := by decide +kernel

def isUnprintable (c : Char) : Bool :=
  invisibleRanges.holds c.toNat || extendingRanges.holds c.toNat || unassignedRanges.holds c.toNat

def hexDigits (n : Nat) : List Char := Nat.toDigits 16 n

def quoteChar (c : Char) : List Char :=
  match c with
  | '"' => ['\\', '"']
  | '\\' => ['\\', '\\']
  | '\t' => ['\\', 't']
  | '\n' => ['\\', 'n']
  | '\r' => ['\\', 'r']
  | '\x00' => ['\\', '0']
  | c =>
    if isUnprintable c then ['\\', 'u', '\x7b'] ++ hexDigits c.toNat ++ ['\x7d'] else [c]

def quote (s : String) : String :=
  String.ofList ('"' :: s.toList.flatMap quoteChar ++ ['"'])

end EventAutomata.Text
