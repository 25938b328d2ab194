import XmlCheck.Text.Basic

/-!
Character classes of texts: blanks, decimal digits and the characters that a quoted name shows as
they are. The blanks and digits are those of Unicode, which hold more than the ASCII ones.
-/

namespace XmlCheck.Text

/-- The white space of ASCII: tab to carriage return, and the space. -/
def isAsciiBlank (c : Char) : Bool :=
  (9 ≤ c.toNat && c.toNat ≤ 13) || c.toNat == 32

def isSpace (c : Char) : Bool :=
  isAsciiBlank c || c.toNat == 0x85 || c.toNat == 0xA0 || c.toNat == 0x1680 ||
    (0x2000 ≤ c.toNat && c.toNat ≤ 0x200A) || c.toNat == 0x2028 || c.toNat == 0x2029 ||
    c.toNat == 0x202F || c.toNat == 0x205F || c.toNat == 0x3000

/-- Blanks: white space, and the four information separators before the space. -/
def isBlank (c : Char) : Bool :=
  isSpace c || (0x1C ≤ c.toNat && c.toNat ≤ 0x1F)

/-- Where the runs of ten decimal digits begin. -/
def decimalZeros : List Nat :=
  [
    0x30, 0x660, 0x6F0, 0x7C0, 0x966, 0x9E6, 0xA66, 0xAE6, 0xB66, 0xBE6, 0xC66, 0xCE6, 0xD66,
    0xDE6, 0xE50, 0xED0, 0xF20, 0x1040, 0x1090, 0x17E0, 0x1810, 0x1946, 0x19D0, 0x1A80, 0x1A90,
    0x1B50, 0x1BB0, 0x1C40, 0x1C50, 0xA620, 0xA8D0, 0xA900, 0xA9D0, 0xA9F0, 0xAA50, 0xABF0,
    0xFF10, 0x104A0, 0x10D30, 0x11066, 0x110F0, 0x11136, 0x111D0, 0x112F0, 0x11450, 0x114D0,
    0x11650, 0x116C0, 0x11730, 0x118E0, 0x11950, 0x11C50, 0x11D50, 0x11DA0, 0x16A60, 0x16AC0,
    0x16B50, 0x1E140, 0x1E2F0, 0x1E950, 0x1FBF0]

def isDecimalDigit (c : Char) : Bool :=
  (0x1D7CE ≤ c.toNat && c.toNat ≤ 0x1D7FF) ||
    decimalZeros.any fun start => start ≤ c.toNat && c.toNat ≤ start + 9

def decimalValue? (c : Char) : Option Nat :=
  if 0x1D7CE ≤ c.toNat ∧ c.toNat ≤ 0x1D7FF then some ((c.toNat - 0x1D7CE) % 10)
  else
    (decimalZeros.find? fun start => start ≤ c.toNat && c.toNat ≤ start + 9).map (c.toNat - ·)

/-- A character in the form in which numbers are read: white space and decimal digits outside of
ASCII count as a space and as the ASCII digits. -/
def asciiForm (c : Char) : Char :=
  if c.toNat < 128 then c
  else if isSpace c then ' '
  else ((decimalValue? c).map Nat.digitChar).getD c

/-- Runs of characters that have no picture of their own: controls, format characters, separators
and the private areas. -/
def unseenRuns : List (Nat × Nat) :=
  [(0x0, 0x20), (0x7F, 0xA0), (0xAD, 0xAD), (0x600, 0x605), (0x61C, 0x61C), (0x6DD, 0x6DD),
    (0x70F, 0x70F), (0x890, 0x891), (0x8E2, 0x8E2), (0x1680, 0x1680), (0x180E, 0x180E),
    (0x2000, 0x200F), (0x2028, 0x202F), (0x205F, 0x2064), (0x2066, 0x206F), (0x3000, 0x3000),
    (0xD800, 0xF8FF), (0xFEFF, 0xFEFF), (0xFFF9, 0xFFFB), (0x110BD, 0x110BD), (0x110CD, 0x110CD),
    (0x13430, 0x13438), (0x1BCA0, 0x1BCA3), (0x1D173, 0x1D17A), (0xE0001, 0xE0001),
    (0xE0020, 0xE007F), (0xF0000, 0xFFFFD), (0x100000, 0x10FFFD)]

def isShown (c : Char) : Bool :=
  c == ' ' || !(unseenRuns.any fun run => run.1 ≤ c.toNat && c.toNat ≤ run.2)

def trim (text : Text) : Text :=
  trimWith isBlank text

/-- Lower case as far as it leads to ASCII letters: the capital letters, and the Kelvin sign, whose
lower case is the letter k. -/
def lowerChar (c : Char) : Char :=
  if 'A' ≤ c && c ≤ 'Z' then Char.ofNat (c.toNat + 32)
  else if c.toNat == 0x212A then 'k'
  else c

def lower (text : Text) : Text :=
  text.map lowerChar

theorem isBlank_of_isAsciiBlank {c : Char} (h : isAsciiBlank c = true) : isBlank c = true := by
  simp [isBlank, isSpace, h]

example : decimalZeros.length = 61 := rfl

example : isDecimalDigit '7' = true ∧ isDecimalDigit '٣' = true ∧ isDecimalDigit 'x' = false := by
  decide

end XmlCheck.Text
