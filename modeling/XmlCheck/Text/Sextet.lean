import XmlCheck.Text.Basic

/-!
Octets written as characters, four characters for three octets.
-/

namespace XmlCheck.Text

/-- The number that a character stands for where four characters stand for three octets. -/
def sextet? (c : Char) : Option Nat :=
  if 'A' ≤ c && c ≤ 'Z' then some (c.toNat - 65)
  else if 'a' ≤ c && c ≤ 'z' then some (c.toNat - 71)
  else if '0' ≤ c && c ≤ '9' then some (c.toNat + 4)
  else if c = '+' then some 62
  else if c = '/' then some 63
  else none

/-- Reads octets leniently: characters that stand for no number are passed over. `held` counts the
characters of a group so far, `bits` are those of its characters that are in no octet yet, and
`signs` counts the equals signs since the last of them. A group that equals signs fill up ends the
text; one that is left open has no octets. -/
def octetsFrom? : (held bits signs : Nat) → Text → Option (List Nat)
  | held, _, _, [] => if held = 0 then some [] else none
  | held, bits, signs, c :: rest =>
    if c = '=' then
      if held < 2 then octetsFrom? held bits signs rest
      else if 4 ≤ held + (signs + 1) then some []
      else octetsFrom? held bits (signs + 1) rest
    else
      match sextet? c, held with
      | none, _ => octetsFrom? held bits signs rest
      | some value, 0 => octetsFrom? 1 value 0 rest
      | some value, 1 =>
        (octetsFrom? 2 (value % 16) 0 rest).map ((bits * 4 + value / 16) :: ·)
      | some value, 2 =>
        (octetsFrom? 3 (value % 4) 0 rest).map ((bits * 16 + value / 4) :: ·)
      | some value, _ =>
        (octetsFrom? 0 0 0 rest).map ((bits * 64 + value) :: ·)

def octets? (text : Text) : Option (List Nat) :=
  if text.all fun c => c.toNat < 128 then octetsFrom? 0 0 0 text else none

example : octets? "a GVs\nbG8=".toList = some [104, 101, 108, 108, 111] := by decide

end XmlCheck.Text
