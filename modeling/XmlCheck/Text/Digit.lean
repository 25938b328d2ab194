import XmlCheck.Text.Basic

/-!
Digits in bases up to sixteen, and the numbers that rows of decimal digits stand for. The number of
the digits that a number is written with is that number.
-/

namespace XmlCheck.Text

def digitValue? (base : Nat) (c : Char) : Option Nat :=
  let value :=
    if '0' ≤ c ∧ c ≤ '9' then c.toNat - 48
    else if 'a' ≤ c ∧ c ≤ 'f' then c.toNat - 87
    else if 'A' ≤ c ∧ c ≤ 'F' then c.toNat - 55
    else base
  if value < base then some value else none

def natOfDigits (digits : Text) : Nat :=
  Nat.ofDigitChars 10 digits 0

theorem lt_of_digitValue? {base value : Nat} {c : Char} (h : digitValue? base c = some value) :
    value < base := by
  simp only [digitValue?, Option.ite_none_right_eq_some, Option.some.injEq] at h
  exact h.2 ▸ h.1

theorem natOfDigits_ofNat (n : Nat) : natOfDigits (ofNat n) = n :=
  Nat.ofDigitChars_toDigits (by decide) (by decide)

end XmlCheck.Text
