import XmlCheck.Text.Digit

/-!
Exact decimal numbers: a whole number divided by a power of ten.
-/

namespace XmlCheck.Schema

structure Decimal where
  coefficient : Int
  places : Nat := 0
  deriving DecidableEq, Repr

namespace Decimal

def dropZerosAtEnd (digits : Text) : Text :=
  Text.dropWhileEnd (· == '0') digits

/-- The number with the given digits before and after the point, without needless places. -/
def ofDigits (negative : Bool) (whole fraction : Text) : Decimal :=
  let fraction := dropZerosAtEnd fraction
  let n : Int := Text.natOfDigits (whole ++ fraction)
  ⟨if negative then -n else n, fraction.length⟩

def scaledTo (d : Decimal) (places : Nat) : Int :=
  d.coefficient * Nat.pow 10 (places - d.places)

def order (a b : Decimal) : Ordering :=
  let places := max a.places b.places
  compare (a.scaledTo places) (b.scaledTo places)

def add (a b : Decimal) : Decimal :=
  let places := max a.places b.places
  ⟨a.scaledTo places + b.scaledTo places, places⟩

def negate (d : Decimal) : Decimal :=
  { d with coefficient := -d.coefficient }

def digitCount (d : Decimal) : Nat :=
  max d.places (if d.coefficient = 0 then 0 else (Text.ofNat d.coefficient.natAbs).length)

/-- The digits of a number, with a point if `pointed`, and then at least one digit on each side. -/
def toText (pointed : Bool) (d : Decimal) : Text :=
  let digits := Text.ofNat d.coefficient.natAbs
  let digits := Text.repeated (d.places + 1 - digits.length) '0' ++ digits
  let whole := digits.take (digits.length - d.places)
  let fraction := digits.drop (digits.length - d.places)
  (if d.coefficient < 0 then ['-'] else []) ++ whole ++
    (if pointed then '.' :: (if fraction.isEmpty then ['0'] else fraction) else [])

example : (ofDigits true "01".toList "50".toList).toText true = "-1.5".toList := by decide

example : (ofDigits false "0".toList "05".toList).toText true = "0.05".toList := by decide

end Decimal

end XmlCheck.Schema
