import XmlCheck.Schema.Moment
import XmlCheck.Xml.Node

/-!
The values that texts of simple types stand for, and how two of them compare.
-/

namespace XmlCheck.Schema

/-- Numbers with a decimal exponent, two infinities and the value that is no number. -/
inductive Real
  | finite (coefficient exponent : Int)
  | infinite (negative : Bool)
  | noNumber
  deriving DecidableEq, Repr

namespace Real

/-- Exponents beyond which a number is infinite or zero. -/
def exponentLimit : Int := 400

def ofParts (negative : Bool) (whole fraction : Text) (exponent : Int) : Real :=
  let digits := Text.natOfDigits (whole ++ fraction)
  let exponent := exponent - fraction.length
  let reach := exponent + (Text.ofNat digits).length
  if digits = 0 || reach < -exponentLimit then .finite 0 0
  else if exponentLimit < reach then .infinite negative
  else .finite (if negative then -digits else digits) exponent

/-- Where a number stands: below, within or above the finite ones, with its exact value there. -/
def rank : Real → Int × Decimal
  | .finite c e =>
    if e < 0 then (0, ⟨c, e.natAbs⟩) else (0, ⟨c * Nat.pow 10 e.natAbs, 0⟩)
  | .infinite negative => (if negative then -1 else 1, ⟨0, 0⟩)
  | .noNumber => (2, ⟨0, 0⟩)

/-- The order of two numbers; the value that is no number comes last and equals itself. -/
def order (a b : Real) : Ordering :=
  let x := a.rank
  let y := b.rank
  if x.1 = y.1 then x.2.order y.2 else compare x.1 y.1

end Real

inductive Value
  | text (content : Text)
  | decimal (number : Decimal) (whole : Bool)
  | real (number : Real)
  | truth (holds : Bool)
  | moment (moment : Moment)
  | duration (duration : Duration)
  | name (name : Xml.QName)
  | octets (count : Nat) (digits : Text)
  deriving DecidableEq, Repr

namespace Value

def order? : Value → Value → Option Ordering
  | .decimal a _, .decimal b _ => some (a.order b)
  | .real a, .real b => some (a.order b)
  | .moment a, .moment b => if a.kind = b.kind then a.order? b else none
  | .duration a, .duration b => a.order? b
  | _, _ => none

def same (a b : Value) : Bool :=
  a = b || order? a b = some .eq

def sameRow : List Value → List Value → Bool
  | [], [] => true
  | a :: as, b :: bs => same a b && sameRow as bs
  | _, _ => false

/-- How long a value is: the characters of a text, or the octets. -/
def length? : Value → Option Nat
  | .text content => some content.length
  | .octets count _ => some count
  | _ => none

/-- The text of a value in its standard form, where that differs from how it was written. -/
def standardForm? : Value → Option Text
  | .decimal number whole => some (number.toText (!whole))
  | .truth b => some (if b then "true" else "false")
  | .name q => some q.toText
  | _ => none

end Value

end XmlCheck.Schema
