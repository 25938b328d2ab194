import XmlCheck.Form.Datum
import XmlCheck.Text.Digit
import XmlCheck.Text.Quoted
import XmlCheck.Yaml.Tag

/-!
The values of numbers and dates that are written in a settings text. A text that only a tag declares
to be a number need not be one.
-/

namespace XmlCheck.Yaml

inductive ValueFault
  | emptyNumber
  | notInteger (base : Nat) (text : Text)
  | tooManyDigits (count : Nat)
  | notDecimal (text : Text)
  | notFlag
  | noMoment (flaw : Moment.Flaw)
  | nestedKey
  deriving DecidableEq, Repr

def ValueFault.message : ValueFault → Text
  | .emptyNumber => "string index out of range"
  | .notInteger base text =>
    ("invalid literal for int() with base " : Text) ++ Text.ofNat base ++ ": " ++
      (Text.quoted text).take 200
  | .tooManyDigits count =>
    ("Exceeds the limit (4300 digits) for integer string conversion: value has " : Text) ++
      Text.ofNat count ++ " digits; use sys.set_int_max_str_digits() to increase the limit"
  | .notDecimal text => ("could not convert string to float: " : Text) ++ Text.quoted text
  | .noMoment flaw => flaw.message
  | .notFlag | .nestedKey => []

namespace Number

def withoutGaps (text : Text) : Text :=
  text.filter (· != '_')

/-- A number in the form in which it is read: without white space around it, and whether it has a
minus sign in front. -/
def unsigned (text : Text) : Bool × Text :=
  match Text.trimWith Text.isAsciiBlank (text.map Text.asciiForm) with
  | '-' :: rest => (true, rest)
  | '+' :: rest => (false, rest)
  | rest => (false, rest)

/-- The digits of a number after the mark for its base, which may be left out. -/
def withoutMark (base : Nat) (digits : Text) : Text :=
  match digits with
  | '0' :: c :: rest =>
    let isMark :=
      (base == 2 && (c == 'b' || c == 'B')) || (base == 8 && (c == 'o' || c == 'O')) ||
        (base == 16 && (c == 'x' || c == 'X'))
    if isMark then rest else digits
  | _ => digits

def valueOf (base : Nat) (digits : Text) : Nat :=
  digits.foldl (fun value c => value * base + (Text.digitValue? base c).getD 0) 0

def digitLimit : Nat := 4300

def signed (isNegative : Bool) (size : Nat) : Int :=
  if isNegative then -(size : Int) else size

def integerIn (base : Nat) (text : Text) : Except ValueFault Int :=
  let (isNegative, number) := unsigned text
  let digits := withoutMark base number
  let run := digits.takeWhile fun c => (Text.digitValue? base c).isSome
  if base = 10 ∧ digitLimit < run.length then .error (.tooManyDigits run.length)
  else if run.isEmpty || run.length < digits.length then .error (.notInteger base text)
  else .ok (signed isNegative (valueOf base run))

def baseInteger (text : Text) : Except ValueFault Int :=
  match text with
  | '0' :: 'b' :: digits => integerIn 2 digits
  | '0' :: 'x' :: digits => integerIn 16 digits
  | '0' :: 'o' :: digits => integerIn 8 digits
  | digits => integerIn 10 digits

/-- An integer. After its sign and its base comes a number that may have both once more. -/
def integer (text : Text) : Except ValueFault Datum :=
  match withoutGaps text with
  | [] => .error .emptyNumber
  | '-' :: rest => (baseInteger rest).map fun n => .integer (-n)
  | '+' :: rest => (baseInteger rest).map .integer
  | rest => (baseInteger rest).map .integer

def exponentLimit : Nat := 400

/-- Where the numbers begin that are taken for infinite: the middle between the greatest number of
53 binary digits with an exponent below 1024 and the next one. -/
def infinityBound : Nat :=
  Nat.pow 2 1024 - Nat.pow 2 970

def infinity (isNegative : Bool) : Datum :=
  .foreign (if isNegative then "-inf" else "inf")

/-- The decimal `digits` times the power of ten with an exponent. A number that is too great is
infinite. -/
def scaled (isNegative : Bool) (digits : Nat) (exponent : Int) : Datum :=
  let size := exponent + (Text.ofNat digits).length
  if digits = 0 || size < -(exponentLimit : Int) then .decimal 0 0
  else if (exponentLimit : Int) < size || infinityBound * Nat.pow 10 (-exponent).toNat ≤
      digits * Nat.pow 10 exponent.toNat then
    infinity isNegative
  else .decimal (signed isNegative (digits * Nat.pow 10 exponent.toNat)) (-exponent).toNat

def exponentValue? (text : Text) : Option Int :=
  let digits := Tag.unsigned text
  if Tag.isRun Char.isDigit digits then
    some (signed (text.head? == some '-') (valueOf 10 digits))
  else none

def unsignedDecimal? (isNegative : Bool) (text : Text) : Option Datum :=
  let whole := text.takeWhile Char.isDigit
  let rest := text.dropWhile Char.isDigit
  let (places, rest) : Text × Text :=
    match rest with
    | '.' :: rest => (rest.takeWhile Char.isDigit, rest.dropWhile Char.isDigit)
    | rest => ([], rest)
  let exponent? :=
    match rest with
    | [] => some 0
    | c :: rest => if c == 'e' then exponentValue? rest else none
  exponent?.bind fun exponent =>
    if (whole ++ places).isEmpty then none
    else some (scaled isNegative (valueOf 10 (whole ++ places)) (exponent - places.length))

/-- A decimal number in lower case, which may have a sign of its own, after a sign. -/
def signedDecimal? (isNegative : Bool) (text : Text) : Option Datum :=
  let (isOpposite, number) := unsigned text
  let isNegative := isNegative != isOpposite
  if number == "inf" || number == "infinity" then some (infinity isNegative)
  else if number == "nan" then some (.foreign "nan")
  else unsignedDecimal? isNegative number

def decimal (text : Text) : Except ValueFault Datum :=
  let number := Text.lower (withoutGaps text)
  let isNegative := number.head? == some '-'
  let size := Tag.unsigned number
  if number.isEmpty then .error .emptyNumber
  else if size == ".inf" then .ok (infinity isNegative)
  else if size == ".nan" then .ok (.foreign "nan")
  else
    match signedDecimal? isNegative size with
    | some datum => .ok datum
    | none => .error (.notDecimal size)

def flagWords : List (Text × Bool) :=
  [("yes".toList, true), ("no".toList, false), ("y".toList, true), ("n".toList, false),
    ("true".toList, true), ("false".toList, false), ("on".toList, true), ("off".toList, false)]

def flag (text : Text) : Except ValueFault Datum :=
  match flagWords.lookup (text.map Char.toLower) with
  | some value => .ok (.flag value)
  | none => .error .notFlag

def moment (moment : Moment) : Except ValueFault Datum :=
  match moment.text with
  | .ok shown => .ok (.foreign shown)
  | .error flaw => .error (.noMoment flaw)

end Number

end XmlCheck.Yaml
