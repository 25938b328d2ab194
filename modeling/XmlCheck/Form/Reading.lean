import XmlCheck.Form.Datum
import XmlCheck.Text.Blank
import XmlCheck.Text.Utf8

/-!
Reading data into types. A reading goes on after a fault, so that all faults of a record are found,
in the order of its fields; each fault has the place where it stands and its kind. Readers accept
the usual other spellings of a value: a numeral for a number, a word such as `yes` for a flag.
-/

namespace XmlCheck

inductive FaultKind
  | missing
  | notText
  | notUnicode
  | notInteger
  | notNumeral
  | notIntegral
  | numeralTooLarge
  | notFlag
  | notFlagWord
  | negative
  | unknownChoice
  | notList
  | notMapping
  | notRecord
  | notRecordBody
  | notOctets
  | notPath
  | textTooShort
  | listTooShort
  | listTooLong
  | brokenJson
  deriving DecidableEq, Repr

def FaultKind.name : FaultKind → Text
  | .missing => "missing"
  | .notText => "string_type"
  | .notUnicode => "string_unicode"
  | .notInteger => "int_type"
  | .notNumeral => "int_parsing"
  | .notIntegral => "int_from_float"
  | .numeralTooLarge => "int_parsing_size"
  | .notFlag => "bool_type"
  | .notFlagWord => "bool_parsing"
  | .negative => "greater_than_equal"
  | .unknownChoice => "enum"
  | .notList => "list_type"
  | .notMapping => "dict_type"
  | .notRecord => "model_type"
  | .notRecordBody => "model_attributes_type"
  | .notOctets => "bytes_type"
  | .notPath => "path_type"
  | .textTooShort => "string_too_short"
  | .listTooShort => "too_short"
  | .listTooLong => "too_long"
  | .brokenJson => "json_invalid"

structure Fault where
  place : List Text
  kind : FaultKind
  deriving DecidableEq, Repr

abbrev Reading (α : Type) := Except (List Fault) α

namespace Reading

variable {α β γ : Type}

def fault (kind : FaultKind) : Reading α :=
  .error [⟨[], kind⟩]

def under (key : Text) : Reading α → Reading α
  | .ok value => .ok value
  | .error faults => .error (faults.map fun f => { f with place := key :: f.place })

/-- Two readings put together; the faults of the first come first. -/
def combine (f : α → β → γ) : Reading α → Reading β → Reading γ
  | .ok a, .ok b => .ok (f a b)
  | .ok _, .error faults => .error faults
  | .error faults, .ok _ => .error faults
  | .error faults, .error more => .error (faults ++ more)

def andField (field : Reading α) (record : Reading (α → β)) : Reading β :=
  combine (fun f a => f a) record field

def record (make : α) : Reading α :=
  .ok make

def eachFrom (read : Datum → Reading α) : (index : Nat) → List Datum → Reading (List α)
  | _, [] => .ok []
  | index, item :: rest =>
    combine List.cons (under (Text.ofNat index) (read item)) (eachFrom read (index + 1) rest)

def required (name : Text) (read : Datum → Reading α) (entries : List (Datum × Datum)) :
    Reading α :=
  under name <|
    match Datum.field? name entries with
    | some value => read value
    | none => fault .missing

def optional (name : Text) (absent : α) (read : Datum → Reading α)
    (entries : List (Datum × Datum)) : Reading α :=
  match Datum.field? name entries with
  | some value => under name (read value)
  | none => .ok absent

theorem combine_eq_ok {f : α → β → γ} {a : Reading α} {b : Reading β} {c : γ} :
    combine f a b = .ok c ↔ ∃ x y, a = .ok x ∧ b = .ok y ∧ f x y = c := by
  cases a <;> cases b <;> simp [combine]

end Reading

namespace Datum

/-- A text: also octets that are UTF-8. -/
def toText : Datum → Reading Text
  | .text value => .ok value
  | .loose _ => Reading.fault .notUnicode
  | .octets value =>
    match Utf8.decode value with
    | .ok decoded => .ok decoded
    | .error _ => Reading.fault .notUnicode
  | _ => Reading.fault .notText

def numeralValue? : (value : Nat) → (after : Bool) → Text → Option Nat
  | value, after, [] => if after then some value else none
  | value, after, c :: rest =>
    if c.isDigit then numeralValue? (value * 10 + (c.toNat - 48)) true rest
    else if c = '_' ∧ after then numeralValue? value false rest
    else none

def dropZeros (numeral : Text) : Text :=
  match numeral with
  | '0' :: _ =>
    match numeral.dropWhile fun c => c == '0' || c == '_' with
    | '.' :: rest => '0' :: '.' :: rest
    | [] => numeral.drop (numeral.length - 1)
    | rest => rest
  | _ => numeral

/-- The value of an unsigned numeral: decimal places are accepted if they are zeros. -/
def unsignedValue? (numeral : Text) : Option Nat :=
  match numeral with
  | [] => none
  | c :: _ =>
    if c.isDigit then
      let digits := dropZeros numeral
      let whole := digits.takeWhile (· != '.')
      if (digits.drop (whole.length + 1)).all (· == '0') then numeralValue? 0 false whole
      else none
    else none

def numeral? (text : Text) : Option Int :=
  match Text.trimWith Text.isSpace text with
  | '-' :: rest => (unsignedValue? rest).map fun n => -(n : Int)
  | '+' :: rest => (unsignedValue? rest).map fun n => (n : Int)
  | rest => (unsignedValue? rest).map fun n => (n : Int)

def integral? (mantissa : Int) (places : Nat) : Option Int :=
  if mantissa.tmod (Nat.pow 10 places) = 0 then some (mantissa.tdiv (Nat.pow 10 places)) else none

/-- An integer: also a flag, a decimal that equals an integer, or a numeral. -/
def toInt : Datum → Reading Int
  | .integer value => .ok value
  | .flag value => .ok (if value then 1 else 0)
  | .decimal mantissa places =>
    match integral? mantissa places with
    | none => Reading.fault .notIntegral
    | some value =>
      if value.natAbs < Nat.pow 2 63 then .ok value else Reading.fault .numeralTooLarge
  | .text value =>
    match numeral? value with
    | some n => .ok n
    | none => Reading.fault .notNumeral
  | _ => Reading.fault .notInteger

def toCount (datum : Datum) : Reading Nat :=
  match datum.toInt with
  | .ok value => if 0 ≤ value then .ok value.toNat else Reading.fault .negative
  | .error faults => .error faults

def flagWords : List (Text × Bool) :=
  [("0", false), ("off", false), ("f", false), ("false", false), ("n", false), ("no", false),
    ("1", true), ("on", true), ("t", true), ("true", true), ("y", true), ("yes", true)]

def flagOfInt (value : Int) : Reading Bool :=
  if value = 0 then .ok false else if value = 1 then .ok true else Reading.fault .notFlagWord

/-- A flag: also 0 and 1, or a word in any case. -/
def toFlag : Datum → Reading Bool
  | .flag value => .ok value
  | .integer value => flagOfInt value
  | .decimal mantissa places =>
    match integral? mantissa places with
    | some value => flagOfInt value
    | none => Reading.fault .notFlag
  | .text value =>
    match flagWords.lookup (Text.lower value) with
    | some answer => .ok answer
    | none => Reading.fault .notFlagWord
  | _ => Reading.fault .notFlag

def toList {α : Type} (read : Datum → Reading α) : Datum → Reading (List α)
  | .list items => Reading.eachFrom read 0 items
  | _ => Reading.fault .notList

def toOption {α : Type} (read : Datum → Reading α) : Datum → Reading (Option α)
  | .null => .ok none
  | datum => (read datum).map some

def toChoice {α : Type} (choice? : Text → Option α) (datum : Datum) : Reading α :=
  match datum.toText with
  | .ok value =>
    match choice? value with
    | some choice => .ok choice
    | none => Reading.fault .unknownChoice
  | .error _ => Reading.fault .unknownChoice

def toRecord {α : Type} (read : List (Datum × Datum) → Reading α) : Datum → Reading α
  | .mapping entries => read entries
  | _ => Reading.fault .notRecord

end Datum

end XmlCheck
