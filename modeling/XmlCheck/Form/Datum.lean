import XmlCheck.Text.Basic

/-!
Data as they come from outside, before anything is known of their form: a request body, a settings
file or a record. Keys of a mapping may be any data.
-/

namespace XmlCheck

/-- A datum of no particular form. A decimal is the quotient of its mantissa by a power of ten. -/
inductive Datum
  | null
  | flag (value : Bool)
  | integer (value : Int)
  | decimal (mantissa : Int) (places : Nat)
  | text (value : Text)
  /-- A text with code points that are no characters: halves of surrogate pairs. -/
  | loose (codes : List Nat)
  | octets (value : List UInt8)
  | list (items : List Datum)
  | mapping (entries : List (Datum × Datum))
  /-- A datum of a kind that nothing here is made of, such as a date, and the text for it. -/
  | foreign (shown : Text)

namespace Datum

def ofCodes (codes : List Nat) : Datum :=
  if codes.all fun code => code.isValidChar then .text (codes.map Char.ofNat) else .loose codes

def isName (name : Text) : Datum → Bool
  | .text value => value == name
  | _ => false

def field? (name : Text) (entries : List (Datum × Datum)) : Option Datum :=
  (entries.find? fun e => e.1.isName name).map (·.2)

def withoutField (name : Text) (entries : List (Datum × Datum)) : List (Datum × Datum) :=
  entries.filter fun e => !e.1.isName name

mutual

def isPlain : Datum → Bool
  | .loose _ => false
  | .list items => arePlain items
  | .mapping entries => entriesPlain entries
  | _ => true

def arePlain : List Datum → Bool
  | [] => true
  | item :: items => isPlain item && arePlain items

def entriesPlain : List (Datum × Datum) → Bool
  | [] => true
  | (key, value) :: entries => isPlain key && isPlain value && entriesPlain entries

end

/-- Whether a datum holds nothing: null, false, zero and what is empty. -/
def isVoid : Datum → Bool
  | .null => true
  | .flag value => !value
  | .integer value => value == 0
  | .decimal mantissa _ => mantissa == 0
  | .text value => value.isEmpty
  | .loose codes => codes.isEmpty
  | .octets value => value.isEmpty
  | .list items => items.isEmpty
  | .mapping entries => entries.isEmpty
  | .foreign _ => false

end Datum

end XmlCheck
