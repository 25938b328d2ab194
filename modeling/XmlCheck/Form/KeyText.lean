import XmlCheck.Form.Datum
import XmlCheck.Text.Quoted

/-!
How a datum is told when it is the key under which a fault was found.
-/

namespace XmlCheck.Datum

def significant (digits : Text) : Text × Nat :=
  let kept := Text.dropWhileEnd (· == '0') digits
  (kept, digits.length - kept.length)

def exponentText (exponent : Int) : Text :=
  let size := Text.ofNat exponent.natAbs
  (if exponent < 0 then ['e', '-'] else ['e', '+']) ++
    (if size.length = 1 then '0' :: size else size)

/-- A decimal of up to fifteen digits: with a point where the first digit stands not far from it, in
the form with an exponent elsewhere. -/
def decimalText (mantissa : Int) (places : Nat) : Text :=
  let sign : Text := if mantissa < 0 then ['-'] else []
  let (digits, zeros) := significant (Text.ofNat mantissa.natAbs)
  if mantissa = 0 then "0.0"
  else
    let point : Int := (digits.length + zeros : Nat) - places
    if -4 < point ∧ point ≤ 16 then
      if point ≤ 0 then sign ++ "0." ++ Text.repeated point.natAbs '0' ++ digits
      else if digits.length ≤ point.toNat then
        sign ++ digits ++ Text.repeated (point.toNat - digits.length) '0' ++ ".0"
      else sign ++ digits.take point.toNat ++ "." ++ digits.drop point.toNat
    else
      match digits with
      | [] => sign
      | [d] => sign ++ d :: exponentText (point - 1)
      | d :: more => sign ++ d :: '.' :: more ++ exponentText (point - 1)

def octetsText (octets : List UInt8) : Text :=
  let quote := Text.quoteFor (octets.map fun octet => Char.ofNat octet.toNat)
  let shown (octet : UInt8) : Text :=
    if octet.toNat < 0x7F then Text.quotedChar quote (Char.ofNat octet.toNat)
    else '\\' :: 'x' :: Text.hexDigits 2 octet.toNat
  'b' :: quote :: octets.flatMap shown ++ [quote]

def looseText (codes : List Nat) : Text :=
  let quote := Text.quoteFor (codes.map Char.ofNat)
  let shown (code : Nat) : Text :=
    if code.isValidChar then Text.quotedChar quote (Char.ofNat code)
    else '\\' :: 'u' :: Text.hexDigits 4 code
  quote :: codes.flatMap shown ++ [quote]

mutual

def itemText : Datum → Text
  | .null => "None"
  | .flag true => "True"
  | .flag false => "False"
  | .integer value => Text.ofInt value
  | .decimal mantissa places => decimalText mantissa places
  | .text value => Text.quoted value
  | .loose codes => looseText codes
  | .octets value => octetsText value
  | .list [item] => ['('] ++ itemText item ++ [',', ')']
  | .list items => ['('] ++ Text.join [',', ' '] (itemTexts items) ++ [')']
  | .mapping _ => "\x7b\x7d"
  | .foreign shown => shown

def itemTexts : List Datum → List Text
  | [] => []
  | item :: items => itemText item :: itemTexts items

end

/-- A datum as a key. Flags are told by their numbers. -/
def keyText : Datum → Text
  | .text value => value
  | .flag true => "1"
  | .flag false => "0"
  | key => itemText key

example : keyText (.decimal 15 1) = "1.5".toList ∧ keyText (.decimal 1000 0) = "1000.0".toList ∧
    keyText (.list [.text ['a'], .octets [0x62, 0xFF]]) = "('a', b'b\\xff')".toList := by
  decide +kernel

end XmlCheck.Datum
