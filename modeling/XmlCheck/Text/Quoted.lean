import XmlCheck.Text.Blank

/-!
Quoted names, as error texts show them: in single quotes, unless the name holds a single quote and
no double one, with escapes for what has no picture of its own.
-/

namespace XmlCheck.Text

def hexDigits : (width : Nat) → Nat → Text
  | 0, _ => []
  | width + 1, n => hexDigits width (n / 16) ++ [Nat.digitChar (n % 16)]

def quotedChar (quote c : Char) : Text :=
  if c = quote ∨ c = '\\' then ['\\', c]
  else if c = '\n' then ['\\', 'n']
  else if c = '\r' then ['\\', 'r']
  else if c = '\t' then ['\\', 't']
  else if isShown c then [c]
  else if c.toNat < 0x100 then '\\' :: 'x' :: hexDigits 2 c.toNat
  else if c.toNat < 0x10000 then '\\' :: 'u' :: hexDigits 4 c.toNat
  else '\\' :: 'U' :: hexDigits 8 c.toNat

def quoteFor (name : Text) : Char :=
  if name.contains '\x27' && !name.contains '"' then '"' else '\x27'

def quoted (name : Text) : Text :=
  let quote := quoteFor name
  quote :: name.flatMap (quotedChar quote) ++ [quote]

example : quoted ['a', '\x27', 'b'] = ['"', 'a', '\x27', 'b', '"'] := by decide

end XmlCheck.Text
