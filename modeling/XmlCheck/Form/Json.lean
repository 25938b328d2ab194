import XmlCheck.Form.Datum
import XmlCheck.Text.Blank
import XmlCheck.Text.Digit

/-!
JSON texts read into data. A text that is no JSON gives the offset, in characters, of the place
where the reading stops. The offset is carried as the length of what is left of the text.
-/

namespace XmlCheck.Json

/-- A reading step: a value and the rest of the text, or what was left at the fault. -/
abbrev Step (α : Type) := Except Nat (α × Text)

def isGap (c : Char) : Bool :=
  c == ' ' || c == '\t' || c == '\n' || c == '\r'

def dropGap (text : Text) : Text :=
  text.dropWhile isGap

def fourHex? : Text → Option (Nat × Text)
  | a :: b :: c :: d :: e :: rest =>
    match Text.digitValue? 16 a, Text.digitValue? 16 b, Text.digitValue? 16 c,
      Text.digitValue? 16 d with
    | some a, some b, some c, some d => some (((a * 16 + b) * 16 + c) * 16 + d, e :: rest)
    | _, _, _, _ => none
  | _ => none

def shortEscape? : Char → Option Char
  | '"' => some '"'
  | '\\' => some '\\'
  | '/' => some '/'
  | 'b' => some '\x08'
  | 'f' => some '\x0c'
  | 'n' => some '\n'
  | 'r' => some '\r'
  | 't' => some '\t'
  | _ => none

def readCode (letter : Nat) (text : Text) : Step Nat :=
  match fourHex? text with
  | none => .error letter
  | some (high, rest) =>
    if 0xD800 ≤ high ∧ high ≤ 0xDBFF then
      match rest with
      | '\\' :: 'u' :: more =>
        match fourHex? more with
        | some (low, rest') =>
          if 0xDC00 ≤ low ∧ low ≤ 0xDFFF then
            .ok (0x10000 + (high - 0xD800) * 0x400 + (low - 0xDC00), rest')
          else .ok (high, rest)
        | none => .ok (high, rest)
      | _ => .ok (high, rest)
    else .ok (high, rest)

/-- Reads the rest of a string; `start` is what was left at its opening quote, `codes` holds the
code points so far, the last one first. -/
def readString (start : Nat) : (bound : Nat) → (codes : List Nat) → (rest : Text) → Step Datum
  | 0, _, _ => .error start
  | _, _, [] => .error start
  | _ + 1, codes, '"' :: rest => .ok (.ofCodes codes.reverse, rest)
  | _ + 1, _, ['\\'] => .error start
  | bound + 1, codes, '\\' :: 'u' :: rest =>
    match readCode (rest.length + 1) rest with
    | .ok (code, rest) => readString start bound (code :: codes) rest
    | .error left => .error left
  | bound + 1, codes, '\\' :: c :: rest =>
    match shortEscape? c with
    | some c => readString start bound (c.toNat :: codes) rest
    | none => .error (rest.length + 2)
  | bound + 1, codes, c :: rest =>
    if c.toNat < 32 then .error (rest.length + 1)
    else readString start bound (c.toNat :: codes) rest

def exponentLimit : Nat := 1000

def exponent? : Text → Option (Bool × Nat × Text)
  | 'e' :: rest | 'E' :: rest =>
    let (negative, digits) :=
      match rest with
      | '-' :: more => (true, more)
      | '+' :: more => (false, more)
      | more => (false, more)
    match digits.takeWhile Char.isDigit with
    | [] => none
    | run => some (negative, Text.natOfDigits run, digits.dropWhile Char.isDigit)
  | _ => none

/-- Reads an unsigned number; `left` is what was left at its sign. -/
def readUnsigned (left : Nat) (negative : Bool) (text : Text) : Step Datum :=
  let whole :=
    match text with
    | '0' :: _ => ['0']
    | _ => text.takeWhile Char.isDigit
  if whole.isEmpty then .error left
  else
    let sign (n : Nat) : Int := if negative then -(n : Int) else n
    let rest := text.drop whole.length
    let places :=
      match rest with
      | '.' :: more => more.takeWhile Char.isDigit
      | _ => []
    let rest := if places.isEmpty then rest else rest.drop (places.length + 1)
    let digits := Text.natOfDigits (whole ++ places)
    match exponent? rest with
    | some (true, n, rest) =>
      .ok (.decimal (sign digits) (places.length + min n exponentLimit), rest)
    | some (false, n, rest) =>
      .ok (.decimal (sign (digits * Nat.pow 10 (min n exponentLimit))) places.length, rest)
    | none =>
      if places.isEmpty then .ok (.integer (sign digits), rest)
      else .ok (.decimal (sign digits) places.length, rest)

def readNumber (text : Text) : Step Datum :=
  match text with
  | '-' :: rest => readUnsigned text.length true rest
  | _ => readUnsigned text.length false text

/-- The words that stand for data; those for numbers without digits are accepted as well. -/
def words : List (Text × Datum) :=
  [("null", .null), ("true", .flag true), ("false", .flag false), ("NaN", .foreign "nan"),
    ("Infinity", .foreign "inf"), ("-Infinity", .foreign "-inf")]

def isSameKey : Datum → Datum → Bool
  | .text first, .text second => first == second
  | .loose first, .loose second => first == second
  | _, _ => false

/-- The entries with a value under a key: in the place of an earlier one, else as the newest. -/
def putEntry (key value : Datum) (entries : List (Datum × Datum)) : List (Datum × Datum) :=
  if entries.any fun e => isSameKey e.1 key then
    entries.map fun e => if isSameKey e.1 key then (e.1, value) else e
  else (key, value) :: entries

mutual

def readValue : (bound : Nat) → Text → Step Datum
  | 0, text => .error text.length
  | bound + 1, text =>
    match text with
    | [] => .error 0
    | '"' :: rest => readString text.length text.length [] rest
    | '\x7b' :: rest =>
      match dropGap rest with
      | '\x7d' :: rest => .ok (.mapping [], rest)
      | rest => (readEntries bound [] rest).map fun s => (.mapping s.1, s.2)
    | '[' :: rest =>
      match dropGap rest with
      | ']' :: rest => .ok (.list [], rest)
      | rest => (readItems bound [] rest).map fun s => (.list s.1, s.2)
    | _ =>
      match words.findSome? fun w => (Text.after? w.1 text).map fun rest => (w.2, rest) with
      | some s => .ok s
      | none => readNumber text

/-- Reads the items of a list, after those in `items`, the last one first. -/
def readItems : (bound : Nat) → List Datum → Text → Step (List Datum)
  | 0, _, text => .error text.length
  | bound + 1, items, text =>
    match readValue bound text with
    | .error left => .error left
    | .ok (item, rest) =>
      match dropGap rest with
      | ']' :: rest => .ok ((item :: items).reverse, rest)
      | ',' :: rest => readItems bound (item :: items) (dropGap rest)
      | rest => .error rest.length

def readEntries : (bound : Nat) → List (Datum × Datum) → Text → Step (List (Datum × Datum))
  | 0, _, text => .error text.length
  | bound + 1, entries, text =>
    match text with
    | '"' :: rest =>
      match readString text.length text.length [] rest with
      | .error left => .error left
      | .ok (key, rest) =>
        match dropGap rest with
        | ':' :: rest =>
          match readValue bound (dropGap rest) with
          | .error left => .error left
          | .ok (value, rest) =>
            let entries := putEntry key value entries
            match dropGap rest with
            | '\x7d' :: rest => .ok (entries.reverse, rest)
            | ',' :: rest => readEntries bound entries (dropGap rest)
            | rest => .error rest.length
        | rest => .error rest.length
    | _ => .error text.length

end

/-- The datum that a text stands for, or the offset at which it is no JSON. -/
def read (text : Text) : Except Nat Datum :=
  match readValue (2 * text.length + 2) (dropGap text) with
  | .error left => .error (text.length - left)
  | .ok (datum, rest) =>
    match dropGap rest with
    | [] => .ok datum
    | rest => .error (text.length - rest.length)

end XmlCheck.Json
