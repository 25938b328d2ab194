import XmlCheck.Yaml.Moment

/-!
Tags say of what type a node is. A plain scalar without a tag has the type that its text looks like.
-/

namespace XmlCheck.Yaml

inductive Tag
  | null
  | flag
  | integer
  | decimal
  | moment
  | octets
  | text
  | sequence
  | mapping
  | orderedMapping
  | pairs
  | set
  /-- The key of mappings whose entries are taken over. -/
  | merge
  /-- The key of a value that stands for the whole mapping. -/
  | value
  | other (name : Text)
  deriving DecidableEq, Repr

namespace Tag

def standardTags : Text := "tag:yaml.org,2002:"

def standardNames : List (Text × Tag) :=
  [("null".toList, .null), ("bool".toList, .flag), ("int".toList, .integer),
    ("float".toList, .decimal), ("timestamp".toList, .moment), ("binary".toList, .octets),
    ("str".toList, .text), ("seq".toList, .sequence), ("map".toList, .mapping),
    ("omap".toList, .orderedMapping), ("pairs".toList, .pairs), ("set".toList, .set),
    ("merge".toList, .merge), ("value".toList, .value)]

def ofName (name : Text) : Tag :=
  match (Text.after? standardTags name).bind fun rest => standardNames.lookup rest with
  | some tag => tag
  | none => .other name

def nullWords : List Text :=
  ["".toList, "~".toList, "null".toList, "Null".toList, "NULL".toList]

def flagWords : List Text :=
  ["true".toList, "True".toList, "TRUE".toList, "false".toList, "False".toList, "FALSE".toList]

def infinityWords : List Text :=
  [".inf".toList, ".Inf".toList, ".INF".toList]

def nanWords : List Text :=
  [".nan".toList, ".NaN".toList, ".NAN".toList]

def isDigitOrGap (c : Char) : Bool :=
  c.isDigit || c == '_'

def isRun (p : Char → Bool) (text : Text) : Bool :=
  !text.isEmpty && text.all p

def unsigned : Text → Text
  | '-' :: rest => rest
  | '+' :: rest => rest
  | digits => digits

def isExponent (needsSign : Bool) : Text → Bool
  | c :: rest =>
    (c == 'e' || c == 'E') &&
      match rest with
      | '-' :: digits => isRun Char.isDigit digits
      | '+' :: digits => isRun Char.isDigit digits
      | digits => !needsSign && isRun Char.isDigit digits
  | [] => false

/-- Whether a text is a decimal number without its sign: with a point, an exponent or both. After a
leading point the exponent has to have a sign. -/
def isUnsignedDecimal (text : Text) : Bool :=
  let whole := text.takeWhile isDigitOrGap
  let rest := text.dropWhile isDigitOrGap
  match whole, rest with
  | [], '.' :: rest =>
    let exponent := rest.dropWhile isDigitOrGap
    !(rest.takeWhile isDigitOrGap).isEmpty && (exponent.isEmpty || isExponent true exponent)
  | c :: _, '.' :: rest =>
    let exponent := rest.dropWhile isDigitOrGap
    c.isDigit && (exponent.isEmpty || isExponent false exponent)
  | c :: _, _ => c.isDigit && isExponent false rest
  | [], _ => false

def isDecimal (text : Text) : Bool :=
  isUnsignedDecimal (unsigned text) || infinityWords.contains (unsigned text) ||
    nanWords.contains text

def isInteger (text : Text) : Bool :=
  let isGapOr (p : Char → Bool) (c : Char) : Bool := p c || c == '_'
  let startsRight := text.head?.any fun c => c.isDigit || c == '-' || c == '+'
  startsRight &&
    match unsigned text with
    | '0' :: 'b' :: digits => isRun (isGapOr fun c => c == '0' || c == '1') digits
    | '0' :: 'o' :: digits => isRun (isGapOr fun c => '0' ≤ c && c ≤ '7') digits
    | '0' :: 'x' :: digits => isRun (isGapOr Char.isHexDigit) digits
    | digits => isRun isDigitOrGap digits

/-- Whether a text looks like a date, or a date and a time. A date alone has two digits for the
month and for the day. -/
def isMoment (text : Text) : Bool :=
  match Moment.ofText? text with
  | some found => found.time.isSome || text.length == 10
  | none => false

def ofPlain (text : Text) : Tag :=
  if flagWords.contains text then .flag
  else if isDecimal text then .decimal
  else if isInteger text then .integer
  else if text == "<<" then .merge
  else if nullWords.contains text then .null
  else if isMoment text then .moment
  else if text == "=" then .value
  else .text

def ofScalar (tag : Option Text) (isImplicit : Bool) (text : Text) : Tag :=
  match tag with
  | some name => ofName name
  | none => if isImplicit then ofPlain text else .text

def ofSequence : Option Text → Tag
  | some name => ofName name
  | none => .sequence

def ofMapping : Option Text → Tag
  | some name => ofName name
  | none => .mapping

example : ofPlain "0x1F".toList = .integer ∧ ofPlain "1_0.5e3".toList = .decimal ∧
    ofPlain "2001-12-14 21:59:43.10 -5".toList = .moment ∧ ofPlain "1.2.3".toList = .text := by
  decide +kernel

end Tag

end XmlCheck.Yaml
