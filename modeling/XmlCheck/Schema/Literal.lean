import XmlCheck.Schema.Builtin
import XmlCheck.Schema.Value
import XmlCheck.Text.Sextet
import XmlCheck.Xml.Uri

/-!
How the values of the built-in types are written. Blanks around a value do not count, but for dates
and stretches of time, where only some places allow them.
-/

namespace XmlCheck.Schema

inductive Refusal
  | malformed
  | unboundName
  deriving DecidableEq, Repr

namespace Literal

def digits (text : Text) : Text × Text :=
  (text.takeWhile Char.isDigit, text.dropWhile Char.isDigit)

def trim (text : Text) : Text :=
  Text.trimWith WhiteSpace.isSpace text

def sign : Text → Bool × Text
  | '-' :: rest => (true, rest)
  | '+' :: rest => (false, rest)
  | rest => (false, rest)

def decimal? (text : Text) : Option Decimal :=
  let (negative, rest) := sign (trim text)
  let (whole, rest) := digits rest
  match rest with
  | '.' :: rest =>
    let (fraction, rest) := digits rest
    if rest.isEmpty && !(whole.isEmpty && fraction.isEmpty) then
      some (.ofDigits negative whole fraction)
    else none
  | [] => if whole.isEmpty then none else some (.ofDigits negative whole [])
  | _ => none

structure Range where
  least : Option Int
  most : Option Int
  signed : Bool := true

def Range.ofBits (bits : Nat) : Range :=
  { least := some (-(Nat.pow 2 bits : Nat)), most := some ((Nat.pow 2 bits : Nat) - 1) }

def Range.ofUnsignedBits (bits : Nat) : Range :=
  { least := none, most := some ((Nat.pow 2 bits : Nat) - 1), signed := false }

def range? : Builtin → Option Range
  | .integer => some { least := none, most := none }
  | .nonPositiveInteger => some { least := none, most := some 0 }
  | .negativeInteger => some { least := none, most := some (-1) }
  | .nonNegativeInteger => some { least := some 0, most := none }
  | .positiveInteger => some { least := some 1, most := none }
  | .long => some (.ofBits 63)
  | .int => some (.ofBits 31)
  | .short => some (.ofBits 15)
  | .byte => some (.ofBits 7)
  | .unsignedLong => some (.ofUnsignedBits 64)
  | .unsignedInt => some (.ofUnsignedBits 32)
  | .unsignedShort => some (.ofUnsignedBits 16)
  | .unsignedByte => some (.ofUnsignedBits 8)
  | _ => none

def Range.holds (range : Range) (n : Int) : Bool :=
  ((range.least.map fun m => decide (m ≤ n)).getD true) &&
    ((range.most.map fun m => decide (n ≤ m)).getD true)

def whole? (range : Range) (text : Text) : Option Decimal :=
  let text := trim text
  let (negative, rest) := if range.signed then sign text else (false, text)
  let (whole, rest) := digits rest
  if whole.isEmpty || !rest.isEmpty then none
  else
    let number := Decimal.ofDigits negative whole []
    if range.holds number.coefficient then some number else none

def exponent? : Text → Option Int
  | [] => some 0
  | e :: rest =>
    if e = 'e' || e = 'E' then
      let (negative, rest) := sign rest
      let (ds, rest) := digits rest
      let n : Int := Text.natOfDigits (ds.take 9)
      if rest.isEmpty then some (if negative then -n else n) else none
    else none

/-- A number with an exponent. A plus may follow a minus. -/
def real? (text : Text) : Option Real :=
  let text := text.dropWhile WhiteSpace.isSpace
  if text = ("NaN" : Text) then some .noNumber
  else
    let negative := text.head? = some '-'
    let rest := if negative then text.drop 1 else text
    let rest := if rest.head? = some '+' then rest.drop 1 else rest
    if rest = ("INF" : Text) then some (.infinite negative)
    else
      let (whole, rest) := digits (Text.dropWhileEnd WhiteSpace.isSpace rest)
      let (fraction, rest) := if rest.head? = some '.' then digits (rest.drop 1) else ([], rest)
      if whole.isEmpty && fraction.isEmpty then none
      else (exponent? rest).map fun e => .ofParts negative whole fraction e

def truth? (text : Text) : Option Bool :=
  let text := trim text
  if text = ("true" : Text) || text = ['1'] then some true
  else if text = ("false" : Text) || text = ['0'] then some false
  else none

def twoDigits? : Text → Option (Nat × Text)
  | a :: b :: rest =>
    if a.isDigit && b.isDigit then some (Text.natOfDigits [a, b], rest) else none
  | _ => none

def twoDigitsIn? (least most : Nat) (text : Text) : Option (Nat × Text) :=
  match twoDigits? text with
  | some (n, rest) => if least ≤ n && n ≤ most then some (n, rest) else none
  | none => none

/-- The widest distance of a zone, in minutes. -/
def widestZone : Nat := 14 * 60

/-- A zone up to the end of a text, with its distance in minutes; there may be none. -/
def zone? : Text → Option (Option Int)
  | [] => some none
  | ['Z'] => some (some 0)
  | c :: rest =>
    if c = '+' || c = '-' then
      match twoDigitsIn? 0 23 rest with
      | some (hours, ':' :: rest) =>
        match twoDigitsIn? 0 59 rest with
        | some (minutes, []) =>
          let n := hours * 60 + minutes
          if n ≤ widestZone then some (some (if c = '-' then -(n : Int) else n)) else none
        | _ => none
      | _ => none
    else none

def seconds? (text : Text) : Option (Decimal × Text) :=
  match twoDigitsIn? 0 59 text with
  | some (n, '.' :: rest) =>
    let (fraction, rest) := digits rest
    if fraction.isEmpty then none else some (.ofDigits false (Text.ofNat n) fraction, rest)
  | some (n, rest) => some (⟨n, 0⟩, rest)
  | none => none

/-- A time of day; the hour 24 stands for the end of the day. -/
def timeOfDay? (m : Moment) (text : Text) : Option (Moment × Text) :=
  match twoDigitsIn? 0 24 text with
  | some (hour, ':' :: rest) =>
    match twoDigitsIn? 0 59 rest with
    | some (minute, ':' :: rest) =>
      match seconds? rest with
      | some (second, rest) =>
        if hour = 24 && (minute != 0 || second.coefficient != 0) then none
        else some ({ m with hour, minute, second }, rest)
      | none => none
    | _ => none
  | _ => none

/-- A year: at least four digits, no needless zeros, and no year zero. -/
def year? (text : Text) : Option (Int × Text) :=
  let negative := text.head? = some '-'
  let (ds, rest) := digits (if negative then text.drop 1 else text)
  let n : Int := Text.natOfDigits ds
  if ds.length < 4 || (4 < ds.length && ds.head? = some '0') || n = 0 then none
  else some (if negative then -n else n, rest)

def withZone? (m : Moment) (text : Text) : Option Moment :=
  (zone? text).map fun zone => { m with zone }

def monthOn? (kind : MomentKind) (year : Int) (text : Text) : Option Moment :=
  match twoDigitsIn? 1 12 text with
  | none => none
  | some (month, rest) =>
    if kind = .yearMonth then withZone? { kind, year, month } rest
    else
      match rest with
      | '-' :: rest =>
        match twoDigitsIn? 1 31 rest with
        | none => none
        | some (day, rest) =>
          let m : Moment := { kind, year, month, day }
          if daysInMonth year month < day then none
          else if kind = .date then withZone? m rest
          else
            match rest with
            | 'T' :: rest => (timeOfDay? m rest).bind fun r => withZone? r.1 (trim r.2)
            | _ => none
      | _ => none

/-- A year on which every month has all its days. -/
def leapYear : Int := 4

def moment? (kind : MomentKind) (text : Text) : Option Moment :=
  let trimmed := text.dropWhile WhiteSpace.isSpace
  match kind with
  | .time => (timeOfDay? { kind } trimmed).bind fun r => withZone? r.1 r.2
  | .day =>
    match trimmed with
    | '-' :: '-' :: '-' :: rest =>
      (twoDigitsIn? 1 31 rest).bind fun r => withZone? { kind, day := r.1 } r.2
    | _ => none
  | .month =>
    match trimmed with
    | '-' :: '-' :: rest =>
      (twoDigitsIn? 1 12 rest).bind fun r => withZone? { kind, month := r.1 } r.2
    | _ => none
  | .monthDay =>
    match trimmed with
    | '-' :: '-' :: rest =>
      match twoDigitsIn? 1 12 rest with
      | some (month, '-' :: rest) =>
        (twoDigitsIn? 1 (daysInMonth leapYear month) rest).bind fun r =>
          withZone? { kind, month, day := r.1 } r.2
      | _ => none
    | _ => none
  | .year => (year? text).bind fun r => withZone? { kind, year := r.1 } r.2
  | _ =>
    match year? text with
    | some (year, '-' :: rest) => monthOn? kind year rest
    | _ => none

/-- The parts of a stretch of time: the letter, and what it counts in months or seconds. -/
def durationParts : List (Char × Int × Int) :=
  [('Y', 12, 0), ('M', 1, 0), ('D', 0, 86400), ('H', 0, 3600), ('M', 0, 60), ('S', 0, 1)]

/-- Reads parts of a stretch of time from the part with number `next` on. The letter `T` has to come
before the parts of a day. -/
def durationFrom? : (bound next : Nat) → Duration → Text → Option Duration
  | _, _, d, [] => some d
  | 0, _, _, _ => none
  | bound + 1, next, d, text =>
    if next ≥ durationParts.length then none
    else
      let entered : Option (Nat × Text) :=
        match text with
        | 'T' :: rest => if next ≤ 3 then some (3, rest) else none
        | rest => if next = 3 then none else some (next, rest)
      match entered with
      | none => none
      | some (next, rest) =>
        let (whole, rest) := digits rest
        let pointed := rest.head? = some '.'
        let (fraction, rest) := if pointed then digits (rest.drop 1) else ([], rest)
        let stop := if next < 3 then 3 else durationParts.length
        let left := (durationParts.take stop).drop next
        match rest with
        | [] => none
        | letter :: rest =>
          let skipped := left.takeWhile fun part => part.1 != letter
          match left.drop skipped.length with
          | [] => none
          | (_, months, seconds) :: _ =>
            let place := next + skipped.length
            if (whole.isEmpty && fraction.isEmpty) || (pointed && place != 5) then none
            else
              let n : Decimal := .ofDigits false whole fraction
              let more : Duration :=
                ⟨d.months + n.coefficient * months,
                  d.seconds.add ⟨n.coefficient * seconds, n.places⟩⟩
              durationFrom? bound (place + 1) more rest

def duration? (text : Text) : Option Duration :=
  let text := text.dropWhile WhiteSpace.isSpace
  let negative := text.head? = some '-'
  match if negative then text.drop 1 else text with
  | 'P' :: rest =>
    if rest.isEmpty then none
    else
      (durationFrom? (rest.length + 1) 0 ⟨0, ⟨0, 0⟩⟩ rest).map fun d =>
        if negative then ⟨-d.months, d.seconds.negate⟩ else d
  | _ => none

def hexadecimal? (text : Text) : Option Value :=
  let text := trim text
  if text.all Char.isHexDigit && text.length % 2 = 0 then
    some (.octets (text.length / 2) (text.map Char.toUpper))
  else none

/-- Octets as groups of four characters. Other characters do not count; what is left of the last
group is filled up with equals signs, and its surplus bits are zero. -/
def quartets? (text : Text) : Option Value :=
  let body := (text.takeWhile (· != '=')).filter fun c => (Text.sextet? c).isSome
  let tail := text.dropWhile (· != '=')
  let filling := (tail.filter (· == '=')).length
  let last := (body.getLast?.bind Text.sextet?).getD 0
  let count := 3 * (body.length / 4)
  if tail.any fun c => (Text.sextet? c).isSome then none
  else if filling = 0 then if body.length % 4 = 0 then some (.octets count body) else none
  else if filling = 1 then
    if body.length % 4 = 3 && last % 4 = 0 then some (.octets (count + 2) body) else none
  else if filling = 2 then
    if body.length % 4 = 2 && last % 16 = 0 then some (.octets (count + 1) body) else none
  else none

/-- Whether a text is a tag of a language: words of one to eight letters, later also digits. -/
def isLanguage (text : Text) : Bool :=
  match Text.splitOn '-' text with
  | [] => false
  | first :: more =>
    (1 ≤ first.length && first.length ≤ 8 && first.all Char.isAlpha) &&
      more.all fun w =>
        1 ≤ w.length && w.length ≤ 8 && w.all Char.isAlphanum

/-- The characters that a reference may hold although its own rules refuse them. -/
def isTolerated (c : Char) : Bool :=
  c.toNat ≤ 32 || 127 ≤ c.toNat ||
    List.contains ['<', '>', '"', '\x7b', '\x7d', '|', '\\', '^', '\x60'] c

def isReference (text : Text) : Bool :=
  text.isEmpty || Uri.isReference (text.map fun c => if isTolerated c then '_' else c)

def name? (scope : Xml.Scope) (text : Text) : Except Refusal Xml.QName :=
  match Text.splitOn ':' (trim text) with
  | [localName] =>
    if Xml.isPlainName localName then .ok ⟨scope.find? none, localName⟩ else .error .malformed
  | [binder, localName] =>
    if Xml.isPlainName binder && Xml.isPlainName localName then
      match scope.find? (some binder) with
      | some space => .ok ⟨some space, localName⟩
      | none => .error .unboundName
    else .error .malformed
  | _ => .error .malformed

def formed (p : Text → Bool) (text : Text) : Except Refusal Value :=
  let text := WhiteSpace.collapse.apply text
  if p text then .ok (.text text) else .error .malformed

def orMalformed {α : Type} : Option α → Except Refusal α
  | some a => .ok a
  | none => .error .malformed

def momentKind? : Builtin → Option MomentKind
  | .dateTime => some .dateTime
  | .date => some .date
  | .time => some .time
  | .gYearMonth => some .yearMonth
  | .gYear => some .year
  | .gMonthDay => some .monthDay
  | .gMonth => some .month
  | .gDay => some .day
  | _ => none

end Literal

def Builtin.read (kind : Builtin) (scope : Xml.Scope) (text : Text) : Except Refusal Value :=
  match Literal.range? kind, Literal.momentKind? kind with
  | some range, _ =>
    Literal.orMalformed ((Literal.whole? range text).map fun d => .decimal d true)
  | none, some kind => Literal.orMalformed ((Literal.moment? kind text).map .moment)
  | none, none =>
    match kind with
    | .decimal => Literal.orMalformed ((Literal.decimal? text).map fun d => .decimal d false)
    | .float => Literal.orMalformed ((Literal.real? text).map .real)
    | .double => Literal.orMalformed ((Literal.real? text).map .real)
    | .boolean => Literal.orMalformed ((Literal.truth? text).map .truth)
    | .duration => Literal.orMalformed ((Literal.duration? text).map .duration)
    | .hexBinary => Literal.orMalformed (Literal.hexadecimal? text)
    | .base64Binary => Literal.orMalformed (Literal.quartets? text)
    | .anyUri => Literal.formed Literal.isReference text
    | .qName => (Literal.name? scope text).map .name
    | .notationName => (Literal.name? scope text).map .name
    | .language => Literal.formed Literal.isLanguage text
    | .nmToken => Literal.formed Xml.isNameToken text
    | .name => Literal.formed Xml.isName text
    | .ncName => Literal.formed Xml.isPlainName text
    | .id => Literal.formed Xml.isPlainName text
    | .idRef => Literal.formed Xml.isPlainName text
    | .entity => Literal.formed Xml.isPlainName text
    | .normalizedString => .ok (.text (WhiteSpace.replace.apply text))
    | .token => .ok (.text (WhiteSpace.collapse.apply text))
    | _ => .ok (.text text)

end XmlCheck.Schema
