import XmlCheck.Text.Category
import XmlCheck.Text.Digit
import XmlCheck.Xml.Char

/-!
Patterns: the regular expressions that simple types are restricted by. A pattern accepts whole
texts. Reading one character leads from a pattern to the patterns that may accept the rest, so a
text is accepted if after its last character one of these accepts the empty text.
-/

namespace XmlCheck.Schema

inductive CharKind
  | any
  | run (first last : Nat)
  | blank
  | nameStart
  | nameChar
  | category (name : Text)
  | block (name : Text)
  | word
  deriving DecidableEq, Repr

/-- The blocks of characters that patterns name most often. -/
def blocks : List (String × Nat × Nat) :=
  [("BasicLatin", 0x0, 0x7F), ("Latin-1Supplement", 0x80, 0xFF), ("LatinExtended-A", 0x100, 0x17F),
    ("LatinExtended-B", 0x180, 0x24F), ("IPAExtensions", 0x250, 0x2AF),
    ("SpacingModifierLetters", 0x2B0, 0x2FF), ("CombiningDiacriticalMarks", 0x300, 0x36F),
    ("Greek", 0x370, 0x3FF), ("GreekandCoptic", 0x370, 0x3FF), ("Cyrillic", 0x400, 0x4FF),
    ("Armenian", 0x530, 0x58F), ("Hebrew", 0x590, 0x5FF), ("Arabic", 0x600, 0x6FF),
    ("Devanagari", 0x900, 0x97F), ("Thai", 0xE00, 0xE7F), ("HangulJamo", 0x1100, 0x11FF),
    ("LatinExtendedAdditional", 0x1E00, 0x1EFF), ("GreekExtended", 0x1F00, 0x1FFF),
    ("GeneralPunctuation", 0x2000, 0x206F), ("CurrencySymbols", 0x20A0, 0x20CF),
    ("Arrows", 0x2190, 0x21FF), ("MathematicalOperators", 0x2200, 0x22FF),
    ("BoxDrawing", 0x2500, 0x257F), ("Hiragana", 0x3040, 0x309F), ("Katakana", 0x30A0, 0x30FF),
    ("CJKUnifiedIdeographs", 0x4E00, 0x9FFF), ("HangulSyllables", 0xAC00, 0xD7AF),
    ("PrivateUse", 0xE000, 0xF8FF)]

def CharKind.holds (kind : CharKind) (c : Char) : Bool :=
  match kind with
  | .any => c != '\n' && c != '\r'
  | .run first last => first ≤ c.toNat && c.toNat ≤ last
  | .blank => Xml.isSpace c
  | .nameStart => Xml.isNameStart c || c == ':'
  | .nameChar => Xml.isNameChar c || c == ':'
  | .category name => ((Category.find? name).map fun s => Category.holds s c.toNat).getD false
  | .block name =>
    match blocks.find? fun b => b.1.toList = name with
    | some (_, first, last) => first ≤ c.toNat && c.toNat ≤ last
    | none => false
  | .word => !Category.isOutsideWord c.toNat

structure CharItem where
  kind : CharKind
  inverse : Bool := false
  deriving DecidableEq, Repr

def CharItem.holds (item : CharItem) (c : Char) : Bool :=
  item.kind.holds c != item.inverse

/-- How an item counts in a class: it adds characters, adds all others, or takes characters away. -/
inductive Sign
  | plain
  | inverse
  | excluded
  deriving DecidableEq, Repr

def Sign.flipped : Sign → Sign
  | .plain => .inverse
  | .inverse => .plain
  | .excluded => .plain

/-- Whether a character belongs to a class, with the answer so far. Items are weighed in order; an
item that takes the character away settles the matter. -/
def holdsFrom (c : Char) : (accepted : Bool) → List (Sign × CharItem) → Bool
  | accepted, [] => accepted
  | accepted, (sign, item) :: rest =>
    match sign with
    | .plain => holdsFrom c (accepted || item.holds c) rest
    | .inverse => if item.holds c then false else holdsFrom c true rest
    | .excluded => if item.holds c then false else holdsFrom c accepted rest

inductive Pattern
  | empty
  | chars (items : List (Sign × CharItem))
  | sequence (first second : Pattern)
  | choice (first second : Pattern)
  | repeated (body : Pattern) (least : Nat) (most : Option Nat)
  deriving DecidableEq, Repr

namespace Pattern

def acceptsEmpty : Pattern → Bool
  | empty => true
  | chars _ => false
  | sequence first second => first.acceptsEmpty && second.acceptsEmpty
  | choice first second => first.acceptsEmpty || second.acceptsEmpty
  | repeated body least _ => least == 0 || body.acceptsEmpty

def followedBy (first second : Pattern) : Pattern :=
  if first = empty then second else sequence first second

/-- The patterns that may accept the rest of a text after one character. -/
def step (c : Char) : Pattern → List Pattern
  | empty => []
  | chars items => if holdsFrom c false items then [empty] else []
  | sequence first second =>
    let through := (first.step c).map fun p => p.followedBy second
    if first.acceptsEmpty then through ++ second.step c else through
  | choice first second => first.step c ++ second.step c
  | repeated body least most =>
    match most with
    | some 0 => []
    | _ =>
      let rest := repeated body (least - 1) (most.map (· - 1))
      (body.step c).map fun p => p.followedBy rest

def anyAccepts : List Pattern → Text → Bool
  | patterns, [] => patterns.any acceptsEmpty
  | patterns, c :: rest => anyAccepts (patterns.flatMap (step c)).eraseDups rest

def accepts (pattern : Pattern) (text : Text) : Bool :=
  anyAccepts [pattern] text

def single (kind : CharKind) (inverse : Bool) : Pattern :=
  chars [(.plain, ⟨kind, inverse⟩)]

def isLiteral (c : Char) : Bool :=
  !List.contains ['.', '\\', '?', '*', '+', '(', ')', '|', '[', ']'] c

def isEscapable (c : Char) : Bool :=
  List.contains
    ['\\', '|', '.', '?', '*', '+', '(', ')', '\x7b', '\x7d', '-', '[', ']', '^'] c

def escaped? (c : Char) : Option Char :=
  if c = 'n' then some '\n'
  else if c = 'r' then some '\r'
  else if c = 't' then some '\t'
  else if isEscapable c then some c
  else none

/-- The kind of characters that a backslash and a letter stand for; a capital stands for the
others. -/
def letterClass? (c : Char) : Option CharItem :=
  match c with
  | 's' => some ⟨.blank, false⟩
  | 'S' => some ⟨.blank, true⟩
  | 'i' => some ⟨.nameStart, false⟩
  | 'I' => some ⟨.nameStart, true⟩
  | 'c' => some ⟨.nameChar, false⟩
  | 'C' => some ⟨.nameChar, true⟩
  | 'd' => some ⟨.category "Nd".toList, false⟩
  | 'D' => some ⟨.category "Nd".toList, true⟩
  | 'w' => some ⟨.word, false⟩
  | 'W' => some ⟨.word, true⟩
  | _ => none

/-- Reads the braces after `\p`: a category, or a block after the word `Is`. -/
def property? (inverse : Bool) : Text → Option (CharItem × Text)
  | '\x7b' :: rest =>
    let name := rest.takeWhile (· != '\x7d')
    match rest.drop name.length with
    | _ :: rest =>
      match name with
      | 'I' :: 's' :: block =>
        if block.isEmpty || !block.all fun c => c.isAlphanum || c == '-' then none
        else some (⟨.block block, inverse⟩, rest)
      | _ => if (Category.find? name).isSome then some (⟨.category name, inverse⟩, rest) else none
    | [] => none
  | _ => none

def escape? : Text → Option (CharItem × Text)
  | 'p' :: rest => property? false rest
  | 'P' :: rest => property? true rest
  | c :: rest =>
    match escaped? c with
    | some c => some (⟨.run c.toNat c.toNat, false⟩, rest)
    | none => (letterClass? c).map fun item => (item, rest)
  | [] => none

def runEnd? : Text → Option (Char × Text)
  | '\\' :: c :: rest => (escaped? c).map fun c => (c, rest)
  | c :: rest => if c = '\\' || c = '[' || c = ']' then none else some (c, rest)
  | [] => none

/-- Reads a character or a run of characters inside a class. A hyphen in the midst of a class that
makes no run stands for nothing. -/
def run? (atStart : Bool) (text : Text) : Option (List CharItem × Text) :=
  match runEnd? text with
  | none => none
  | some (first, rest) =>
    if first = '-' && !atStart && rest.head? != some ']' then some ([], rest)
    else
      match rest with
      | '-' :: c :: more =>
        if c = '[' || c = ']' then some ([⟨.run first.toNat first.toNat, false⟩], rest)
        else
          match runEnd? (c :: more) with
          | none => none
          | some (last, rest) =>
            if last.toNat < first.toNat then none
            else some ([⟨.run first.toNat last.toNat, false⟩], rest)
      | _ => some ([⟨.run first.toNat first.toNat, false⟩], rest)

def item? (atStart : Bool) : Text → Option (List CharItem × Text)
  | '\\' :: c :: rest =>
    match letterClass? c, c with
    | some item, _ => some ([item], rest)
    | none, 'p' => (property? false rest).map fun r => ([r.1], r.2)
    | none, 'P' => (property? true rest).map fun r => ([r.1], r.2)
    | none, _ => run? atStart ('\\' :: c :: rest)
  | text => run? atStart text

/-- Reads the items of a class up to its closing bracket, which is left. The last item may be a
class that is taken away. -/
def items? (bound : Nat) (sign : Sign) (atStart : Bool) (text : Text) :
    Option (List (Sign × CharItem) × Text) :=
  match bound with
  | 0 => none
  | bound + 1 =>
    match text with
    | [] => none
    | ']' :: rest => if atStart then none else some ([], ']' :: rest)
    | '-' :: '[' :: rest =>
      if atStart then none
      else
        let inner :=
          match rest with
          | '^' :: rest => items? bound Sign.excluded.flipped true rest
          | rest => items? bound .excluded true rest
        match inner with
        | some (items, ']' :: rest) => if rest.head? = some ']' then some (items, rest) else none
        | _ => none
    | text =>
      match item? atStart text with
      | none => none
      | some (items, rest) =>
        match items? bound sign false rest with
        | none => none
        | some (more, rest) => some (items.map (sign, ·) ++ more, rest)

def class? (text : Text) : Option (Pattern × Text) :=
  let read :=
    match text with
    | '^' :: rest => items? (text.length + 1) Sign.plain.flipped true rest
    | rest => items? (text.length + 1) .plain true rest
  match read with
  | some (items, ']' :: rest) => some (.chars items, rest)
  | _ => none

def number? (text : Text) : Option (Nat × Text) :=
  let digits := text.takeWhile Char.isDigit
  if digits.isEmpty then none else some (Text.natOfDigits digits, text.drop digits.length)

/-- The bounds of a repetition, written with an upper bound that is not zero. -/
def bounds (least most : Nat) : Nat × Option Nat :=
  (least, some (if most = 0 then least else most))

def quantifier? : Text → Option ((Nat × Option Nat) × Text)
  | '?' :: rest => some ((0, some 1), rest)
  | '*' :: rest => some ((0, none), rest)
  | '+' :: rest => some ((1, none), rest)
  | '\x7b' :: rest =>
    match number? rest with
    | some (least, '\x7d' :: rest) => some ((least, some least), rest)
    | some (least, ',' :: '\x7d' :: rest) => some ((least, none), rest)
    | some (least, ',' :: rest) =>
      match number? rest with
      | some (most, '\x7d' :: rest) => some (bounds least most, rest)
      | _ => none
    | _ => none
  | text => some ((1, some 1), text)

def times (body : Pattern) (bounds : Nat × Option Nat) : Pattern :=
  if bounds = (1, some 1) then body else .repeated body bounds.1 bounds.2

mutual

def alternatives? (bound : Nat) (text : Text) : Option (Pattern × Text) :=
  match bound with
  | 0 => none
  | bound + 1 =>
    match parts? bound text with
    | some (first, '|' :: rest) =>
      (alternatives? bound rest).map fun r => (.choice first r.1, r.2)
    | read => read

def parts? (bound : Nat) (text : Text) : Option (Pattern × Text) :=
  match bound with
  | 0 => none
  | bound + 1 =>
    match text with
    | [] => some (.empty, [])
    | c :: _ =>
      if List.contains ['|', ')', '?', '*', '+', ']'] c then some (.empty, text)
      else
        match atom? bound text with
        | none => none
        | some (body, rest) =>
          match quantifier? rest with
          | none => none
          | some (count, rest) =>
            (parts? bound rest).map fun r => ((body.times count).sequence r.1, r.2)

def atom? (bound : Nat) (text : Text) : Option (Pattern × Text) :=
  match bound with
  | 0 => none
  | bound + 1 =>
    match text with
    | '(' :: rest =>
      match alternatives? bound rest with
      | some (inner, ')' :: rest) => some (inner, rest)
      | _ => none
    | '[' :: rest => class? rest
    | '.' :: rest => some (single .any false, rest)
    | '\\' :: rest => (escape? rest).map fun r => (.chars [(.plain, r.1)], r.2)
    | c :: rest => if isLiteral c then some (single (.run c.toNat c.toNat) false, rest) else none
    | [] => none

end

def ofText? (text : Text) : Option Pattern :=
  match alternatives? (3 * text.length + 3) text with
  | some (pattern, []) => some pattern
  | _ => none

theorem accepts_nil (pattern : Pattern) : pattern.accepts [] = pattern.acceptsEmpty := by
  simp [accepts, anyAccepts]

end Pattern

end XmlCheck.Schema
