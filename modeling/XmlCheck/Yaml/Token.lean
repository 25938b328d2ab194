import XmlCheck.Text.Utf8
import XmlCheck.Yaml.Scalar

/-!
The tokens of a settings text, and the readers of those that name something: anchors, tags and
directives.
-/

namespace XmlCheck.Yaml

/-- A tag as it is written: a handle that stands for the beginning, and the rest. -/
structure WrittenTag where
  handle : Option Text
  rest : Text
  deriving DecidableEq, Repr

inductive Directive
  | version (major : Nat)
  | handle (handle beginning : Text)
  | other
  deriving DecidableEq, Repr

/-- The tokens. The ends of block collections and their starts are told by indentation. -/
inductive Token
  | directive (directive : Directive)
  | documentStart
  | documentEnd
  | blockSequence
  | blockMapping
  | blockEnd
  | flowSequence
  | flowSequenceEnd
  | flowMapping
  | flowMappingEnd
  | blockEntry
  | flowEntry
  | key
  | value
  | alias (name : Text)
  | anchor (name : Text)
  | tag (tag : WrittenTag)
  | scalar (text : Text) (isPlain : Bool)
  deriving DecidableEq, Repr

def isAnchorChar (c : Char) : Bool :=
  !isFlowMark c && (('!' ≤ c && c ≤ '~') || ('\u00a0' ≤ c && c ≤ '\ud7ff') ||
    ('\ue000' ≤ c && c ≤ '\ufffd' && c != '\ufeff') || 0x10000 ≤ c.toNat)

def anchorName (text : Text) : Except YamlFault (Text × Text) :=
  let name := text.takeWhile isAnchorChar
  let rest := text.dropWhile isAnchorChar
  if !name.isEmpty && (endsWord rest || (rest.head?.any isFlowMark)) then .ok (name, rest)
  else .error .badAnchor

def isHandleChar (c : Char) : Bool :=
  c.isAlphanum || c == '-' || c == '_'

def isTagChar (c : Char) : Bool :=
  c.isAlphanum || List.contains "-;/?:@&=+$,_.!~*\x27()[]%#".toList c

def percentOctets : Text → Except YamlFault (List UInt8 × Text)
  | '%' :: a :: b :: rest =>
    match Text.digitValue? 16 a, Text.digitValue? 16 b with
    | some high, some low =>
      (percentOctets rest).map fun (more, rest) => (UInt8.ofNat (high * 16 + low) :: more, rest)
    | _, _ => .error .badTag
  | '%' :: _ => .error .badTag
  | rest => .ok ([], rest)

def tagTextFrom : (bound : Nat) → Text → Except YamlFault (Text × Text)
  | 0, text => .ok ([], text)
  | _, [] => .ok ([], [])
  | bound + 1, c :: rest => do
    if c = '%' then
      let (octets, rest) ← percentOctets (c :: rest)
      match Utf8.decode octets with
      | .ok piece => (tagTextFrom bound rest).map fun more => (piece ++ more.1, more.2)
      | .error _ => .error .badTag
    else if isTagChar c then (tagTextFrom bound rest).map fun more => (c :: more.1, more.2)
    else .ok ([], c :: rest)

def tagText (text : Text) : Except YamlFault (Text × Text) :=
  if text.head?.any isTagChar then tagTextFrom text.length text else .error .badTag

/-- A handle: an exclamation mark, or a name between two of them. -/
def tagHandle (text : Text) : Except YamlFault (Text × Text) :=
  match text with
  | '!' :: ' ' :: rest => .ok (['!'], ' ' :: rest)
  | '!' :: rest =>
    match rest.dropWhile isHandleChar with
    | '!' :: more => .ok ('!' :: rest.takeWhile isHandleChar ++ ['!'], more)
    | _ => .error .badTag
  | _ => .error .badTag

def hasSecondMark : Text → Bool
  | [] => false
  | c :: rest => !(c == ' ' || isBreak c) && (c == '!' || hasSecondMark rest)

def tagAfter (short text : Text) : Except YamlFault (WrittenTag × Text) :=
  match text with
  | '<' :: rest => do
    let (name, rest) ← tagText rest
    match rest with
    | '>' :: rest => .ok (⟨none, name⟩, rest)
    | _ => .error .badTag
  | _ =>
    if endsWord text then .ok (⟨none, ['!']⟩, text)
    else do
      let (handle, rest) ←
        if hasSecondMark text then tagHandle ('!' :: text) else pure (short, text)
      (tagText rest).map fun (name, rest) => (⟨some handle, name⟩, rest)

/-- A tag, after its first mark. A space or the end of the line has to follow it. -/
def writtenTag (text : Text) : Except YamlFault (WrittenTag × Text) := do
  let (tag, rest) ← match text with
    | '!' :: rest => tagAfter "!!" rest
    | _ => tagAfter "!" text
  if endsLine rest || rest.head? == some ' ' then .ok (tag, rest) else .error .badTag

def directiveNumber (text : Text) : Except YamlFault (Nat × Text) :=
  let digits := text.takeWhile Char.isDigit
  if digits.isEmpty then .error .badDirective
  else .ok (Text.natOfDigits digits, text.dropWhile Char.isDigit)

def isDirectiveChar (c : Char) : Bool :=
  isHandleChar c || c == ':' || c == '.'

def versionDirective (text : Text) : Except YamlFault (Directive × Text) := do
  let (major, rest) ← directiveNumber (text.dropWhile (· == ' '))
  match rest with
  | '.' :: rest =>
    let (_, rest) ← directiveNumber rest
    if endsLine rest || rest.head? == some ' ' then .ok (.version major, rest)
    else .error .badDirective
  | _ => .error .badDirective

def handleDirective (text : Text) : Except YamlFault (Directive × Text) := do
  let (handle, rest) ← tagHandle (text.dropWhile (· == ' '))
  if rest.head? != some ' ' then throw .badDirective
  let (beginning, rest) ← tagText (rest.dropWhile (· == ' '))
  if endsLine rest || rest.head? == some ' ' then .ok (.handle handle beginning, rest)
  else .error .badDirective

def directive (text : Text) : Except YamlFault (Directive × Text) := do
  let name := text.takeWhile isDirectiveChar
  let rest := text.dropWhile isDirectiveChar
  if name.isEmpty || !(endsLine rest || rest.head? == some ' ') then throw .badDirective
  let (directive, rest) ←
    if name == "YAML" then versionDirective rest
    else if name == "TAG" then handleDirective rest
    else pure (.other, rest.dropWhile fun c => !isBreak c)
  match afterLine? rest with
  | some rest => .ok (directive, rest)
  | none => .error .badDirective

end XmlCheck.Yaml
