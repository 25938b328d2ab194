import XmlCheck.Text.Digit
import XmlCheck.Yaml.Cursor

/-!
The texts of scalars: plain, in quotes, or as a block of lines. Each reader gives the text that the
scalar stands for and what follows it. A line end inside a plain or quoted scalar is folded: alone
it stands for a space, before empty lines it stands for nothing.
-/

namespace XmlCheck.Yaml

/-- What the line ends of a fold stand for: the first one and those after it. -/
def folded (first : Char) (more : Text) : Text :=
  if keptBreak first != '\n' then keptBreak first :: more
  else if more.isEmpty then [' ']
  else more

/-! ### Plain scalars -/

structure Gap where
  fold : Text
  rest : Text
  /-- The column where the next line has its first character, if a line has ended. -/
  column : Option Nat
  /-- Whether no piece can follow. -/
  isLast : Bool
  deriving DecidableEq, Repr

def gapLines (first : Char) : (column : Nat) → (more : Text) → Text → Gap
  | column, more, [] => ⟨folded first more.reverse, [], some column, false⟩
  | column, more, c :: rest =>
    if c = ' ' then gapLines first (column + 1) more rest
    else if isBreak c then
      if isDocumentMark rest then ⟨[], rest, some 0, true⟩
      else gapLines first 0 (keptBreak c :: more) rest
    else ⟨folded first more.reverse, c :: rest, some column, false⟩

def gap (text : Text) : Gap :=
  let blanks := text.takeWhile isBlank
  match text.dropWhile isBlank with
  | [] => ⟨blanks, [], none, blanks.isEmpty⟩
  | c :: rest =>
    if isBreak c then
      if isDocumentMark rest then ⟨[], rest, some 0, true⟩ else gapLines c 0 [] rest
    else ⟨blanks, c :: rest, none, blanks.isEmpty⟩

def plainPiece (inFlow : Bool) : Text → Text × Text
  | [] => ([], [])
  | c :: rest =>
    if isBlank c || isBreak c || (c == ':' && endsWord rest) || (inFlow && isFlowMark c) then
      ([], c :: rest)
    else
      let (piece, rest) := plainPiece inFlow rest
      (c :: piece, rest)

structure Plain where
  text : Text
  rest : Text
  endsLine : Bool
  deriving DecidableEq, Repr

def endsPlain (inFlow : Bool) (indent : Int) (gap : Gap) : Bool :=
  gap.isLast || gap.rest.head? == some '#' ||
    match gap.column with
    | some column => !inFlow && (column : Int) < indent
    | none => false

/-- The plain scalar that a text starts with; `bound` limits the number of its pieces. -/
def plainFrom (inFlow : Bool) (indent : Int) : (bound : Nat) → Text → Plain
  | 0, text => ⟨[], text, false⟩
  | bound + 1, text =>
    let (piece, rest) := plainPiece inFlow text
    let gap := gap rest
    if endsPlain inFlow indent gap || (plainPiece inFlow gap.rest).1.isEmpty then
      ⟨piece, gap.rest, gap.column.isSome⟩
    else
      let more := plainFrom inFlow indent bound gap.rest
      { more with text := piece ++ gap.fold ++ more.text }

/-- The plain scalar that a text starts with. Lines after the first one start at column `indent` or
behind it, unless the scalar stands in brackets. -/
def plain (inFlow : Bool) (indent : Int) (text : Text) : Plain :=
  plainFrom inFlow indent text.length text

/-! ### Quoted scalars -/

def quotedLines : (more : Text) → Text → Except YamlFault (Text × Text)
  | more, [] => .ok (more.reverse, [])
  | more, c :: rest =>
    if isBlank c then quotedLines more rest
    else if isBreak c then
      if isDocumentMark rest then .error .markInQuote
      else quotedLines (keptBreak c :: more) rest
    else .ok (more.reverse, c :: rest)

def quotedBreaks (text : Text) : Except YamlFault (Text × Text) :=
  if isDocumentMark text then .error .markInQuote else quotedLines [] text

def quotedGap (text : Text) : Except YamlFault (Text × Text) :=
  let blanks := text.takeWhile isBlank
  match text.dropWhile isBlank with
  | [] => .error .openQuote
  | c :: rest =>
    if isBreak c then (quotedBreaks rest).map fun (more, rest) => (folded c more, rest)
    else .ok (blanks, c :: rest)

def escapes : List (Char × Char) :=
  [('0', '\x00'), ('a', '\x07'), ('b', '\x08'), ('t', '\t'), ('\t', '\t'), ('n', '\n'),
    ('v', '\x0b'), ('f', '\x0c'), ('r', '\r'), ('e', '\x1b'), (' ', ' '), ('"', '"'), ('/', '/'),
    ('\\', '\\'), ('N', '\u0085'), ('_', '\u00a0'), ('L', '\u2028'), ('P', '\u2029')]

/-- How many hexadecimal digits follow a letter after a backslash. -/
def escapeWidths : List (Char × Nat) :=
  [('x', 2), ('u', 4), ('U', 8)]

def hexNumber? : (count value : Nat) → Text → Option (Nat × Text)
  | 0, value, rest => some (value, rest)
  | _ + 1, _, [] => none
  | count + 1, value, c :: rest =>
    match Text.digitValue? 16 c with
    | some digit => hexNumber? count (value * 16 + digit) rest
    | none => none

def escape : Text → Except YamlFault (Text × Text)
  | [] => .error .badEscape
  | c :: rest =>
    match escapes.lookup c, escapeWidths.lookup c with
    | some meant, _ => .ok ([meant], rest)
    | none, some width =>
      match hexNumber? width 0 rest with
      | some (value, rest) =>
        if value.isValidChar then .ok ([Char.ofNat value], rest) else .error .badEscape
      | none => .error .badEscape
    | none, none => if isBreak c then quotedBreaks rest else .error .badEscape

def quotedFrom (isDouble : Bool) : (bound : Nat) → Text → Except YamlFault (Text × Text)
  | 0, _ => .error .openQuote
  | _ + 1, [] => .error .openQuote
  | bound + 1, c :: rest => do
    let andMore (piece : Text × Text) : Except YamlFault (Text × Text) :=
      (quotedFrom isDouble bound piece.2).map fun more => (piece.1 ++ more.1, more.2)
    if isBlank c || isBreak c then andMore (← quotedGap (c :: rest))
    else if isDouble then
      if c = '"' then .ok ([], rest)
      else if c = '\\' then andMore (← escape rest)
      else andMore ([c], rest)
    else if c = '\x27' then
      match rest with
      | '\x27' :: rest => andMore (['\x27'], rest)
      | _ => .ok ([], rest)
    else andMore ([c], rest)

def quoted (isDouble : Bool) (text : Text) : Except YamlFault (Text × Text) :=
  quotedFrom isDouble (text.length + 1) text

/-! ### Blocks of lines -/

inductive Chomping
  | first
  | none
  | all
  deriving DecidableEq, Repr

structure BlockHeader where
  chomping : Chomping := .first
  indentation : Option Nat := none
  deriving DecidableEq, Repr

def chomping? : Char → Option Chomping
  | '-' => some .none
  | '+' => some .all
  | _ => none

/-- The marks of a header, in either order and each at most once. -/
def blockMarks (text : Text) : BlockHeader × Text :=
  match text with
  | [] => ({}, [])
  | c :: rest =>
    match chomping? c, Text.digitValue? 10 c with
    | some chomping, _ =>
      match rest with
      | d :: more =>
        match Text.digitValue? 10 d with
        | some digit => (⟨chomping, some digit⟩, more)
        | none => (⟨chomping, none⟩, rest)
      | [] => (⟨chomping, none⟩, [])
    | none, some digit =>
      match rest with
      | d :: more =>
        match chomping? d with
        | some chomping => (⟨chomping, some digit⟩, more)
        | none => (⟨.first, some digit⟩, rest)
      | [] => (⟨.first, some digit⟩, [])
    | none, none => ({}, text)

/-- What is left of a line after spaces and a comment has to be nothing: the text after its end. -/
def afterLine? (text : Text) : Option Text :=
  let rest := text.dropWhile (· == ' ')
  let rest := if rest.head? == some '#' then rest.dropWhile (fun c => !isBreak c) else rest
  match rest with
  | [] => some []
  | c :: rest => if isBreak c then some rest else none

def blockHeader (text : Text) : Except YamlFault (BlockHeader × Text) :=
  let (header, rest) := blockMarks text
  if header.indentation == some 0 || !(endsLine rest || rest.head? == some ' ') then
    .error .badBlockHeader
  else
    match afterLine? rest with
    | some rest => .ok (header, rest)
    | none => .error .badBlockHeader

/-- A place at the start of a line of a block: the line ends before it, its column, and the text
from there on. -/
structure LineStart where
  breaks : Text
  column : Nat
  rest : Text
  deriving DecidableEq, Repr

def lineStart (indent : Nat) : (column : Nat) → Text → LineStart
  | column, [] => ⟨[], column, []⟩
  | column, c :: rest =>
    if c = ' ' ∧ column < indent then lineStart indent (column + 1) rest
    else if isBreak c then
      let start := lineStart indent 0 rest
      { start with breaks := keptBreak c :: start.breaks }
    else ⟨[], column, c :: rest⟩

/-- The first line of a block whose indentation is to be seen: where it starts, the greatest column
that spaces lead to, and the column at which the first empty line ends. -/
def leadIn : (column deepest : Nat) → (firstEnd : Option Nat) → Text →
    LineStart × Nat × Option Nat
  | column, deepest, firstEnd, [] => (⟨[], column, []⟩, deepest, firstEnd)
  | column, deepest, firstEnd, c :: rest =>
    if c = ' ' then leadIn (column + 1) (max deepest (column + 1)) firstEnd rest
    else if isBreak c then
      let (start, more) := leadIn 0 deepest (firstEnd.or (some column)) rest
      ({ start with breaks := keptBreak c :: start.breaks }, more)
    else (⟨[], column, c :: rest⟩, deepest, firstEnd)

/-- The lines of a block: their text, the end of the last line, and where the block ends. -/
structure BlockLines where
  text : Text := []
  lastBreak : Text := []
  after : LineStart
  deriving DecidableEq, Repr

def lineJoin (isFolded : Bool) (line lastBreak breaks next : Text) : Text :=
  let isOpen (t : Text) : Bool := (t.head?.map isBlank) != some true
  if isFolded && lastBreak == ['\n'] && isOpen line && isOpen next then
    if breaks.isEmpty then [' '] else []
  else lastBreak

/-- The lines of a block from a line start on; `bound` limits their number. At the top of a document
a mark between documents ends the block. -/
def blockLines (isFolded : Bool) (indent : Nat) (isTop : Bool) :
    (bound : Nat) → LineStart → BlockLines
  | 0, start => { after := start }
  | bound + 1, start =>
    if start.column != indent || start.rest.isEmpty then { after := start }
    else
      let line := start.rest.takeWhile fun c => !isBreak c
      let (lastBreak, rest) : Text × Text :=
        match start.rest.dropWhile fun c => !isBreak c with
        | [] => ([], [])
        | c :: rest => ([keptBreak c], rest)
      let next := lineStart indent 0 rest
      let text := start.breaks ++ line
      if (isTop && next.column == 0 && isDocumentMark next.rest) || next.column != indent ||
          next.rest.isEmpty then
        ⟨text, lastBreak, next⟩
      else
        let more := blockLines isFolded indent isTop bound next
        { more with
          text := text ++ lineJoin isFolded start.rest lastBreak next.breaks next.rest ++
            more.text }

/-- The text of a block, after the mark that begins it, and what follows it. The block stands in a
collection that is indented by `indent`. -/
def block (isFolded : Bool) (indent : Int) (text : Text) : Except YamlFault (Text × Text) := do
  let (header, rest) ← blockHeader text
  let least := (indent + 1).toNat
  let (start, own) ← match header.indentation with
    | some digit =>
      let own := max least 1 + digit - 1
      pure (lineStart own 0 rest, own)
    | none =>
      let (start, deepest, firstEnd) := leadIn 0 0 none rest
      if (firstEnd.any fun e => 0 < e && e < deepest) then throw .badBlockIndent
      pure (start, max least deepest)
  let lines := blockLines isFolded own (header.indentation.isNone && least == 0) rest.length start
  let ending : Text :=
    match header.chomping with
    | .none => []
    | .first => lines.lastBreak
    | .all => lines.lastBreak ++ lines.after.breaks
  pure (lines.text ++ ending, lines.after.rest)

end XmlCheck.Yaml
