import XmlCheck.Yaml.Token

/-!
From a text to its tokens. Outside brackets the columns tell where collections start and end, and
whether something is a key is only seen at the colon after it: until then its place is kept, so that
the tokens of a mapping can be put in before it.
-/

namespace XmlCheck.Yaml

inductive Bracket
  | square
  | curly
  deriving DecidableEq, Repr

structure PossibleKey where
  tokens : Nat
  depth : Nat
  isRequired : Bool
  start : Cursor
  deriving DecidableEq, Repr

structure Layout where
  cursor : Cursor
  tokens : Array Token := #[]
  brackets : List Bracket := []
  /-- The column of the innermost block collection, and those of the collections around it. -/
  indent : Int := -1
  outer : List Int := []
  keyAllowed : Bool := true
  keys : List PossibleKey := []

/-- How many characters a key may have if it stands before its colon. -/
def keyLimit : Nat := 1024

/-- The text from the next token on, past blanks, comments and line ends, and whether a line has
ended. Tabs count as blanks inside brackets only. -/
def toToken (inFlow : Bool) : (inComment broken : Bool) → Text → Text × Bool
  | _, broken, [] => ([], broken)
  | inComment, broken, c :: rest =>
    if isBreak c then toToken inFlow false true rest
    else if inComment || c == ' ' || (inFlow && c == '\t') then toToken inFlow inComment broken rest
    else if c == '#' then toToken inFlow true broken rest
    else (c :: rest, broken)

/-- The block collections that end where a token starts in a column: their number, and the columns
that are left. -/
def closedBy (column : Int) : Int → List Int → Nat × Int × List Int
  | indent, [] => (0, indent, [])
  | indent, next :: outer =>
    if column < indent then
      let (count, left) := closedBy column next outer
      (count + 1, left)
    else (0, indent, next :: outer)

namespace Layout

def depth (s : Layout) : Nat :=
  s.brackets.length

def inFlow (s : Layout) : Bool :=
  !s.brackets.isEmpty

def emit (s : Layout) (token : Token) : Layout :=
  { s with tokens := s.tokens.push token }

def goTo (s : Layout) (rest : Text) : Layout :=
  { s with cursor := s.cursor.upTo rest }

def isStale (s : Layout) (key : PossibleKey) : Bool :=
  key.start.line != s.cursor.line || keyLimit < s.cursor.index - key.start.index

/-- Drops possible keys; one that was required is a fault. -/
def dropKeys (s : Layout) (drop : PossibleKey → Bool) : Except YamlFault Layout :=
  if s.keys.any fun key => drop key && key.isRequired then .error .keyWithoutValue
  else .ok { s with keys := s.keys.filter fun key => !drop key }

def dropStale (s : Layout) : Except YamlFault Layout :=
  s.dropKeys s.isStale

def dropOwn (s : Layout) : Except YamlFault Layout :=
  s.dropKeys fun key => key.depth == s.depth

def keepKey (s : Layout) : Except YamlFault Layout :=
  if s.keyAllowed then do
    let s ← s.dropOwn
    let isRequired := !s.inFlow && s.indent == s.cursor.column
    let key : PossibleKey := ⟨s.tokens.size, s.depth, isRequired, s.cursor⟩
    .ok { s with keys := key :: s.keys }
  else .ok s

def unwind (s : Layout) (column : Int) : Layout :=
  if s.inFlow then s
  else
    let (count, indent, outer) := closedBy column s.indent s.outer
    { s with tokens := s.tokens ++ Array.replicate count Token.blockEnd, indent, outer }

/-- Starts a block collection at a column unless there is one; its token has a number of tokens
before it. -/
def openBlock (s : Layout) (column before : Nat) (token : Token) : Layout :=
  if s.indent < column then
    { s with
      tokens := s.tokens.insertIdxIfInBounds before token
      indent := column
      outer := s.indent :: s.outer }
  else s

def between (s : Layout) (token : Token) (rest : Text) : Except YamlFault Layout := do
  let s ← (s.unwind (-1)).dropOwn
  .ok ({ s with keyAllowed := false }.emit token |>.goTo rest)

def openBracket (s : Layout) (bracket : Bracket) (token : Token) (rest : Text) :
    Except YamlFault Layout := do
  let s ← s.keepKey
  .ok ({ s with brackets := bracket :: s.brackets, keyAllowed := true }.emit token |>.goTo rest)

/-- Closes brackets; whether they fit is seen later. -/
def closeBracket (s : Layout) (token : Token) (rest : Text) : Except YamlFault Layout := do
  let s ← s.dropOwn
  .ok ({ s with brackets := s.brackets.drop 1, keyAllowed := false }.emit token |>.goTo rest)

def comma (s : Layout) (rest : Text) : Except YamlFault Layout := do
  let s ← s.dropOwn
  .ok ({ s with keyAllowed := true }.emit .flowEntry |>.goTo rest)

def entryMark (s : Layout) (rest : Text) : Except YamlFault Layout := do
  if !s.inFlow && !s.keyAllowed then throw .misplacedEntry
  let s := if s.inFlow then s else s.openBlock s.cursor.column s.tokens.size .blockSequence
  let s ← s.dropOwn
  .ok ({ s with keyAllowed := true }.emit .blockEntry |>.goTo rest)

def keyMark (s : Layout) (rest : Text) : Except YamlFault Layout := do
  if !s.inFlow && !s.keyAllowed then throw .misplacedKey
  let s := if s.inFlow then s else s.openBlock s.cursor.column s.tokens.size .blockMapping
  let s ← s.dropOwn
  .ok ({ s with keyAllowed := !s.inFlow }.emit .key |>.goTo rest)

/-- Reads a colon. If something before it is its key, that is said now, and a mapping that starts
with this key starts before it. -/
def colon (s : Layout) (rest : Text) : Except YamlFault Layout := do
  match s.keys.find? fun key => key.depth == s.depth with
  | some key =>
    let s :=
      { s with
        keys := s.keys.filter fun k => k.depth != s.depth
        tokens := s.tokens.insertIdxIfInBounds key.tokens .key }
    let s := if s.inFlow then s else s.openBlock key.start.column key.tokens .blockMapping
    .ok ({ s with keyAllowed := false }.emit .value |>.goTo rest)
  | none =>
    if !s.inFlow && !s.keyAllowed then throw .misplacedValue
    let s := if s.inFlow then s else s.openBlock s.cursor.column s.tokens.size .blockMapping
    let s ← { s with keyAllowed := !s.inFlow }.dropOwn
    .ok (s.emit .value |>.goTo rest)

def item (s : Layout) (read : Except YamlFault (Token × Text)) : Except YamlFault Layout := do
  let s ← s.keepKey
  let (token, rest) ← read
  .ok ({ s with keyAllowed := false }.emit token |>.goTo rest)

/-- Reads a plain scalar. After a line end there may be a key again. -/
def plainItem (s : Layout) : Except YamlFault Layout := do
  let s ← s.keepKey
  let scalar := plain s.inFlow (s.indent + 1) s.cursor.rest
  .ok ({ s with keyAllowed := scalar.endsLine }.emit (.scalar scalar.text true) |>.goTo scalar.rest)

def blockItem (s : Layout) (isFolded : Bool) (rest : Text) : Except YamlFault Layout := do
  let s ← { s with keyAllowed := true }.dropOwn
  let (text, rest) ← block isFolded s.indent rest
  .ok (s.emit (.scalar text false) |>.goTo rest)

/-- Whether a colon stands for itself and not within a scalar. Inside brackets it may be written
without a blank after it if it cannot start a scalar there. -/
def isColon (s : Layout) (followsColon : Bool) (rest : Text) : Bool :=
  match s.brackets with
  | [] | .square :: _ => endsWord rest
  | .curly :: _ => !followsColon || endsWord rest

def startsPlain (s : Layout) (c : Char) (rest : Text) : Bool :=
  !(isBlank c || isBreak c || List.contains "-?:,[]\x7b\x7d#&*!|>\x27\"%@\x60".toList c) ||
    (c == '-' && !endsWord rest) || (c == ':' && s.inFlow && !(rest.head?.any isBlank)) ||
    (c == '?' && !s.inFlow && !endsWord rest) || (c == ':' && !s.inFlow && !endsWord rest)

def token (s : Layout) (followsColon : Bool) (c : Char) (rest : Text) : Except YamlFault Layout :=
  let isLineStart := s.cursor.column == 0
  if c == '%' && isLineStart then do
    let (directive, rest) ← directive rest
    s.between (.directive directive) rest
  else if isLineStart && isDocumentStart (c :: rest) then s.between .documentStart (rest.drop 2)
  else if isLineStart && isDocumentEnd (c :: rest) then s.between .documentEnd (rest.drop 2)
  else if c == '[' then s.openBracket .square .flowSequence rest
  else if c == '{' then s.openBracket .curly .flowMapping rest
  else if c == ']' then s.closeBracket .flowSequenceEnd rest
  else if c == '}' then s.closeBracket .flowMappingEnd rest
  else if c == ',' then s.comma rest
  else if c == '-' && endsWord rest then s.entryMark rest
  else if c == '?' && (s.inFlow || endsWord rest) then s.keyMark rest
  else if c == ':' && s.isColon followsColon rest then s.colon rest
  else if c == '*' then s.item ((anchorName rest).map fun (name, rest) => (.alias name, rest))
  else if c == '&' then s.item ((anchorName rest).map fun (name, rest) => (.anchor name, rest))
  else if c == '!' then s.item ((writtenTag rest).map fun (tag, rest) => (.tag tag, rest))
  else if c == '|' && !s.inFlow then s.blockItem false rest
  else if c == '>' && !s.inFlow then s.blockItem true rest
  else if c == '\x27' || c == '"' then
    s.item ((quoted (c == '"') rest).map fun (text, rest) => (.scalar text false, rest))
  else if s.startsPlain c rest then s.plainItem
  else .error (.unexpected c)

def advance (s : Layout) : Layout :=
  let (rest, broken) := toToken s.inFlow false false s.cursor.rest
  { s.goTo rest with keyAllowed := s.keyAllowed || (broken && !s.inFlow) }

/-- Reads the next tokens, or nothing if the text is at its end. A colon right after a colon is told
apart only while a key may still start before it. -/
def step (s : Layout) : Except YamlFault (Layout × Bool) := do
  let s ← s.dropStale
  let followsColon := s.tokens.back? == some .value && !s.keys.isEmpty
  let s ← s.advance.dropStale
  let s := s.unwind s.cursor.column
  match s.cursor.rest with
  | [] =>
    let s ← (s.unwind (-1)).dropOwn
    .ok (s, true)
  | c :: rest =>
    let s ← s.token followsColon c rest
    .ok (s, false)

/-- Reads tokens to the end of the text; `bound` limits the number of steps. -/
def stepAll : (bound : Nat) → Layout → Except YamlFault Layout
  | 0, s => .ok s
  | bound + 1, s => do
    let (s, isDone) ← s.step
    if isDone then .ok s else stepAll bound s

end Layout

/-- The tokens of a text. A byte order mark at its start is passed over. -/
def tokens (text : Text) : Except YamlFault (List Token) := do
  match text.find? fun c => !isPrintable c with
  | some c => throw (.unprintable c)
  | none =>
    let cursor : Cursor := { rest := text }
    let start := if text.head? == some '\ufeff' then cursor.next else cursor
    let s ← Layout.stepAll (text.length + 1) { cursor := start }
    .ok s.tokens.toList

end XmlCheck.Yaml
