import XmlCheck.Text.Digit
import XmlCheck.Xml.Reader.Basic

/-!
The small parts of a document: character and entity references, comments, instructions and
character data sections.
-/

namespace XmlCheck.Xml.Reader

inductive CodeDigits
  | code (value width : Nat)
  | broken (width : Nat)

/-- Reads digits in a base up to a semicolon; `width` counts those read. Codes beyond the last
character are all the same. -/
def codeDigits (base : Nat) : (value width : Nat) → Text → CodeDigits
  | value, width, ';' :: _ => .code value width
  | value, width, c :: rest =>
    match Text.digitValue? base c with
    | some d => codeDigits base (min 0x110000 (value * base + d)) (width + 1) rest
    | none => .broken width
  | _, width, [] => .broken width

def charOfCode (code : Nat) : Reader (Option Char) := do
  if 0x110000 ≤ code then
    report .charCodeTooLarge
    return none
  else if isAllowedCode code then return some (Char.ofNat code)
  else
    report (.badCharCode code)
    return none

def charReference? : Reader (Option Char) := do
  let hex ← startsWith "&#x"
  skip (if hex then 3 else 2)
  match codeDigits (if hex then 16 else 10) 0 0 (← rest) with
  | .code value width =>
    skip (width + 1)
    charOfCode value
  | .broken width =>
    skip width
    report (if hex then .badHexCode else .badDecimalCode)
    charOfCode 0

def entityName? : Reader (Option Text) := do
  skip 1
  match ← fullName? with
  | none =>
    report .entityNameMissing
    return none
  | some name =>
    if ← accept [';'] then return some name
    else
      report .entitySemicolonMissing
      return none

def predefined : List (Text × Char) :=
  [("lt", '<'), ("gt", '>'), ("amp", '&'), ("quot", '"'), ("apos", '\x27')]

inductive Meaning
  | char (c : Char)
  | entity (kind : EntityKind)

/-- Looks an entity up. One that is not declared is a violation, unless there are declarations that
are not read; an entity from outside may not stand in an attribute value. -/
def entityMeaning? (name : Text) (inAttribute : Bool) : Reader (Option Meaning) := do
  match predefined.lookup name with
  | some c => return some (.char c)
  | none =>
    let s ← get
    match s.entities.lookup name with
    | none =>
      if s.standalone || !(s.hasOuterSubset || s.hasParameterReference) then
        report (.entityUndefined name)
      return none
    | some .unparsed =>
      report (.entityUnparsed name)
      return none
    | some .external =>
      if inAttribute then
        report (.entityExternal name)
        return none
      else return some (.entity .external)
    | some kind => return some (.entity kind)

def allowedUntil (stopHere : Text → Bool) : Text → Text
  | [] => []
  | c :: rest =>
    if stopHere (c :: rest) || !isAllowed c then [] else c :: allowedUntil stopHere rest

/-- The rest of a comment in which other than plain characters occur: `q` and `r` are the two
characters before the present one and `before` is what precedes them. -/
def commentTail (q r : Char) : (bound : Nat) → (before : Text) → Reader Unit
  | 0, _ => return
  | bound + 1, before => do
    match ← next? with
    | none => report (.commentOpen (some before))
    | some c =>
      if !isAllowed c then report (.badCharInComment c.toNat)
      else if c = '>' ∧ r = '-' ∧ q = '-' then skip 1
      else
        if r = '-' ∧ q = '-' then report .hyphensInComment
        skip 1
        commentTail r c bound (before ++ [q])

/-- A comment from its first character that is not plain. -/
def commentSlow (before : Text) : Reader Unit := do
  match ← rest with
  | [] => report (.commentOpen none)
  | q :: [] =>
    if isAllowed q then
      skip 1
      report (.commentOpen none)
    else report (.badCharInComment q.toNat)
  | q :: r :: more =>
    if !isAllowed q then report (.badCharInComment q.toNat)
    else
      skip 1
      if !isAllowed r then report (.badCharInComment r.toNat)
      else
        skip 1
        if more.isEmpty then report (.commentOpen none)
        else commentTail q r (more.length + 1) before

def isPlainInComment (c : Char) : Bool :=
  (c.toNat ≤ 0x7F && 0x20 ≤ c.toNat && c != '-') || c == '\t' || c == '\n'

def commentBody : (bound : Nat) → (before : Text) → Reader Unit
  | 0, _ => return
  | bound + 1, before => do
    let before := before ++ (← run isPlainInComment)
    match ← rest with
    | '-' :: '-' :: '>' :: _ => skip 3
    | '-' :: '-' :: _ =>
      report (.doubleHyphen (if before.isEmpty then none else some before))
      skip 2
      commentBody bound (before ++ ['-', '-'])
    | '-' :: _ =>
      skip 1
      commentBody bound (before ++ ['-'])
    | '\r' :: '\n' :: _ =>
      skip 1
      commentBody bound before
    | _ => commentSlow before

def comment : Reader Unit := do
  skip 4
  commentBody ((← get).left + 1) []

def target? : Reader (Option Text) := do
  match ← fullName? with
  | none => return none
  | some name =>
    if name = "xml".toList then report .lateDeclaration
    else if name.map Char.toLower = "xml".toList then report .badTarget
    else if name.contains ':' then report (.targetHasColon name)
    return some name

def instruction : Reader Unit := do
  skip 2
  match ← target? with
  | none => report .targetMissing
  | some name =>
    if ← accept "?>" then return
    requireSpaces (.instructionBlank name)
    let data := allowedUntil (fun text => List.isPrefixOf ['?', '>'] text) (← rest)
    skip data.length
    unless ← accept "?>" do report (.instructionOpen name)

def withLineFeeds : Text → Text
  | '\r' :: '\n' :: rest => '\n' :: withLineFeeds rest
  | '\r' :: rest => '\n' :: withLineFeeds rest
  | c :: rest => c :: withLineFeeds rest
  | [] => []

def characterData? : Reader (Option Text) := do
  skip 9
  let found := allowedUntil (fun text => List.isPrefixOf [']', ']', '>'] text) (← rest)
  skip found.length
  let data := withLineFeeds found
  if ← accept "]]>" then return some data
  else
    report (.cdataOpen (if data.length < 2 then none else some (data.take (data.length - 2))))
    return none

def miscellany : (bound : Nat) → Reader Unit
  | 0 => return
  | bound + 1 => do
    let _ ← skipSpaces
    if (← get).stopped then return
    else if ← startsWith "<?" then
      instruction
      miscellany bound
    else if ← startsWith "<!--" then
      comment
      miscellany bound
    else return

def versionNumber? : Reader (Option Text) := do
  let whole := (← rest).takeWhile Char.isDigit
  match whole, (← rest).drop 1 with
  | c :: _, '.' :: _ =>
    skip 2
    return some (c :: '.' :: (← run Char.isDigit))
  | _ :: _, _ =>
    skip 1
    return none
  | [], _ => return none

def encodingName? : Reader (Option Text) := do
  match ← next? with
  | some c =>
    if c.isAlpha then
      return some (← run fun c =>
        c.isAlphanum || c == '.' || c == '_' || c == '-')
    else
      report .badEncodingName
      return none
  | none =>
    report .badEncodingName
    return none

/-- An equals sign and a quoted value; `read` reads what is between the quotes. -/
def quotedValue? {α : Type} (read : Reader (Option α)) (keepsOpen : Bool) :
    Reader (Option α) := do
  let _ ← skipSpaces
  unless ← accept ['='] do
    report .equalsExpected
    return none
  let _ ← skipSpaces
  match ← next? with
  | some quote =>
    if quote = '"' ∨ quote = '\x27' then
      skip 1
      let value ← read
      if ← accept [quote] then return value
      else
        report .stringOpen
        return if keepsOpen then value else none
    else
      report .stringNotStarted
      return none
  | none =>
    report .stringNotStarted
    return none

/-- Reads the rest of the document in an encoding that it declares. Only a document that is read
as UTF-8 without a mark can declare another one. -/
def changeEncoding (name : Text) : Reader Unit := do
  let s ← get
  match s.octets with
  | none => return
  | some octets =>
    set { s with octets := none }
    match Encoding.ofName? name with
    | none => report (.unknownEncoding name)
    | some .utf8 => return
    | some encoding =>
      let consumed := (Encoding.utf8.decode octets).text.length - s.left
      let decoded := encoding.decode (octets.drop consumed)
      modify fun s =>
        { s with
          rest := decoded.text
          left := decoded.text.length
          brokenAt := none
          truncated := decoded.truncated }
      if decoded.cutOff then report .badEncodingBytes

def standaloneWord? : Reader (Option Bool) := do
  if ← accept "no" then return some false
  else if ← accept "yes" then return some true
  else
    report .badStandalone
    return none

def skipToGreater : Reader Unit := do
  let _ ← run (· != '>')
  skip 1

def declaration : Reader Unit := do
  skip 5
  let _ ← skipSpaces
  let version ← if ← accept "version" then quotedValue? versionNumber? true else pure none
  match version with
  | none => report .versionMissing
  | some v => unless List.isPrefixOf ['1', '.'] v do report (.badVersion v)
  unless ((← next?).map isSpace).getD false do
    if ← accept "?>" then return
    report .blankNeeded
  let _ ← skipSpaces
  let encoding ← if ← accept "encoding" then quotedValue? encodingName? false else pure none
  if let some name := encoding then
    changeEncoding name
    unless ((← next?).map isSpace).getD false do
      if ← accept "?>" then return
      report .blankNeeded
  let _ ← skipSpaces
  if ← accept "standalone" then
    if let some value := ← quotedValue? standaloneWord? true then
      modify fun s => { s with standalone := value }
  let _ ← skipSpaces
  if ← accept "?>" then return
  report .declarationOpen
  if ← accept ['>'] then return
  skipToGreater

end XmlCheck.Xml.Reader
