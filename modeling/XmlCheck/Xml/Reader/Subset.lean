import XmlCheck.Xml.Reader.Value

/-!
Document type declarations. Of the declarations inside, those of entities and of attributes matter
for the document; the others are only passed over. What is declared outside the document is not
read.
-/

namespace XmlCheck.Xml.Reader

def literal? : Reader (Option Text) := do
  match ← next? with
  | some quote =>
    if quote = '"' ∨ quote = '\x27' then
      skip 1
      let text ← run (· != quote)
      if ← accept [quote] then return some text
      else
        report .literalOpen
        return none
    else
      report .literalNotStarted
      return none
  | none =>
    report .literalNotStarted
    return none

def outsidePlace : Reader Bool := do
  if ← accept "SYSTEM" then
    requireSpaces (.spaceRequired "'SYSTEM'")
    match ← literal? with
    | some _ => return true
    | none =>
      report .systemIdMissing
      return false
  else if ← accept "PUBLIC" then
    requireSpaces (.spaceRequired "'PUBLIC'")
    let publicId ← literal?
    if publicId.isNone then report .publicIdMissing
    requireSpaces (.spaceRequired "the Public Identifier")
    match ← literal? with
    | some _ => return true
    | none =>
      report .systemIdMissing
      return publicId.isSome
  else return false

/-- The text of an entity from what stands between its quotes: character references are replaced,
other references stay. -/
def entityValueFrom : (bound : Nat) → Text → Reader Text
  | 0, _ => return []
  | bound + 1, text => do
    match text with
    | '%' :: rest =>
      match rest.takeWhile isNameChar, rest.dropWhile isNameChar with
      | [], _ =>
        report (.ampersandInEntityValue '%')
        return []
      | _, ';' :: _ =>
        report .parameterInSubset
        return []
      | name, _ =>
        report (.semicolonInEntityValue '%' name)
        return []
    | _ =>
      match pieceOf text with
      | .done => return []
      | .code (.code value width) _ rest =>
        match ← charOfCode value with
        | some c => return c :: (← entityValueFrom bound (rest.drop (width + 1)))
        | none => return []
      | .code (.broken _) hex _ =>
        report (if hex then .badHexCode else .badDecimalCode)
        return []
      | .noName =>
        report (.ampersandInEntityValue '&')
        return []
      | .noSemicolon =>
        report (.semicolonInEntityValue '&' ((text.drop 1).takeWhile isNameChar))
        return []
      | .name name rest =>
        return '&' :: name ++ ';' :: (← entityValueFrom bound rest)
      | .char c rest => return c :: (← entityValueFrom bound rest)

def entityValue? (quote : Char) : Reader (Option Text) := do
  skip 1
  let found := allowedUntil (fun text => List.isPrefixOf [quote] text) (← rest)
  skip found.length
  if ← accept [quote] then
    let text := withLineFeeds found
    return some (← entityValueFrom (text.length + 1) text)
  else
    report .entityValueOpen
    return none

/-- Adds a declaration unless there is an earlier one of the name. -/
def declareOnce (name : Text) (kind : EntityKind) (known : List (Text × EntityKind)) :
    List (Text × EntityKind) :=
  if (known.lookup name).isSome then known else known ++ [(name, kind)]

def entityDefinition (isParameter : Bool) : Reader (Option EntityKind) := do
  match ← next? with
  | some quote =>
    if quote = '"' ∨ quote = '\x27' then
      return (← entityValue? quote).map .internal
    else
      let outside ← outsidePlace
      unless outside do report .entityValueRequired
      if isParameter then return if outside then some .external else none
      else
        if (← next?) ≠ some '>' then
          requireSpaces .dataMarkBlank
        if ← accept "NDATA" then
          requireSpaces (.spaceRequired "'NDATA'")
          let _ ← fullName?
          return some .unparsed
        else return if outside then some .external else none
  | none =>
    report .entityValueRequired
    return none

def entityDeclaration : Reader Unit := do
  skip 8
  requireSpaces (.spaceRequired "'<!ENTITY'")
  let isParameter ← accept ['%']
  if isParameter then requireSpaces (.spaceRequired "'%'")
  match ← plainName? with
  | none => report .entityNameRequired
  | some name =>
    if (← next?) = some ':' then
      let more ← run fun c => isNameChar c || c == ':'
      report (.colonInName "entities" (name ++ more))
    requireSpaces (.spaceRequired "the entity name")
    let kind? ← entityDefinition isParameter
    if let some kind := kind? then
      modify fun s =>
        if isParameter then { s with parameters := declareOnce name kind s.parameters }
        else { s with entities := declareOnce name kind s.entities }
    let _ ← skipSpaces
    unless ← accept ['>'] do report (.entityNotClosed name)

/-- The words for the types of attributes whose values are tokens; the longer ones come first. -/
def tokenTypes : List Text :=
  ["IDREFS", "IDREF", "ID", "ENTITIES", "ENTITY", "NMTOKENS", "NMTOKEN"]

def parenthesised : Reader Bool := do
  let _ ← run (· != ')')
  accept [')']

def acceptAny : List Text → Reader Bool
  | [] => return false
  | word :: rest => do
    if ← accept word then return true
    else acceptAny rest

def attributeType? : Reader (Option Bool) := do
  if ← accept "CDATA" then return some false
  else if ← acceptAny tokenTypes then return some true
  else if ← accept "NOTATION" then
    let _ ← skipSpaces
    return if ← parenthesised then some true else none
  else if ← startsWith ['('] then
    return if ← parenthesised then some true else none
  else return none

def attributeDefinitions (element : Text) : (bound : Nat) → Reader Unit
  | 0 => return
  | bound + 1 => do
    if (← next?) = some '>' || (← rest).isEmpty then return
    match ← fullName? with
    | none => report .listAttributeRequired
    | some key =>
      requireSpaces (.spaceRequired "the attribute name")
      match ← attributeType? with
      | none => report .attributeTypeMissing
      | some tokens =>
        requireSpaces (.spaceRequired "the attribute type")
        if tokens then
          modify fun s => { s with tokenLists := s.tokenLists ++ [(element, key)] }
        if !(← accept "#REQUIRED") && !(← accept "#IMPLIED") then
          if ← accept "#FIXED" then requireSpaces (.spaceRequired "'#FIXED'")
          if let some (value, bare) := ← attributeValue? tokens then
            modify fun s =>
              if s.defaults.any fun d => d.element == element && d.key == key then s
              else { s with defaults := s.defaults ++ [⟨element, key, value, bare⟩] }
        if (← next?) ≠ some '>' then
          requireSpaces (.spaceRequired "the attribute default value")
        attributeDefinitions element bound

def attributeDeclaration : Reader Unit := do
  skip 9
  requireSpaces (.spaceRequired "'<!ATTLIST'")
  match ← fullName? with
  | none => report .listElementRequired
  | some element =>
    let _ ← skipSpaces
    attributeDefinitions element ((← get).left + 1)
    let _ ← accept ['>']

def elementDeclaration : Reader Unit := do
  skip 9
  requireSpaces (.spaceRequired "'ELEMENT'")
  if (← fullName?).isNone then report .elementNameRequired
  else
    requireSpaces (.spaceRequired "the element name")
    let _ ← run (· != '>')
    unless ← accept ['>'] do report .greaterExpected

def notationDeclaration : Reader Unit := do
  skip 10
  requireSpaces (.spaceRequired "'<!NOTATION'")
  if (← fullName?).isNone then report .notationNameRequired
  else
    requireSpaces (.spaceRequired "the NOTATION name'")
    let _ ← outsidePlace
    let _ ← skipSpaces
    unless ← accept ['>'] do report .notationNotClosed

/-- One declaration between the brackets, or nothing but a sign of it. -/
def markupDeclaration : Reader Unit := do
  if ← startsWith "<!--" then comment
  else if ← startsWith "<?" then instruction
  else if ← startsWith "<!ENTITY" then entityDeclaration
  else if ← startsWith "<!ATTLIST" then attributeDeclaration
  else if ← startsWith "<!ELEMENT" then elementDeclaration
  else if ← startsWith "<!NOTATION" then notationDeclaration
  else
    report .subsetContent
    skip 2

def parameterName? : Reader (Option Text) := do
  skip 1
  match ← fullName? with
  | none =>
    report .parameterNameMissing
    return none
  | some name =>
    if ← accept [';'] then return some name
    else
      report .parameterSemicolonMissing
      return none

/-- The declarations between the brackets, or those that a parameter entity stands for. `opened`
names the parameter entities that are being read. -/
def declarations : (bound : Nat) → (opened : List Text) → Reader Unit
  | 0, _ => return
  | bound + 1, opened => do
    let _ ← skipSpaces
    if (← get).stopped then return
    match ← rest with
    | [] => if opened.isEmpty then reportLast .subsetContent
    | ']' :: _ => unless opened.isEmpty do reportLast .subsetContent
    | '<' :: '!' :: _ | '<' :: '?' :: _ =>
      markupDeclaration
      declarations bound opened
    | '%' :: _ =>
      match ← parameterName? with
      | none => declarations bound opened
      | some name =>
        modify fun s => { s with hasParameterReference := true }
        let s ← get
        match s.parameters.lookup name with
        | some (.internal value) =>
          if opened.contains name then reportLast .entityLoop
          else
            set { s with
              rest := value
              left := value.length
              brokenAt := none
              shownAt := some (s.shownAt.getD (s.line, s.column)) }
            declarations bound (name :: opened)
            modify fun t =>
              { t with
                rest := s.rest
                left := s.left
                line := s.line
                column := s.column
                shownAt := s.shownAt
                brokenAt := s.brokenAt }
            declarations bound opened
        | _ => declarations bound opened
    | _ => reportLast .subsetContent

/-- How many steps the reading of declarations may take at most on one path: parameter entities are
declared in the text itself, so none is longer. -/
def declarationBound (s : Progress) : Nat :=
  (s.left + 2) * (s.left + 2)

def documentType : Reader Unit := do
  skip 9
  requireSpaces .doctypeBlank
  if (← fullName?).isNone then report .doctypeName
  let _ ← skipSpaces
  if ← outsidePlace then modify fun s => { s with hasOuterSubset := true }
  let _ ← skipSpaces
  if ← accept ['['] then
    declarations (declarationBound (← get)) []
    if ← accept [']'] then
      let _ ← skipSpaces
    unless ← accept ['>'] do
      if (← get).intact then report .doctypeOpen
      skip 1
  else unless ← accept ['>'] do report .doctypeOpen

end XmlCheck.Xml.Reader
