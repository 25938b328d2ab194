import XmlCheck.Xml.Reader.Value
import XmlCheck.Xml.Uri

/-!
Start tags and end tags. A start tag is read to its end before the namespaces of its names are
looked up, so that declarations count wherever they stand in it.
-/

namespace XmlCheck.Xml.Reader

/-- The namespace of declarations themselves, which nothing may be bound to. -/
def xmlnsSpace : Text := "http://www.w3.org/2000/xmlns/"

structure RawAttribute where
  binder : Option Text
  key : Text
  value : Text
  bare : Text

/-- What a start tag has: namespaces and attributes, the last first. -/
structure TagParts where
  namespaces : List (Option Text × Text) := []
  attributes : List RawAttribute := []

def writtenName (binder : Option Text) (name : Text) : Text :=
  match binder with
  | none => name
  | some p => p ++ ':' :: name

/-- Notes what is wrong with declaring a namespace; tells whether the declaration counts. -/
def checkNamespace (binder : Option Text) (space : Text) : Reader Bool := do
  match binder with
  | none =>
    unless space.isEmpty do
      unless Uri.isReference space do report (.badSpace none space)
    if space = xmlSpace then
      report .xmlSpaceAsDefault
      return false
    else if space = xmlnsSpace then
      report .xmlnsSpaceReused
      return false
    else return true
  | some p =>
    if p = "xml".toList then
      unless space = xmlSpace do report .xmlBoundElsewhere
      return false
    else if space = xmlSpace then
      report .xmlSpaceBoundElsewhere
      return false
    else if p = "xmlns".toList then
      report .xmlnsRedefined
      return false
    else if space = xmlnsSpace then
      report .xmlnsSpaceReused
      return false
    else if space.isEmpty then
      report (.emptySpace p)
      return false
    else
      unless Uri.isReference space do report (.badSpace (some p) space)
      return true

def addNamespace (binder : Option Text) (space : Text) (parts : TagParts) : Reader TagParts := do
  if ← checkNamespace binder space then
    if parts.namespaces.any fun n => n.1 == binder then
      report (.attributeTwice (match binder with
        | none => "xmlns"
        | some p => ("xmlns:" : Text) ++ p))
      return parts
    else return { parts with namespaces := (binder, space) :: parts.namespaces }
  else return parts

def addAttribute (a : RawAttribute) (parts : TagParts) : Reader TagParts := do
  if a.binder.isNone && a.key == "xmlns".toList then addNamespace none a.value parts
  else if a.binder = some "xmlns".toList then addNamespace (some a.key) a.value parts
  else return { parts with attributes := a :: parts.attributes }

/-- One attribute with its value; the value is missing if it is no value. -/
def attributePair? (element : Text) :
    Reader (Option (Option Text × Text × Option (Text × Text))) := do
  match ← qName? with
  | none =>
    report .badAttributeName
    return none
  | some (binder, key) =>
    let _ ← skipSpaces
    if ← accept ['='] then
      let _ ← skipSpaces
      let tokens := (← get).tokenLists.contains (element, writtenName binder key)
      return some (binder, key, ← attributeValue? tokens)
    else
      report (.valueMissing key)
      return some (binder, key, none)

def atTagEnd : Reader Bool := do
  return (← startsWith ['>']) || (← startsWith "/>")

def attributes (element : Text) : (bound : Nat) → TagParts → Reader TagParts
  | 0, parts => return parts
  | bound + 1, parts => do
    let more := match ← next? with
      | some c => c.toNat ≥ 0x20 || isSpace c
      | none => false
    if !more || (← atTagEnd) || (← get).stopped then return parts
    match ← attributePair? element with
    | none => return parts
    | some (binder, key, value?) =>
      let parts ← match value? with
        | some (value, bare) => addAttribute ⟨binder, key, value, bare⟩ parts
        | none => pure parts
      if ← atTagEnd then return parts
      if ← skipSpaces then attributes element bound parts
      else
        report .attributesRunTogether
        return parts

def addDefaults (element : Text) : List DefaultValue → TagParts → Reader TagParts
  | [], parts => return parts
  | d :: rest, parts => do
    if d.element ≠ element then addDefaults element rest parts
    else
      let (binder, key) :=
        match d.key.takeWhile (· != ':'), d.key.dropWhile (· != ':') with
        | p, ':' :: key => (some p, key)
        | _, _ => (none, d.key)
      let present :=
        if binder.isNone && key == "xmlns".toList then parts.namespaces.any fun n => n.1.isNone
        else if binder = some "xmlns".toList then parts.namespaces.any fun n => n.1 == some key
        else parts.attributes.any fun a => a.binder == binder && a.key == key
      if present then addDefaults element rest parts
      else addDefaults element rest (← addAttribute ⟨binder, key, d.value, d.bare⟩ parts)

def resolveAttributes (element : Text) (scope : Scope) :
    List RawAttribute → Reader (List (RawAttribute × Attribute))
  | [] => return []
  | a :: rest => do
    let space ← match a.binder with
      | none => pure none
      | some p =>
        match Scope.find? scope (some p) with
        | some space => pure (some space)
        | none =>
          report (.unboundAttribute p a.key element)
          pure none
    let found : Attribute := { name := ⟨space, a.key⟩, value := a.value, bare := a.bare }
    return (a, found) :: (← resolveAttributes element scope rest)

/-- Notes attributes that occur twice, and leaves out the later ones. -/
def withoutRepeats (seen : List (RawAttribute × Attribute)) :
    List (RawAttribute × Attribute) → Reader (List Attribute)
  | [] => return seen.reverse.map (·.2)
  | a :: rest => do
    match seen.find? fun b => b.2.name = a.2.name with
    | none => withoutRepeats (a :: seen) rest
    | some b =>
      if a.1.binder = b.1.binder then
        report (.attributeTwice (writtenName a.1.binder a.1.key))
      else report (.attributeTwiceInSpace a.1.key (a.2.name.space.getD []))
      withoutRepeats seen rest

def outerScope (s : Progress) : Scope :=
  match s.openElements with
  | [] => []
  | e :: _ => e.scope

def startTag? (startLine : Nat) : Reader (Option OpenElement) := do
  match ← qName? with
  | none =>
    report .badElementName
    return none
  | some (binder, name) =>
    let written := writtenName binder name
    let _ ← skipSpaces
    let parts ← attributes written ((← get).left + 1) {}
    let parts ← addDefaults written (← get).defaults parts
    let namespaces := parts.namespaces.reverse
    let scope : Scope := namespaces ++ outerScope (← get)
    let resolved ← resolveAttributes name scope parts.attributes.reverse
    let attributes ← withoutRepeats [] resolved
    let space ← match binder with
      | none => pure (Scope.find? scope none)
      | some p =>
        match Scope.find? scope (some p) with
        | some space => pure (some space)
        | none =>
          report (.unboundElement p name)
          pure none
    let s ← get
    let tag : Tag := { name := ⟨space, name⟩, namespaces, attributes, line := s.line }
    return some { binder, tag, startLine, scope, live := s.intact, children := [] }

/-- Adds a node to the innermost open element while the tree is being built. -/
def addNode (node : Node) : Reader Unit :=
  modify fun s =>
    match s.openElements with
    | e :: rest =>
      if s.intact && e.live then
        { s with openElements := { e with children := node :: e.children } :: rest }
      else s
    | [] => s

/-- Adds text, which joins with text directly before it. -/
def addText (content : Text) : Reader Unit :=
  modify fun s =>
    match s.openElements with
    | e :: rest =>
      if s.intact && e.live && !content.isEmpty then
        let children :=
          match e.children with
          | .text front :: others => .text (front ++ content) :: others
          | others => .text content :: others
        { s with openElements := { e with children } :: rest }
      else s
    | [] => s

def addCharacterData (content : Text) : Reader Unit :=
  modify fun s =>
    match s.openElements with
    | e :: rest =>
      if s.intact && e.live then
        let children :=
          match e.children with
          | .characterData front :: others => .characterData (front ++ content) :: others
          | others => .characterData content :: others
        { s with openElements := { e with children } :: rest }
      else s
    | [] => s

/-- The state with the innermost open element closed: it becomes a child of the next one, or the
root. -/
def closed (s : Progress) : Progress :=
  match s.openElements with
  | [] => s
  | e :: [] =>
    { s with
      openElements := []
      root := if e.live then some ⟨e.tag, e.children.reverse⟩ else s.root }
  | e :: outer :: rest =>
    let outer :=
      if e.live then { outer with children := .element e.tag e.children.reverse :: outer.children }
      else outer
    { s with openElements := outer :: rest }

def depthLimit : Nat := 2048

def startElement : Reader Unit := do
  let s ← get
  if depthLimit ≤ s.openElements.length then reportLast (.tooDeep depthLimit)
  else
    skip 1
    match ← startTag? s.line with
    | none => return
    | some e =>
      modify fun s => { s with openElements := e :: s.openElements }
      if ← accept "/>" then modify closed
      else if ← accept ['>'] then return
      else
        report (.startTagOpen e.tag.name.localName e.startLine)
        modify closed

/-- The name in an end tag: none if it is the name of the open element, else what is shown. -/
def endName (e : OpenElement) : Reader (Option Text) := do
  match e.binder with
  | none =>
    match ← fullName? with
    | some name => return if name = e.tag.name.localName then none else some name
    | none => return some "unparsable"
  | some p =>
    match ← qName? with
    | some (binder, name) =>
      return if binder = some p ∧ name = e.tag.name.localName then none else some name
    | none => return some "unparsable"

/-- An end tag, which starts right here; it closes the innermost element whatever its name. -/
def endElement : Reader Unit := do
  match (← get).openElements with
  | [] => return
  | e :: _ =>
    skip 2
    let other ← endName e
    let _ ← skipSpaces
    unless ← accept ['>'] do report .greaterExpected
    if let some name := other then
      report (.tagMismatch e.tag.name.localName e.startLine name)
    modify closed

end XmlCheck.Xml.Reader
