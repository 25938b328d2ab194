import XmlCheck.Schema.Declared
import XmlCheck.File.Path

/-!
What the reading of a schema document is made of: its nodes as far as they count, the surroundings
in which they are read, and the values of attributes that have a form.
-/

namespace XmlCheck.Schema

/-- A document that a schema asks for: where relative addresses in it start, and its octets. -/
structure FetchedDocument where
  place : Text
  octets : List UInt8

structure ReadContext where
  address : Option Text
  place : Text
  isIncluded : Bool
  space : Option Text := none
  adoptsSpace : Bool := false
  elementsQualified : Bool := false
  attributesQualified : Bool := false
  blocked : List Derivation := []
  blocksSubstitution : Bool := false
  imported : List (Option Text) := []

abbrev Read := ExceptT SchemaFault (StateM Components)

/-- Steps of the reading of several documents. The addresses of those that were asked for outlast a
fault as well. -/
abbrev Asking := ExceptT SchemaFault (StateT (List Text) (StateM Components))

instance : MonadLift Read Asking where
  monadLift step := ExceptT.mk (StateT.lift step.run)

structure SchemaNode where
  tag : Xml.Tag
  scope : Xml.Scope
  children : List Xml.Node

inductive SchemaPart
  | node (node : SchemaNode)
  | stray

namespace SchemaNode

def ofElement (outer : Xml.Scope) (tag : Xml.Tag) (children : List Xml.Node) : SchemaNode :=
  ⟨tag, tag.scope outer, children⟩

/-- The parts of a node. White space, comments and the like do not count. -/
def parts (n : SchemaNode) : List SchemaPart :=
  n.children.filterMap fun
    | .element tag children => some (.node (ofElement n.scope tag children))
    | .text content => if content.all Xml.isSpace then none else some .stray
    | .characterData _ => some .stray
    | _ => none

def isNamed (n : SchemaNode) (name : String) : Bool :=
  n.tag.name = ⟨some schemaSpace, name.toList⟩

/-- The value of an attribute. In documents that other ones ask for, the text of entities counts. -/
def value? (ctx : ReadContext) (n : SchemaNode) (key : String) : Option Text :=
  (n.tag.attributes.find? fun a => a.name = ⟨none, key.toList⟩).map fun a =>
    if ctx.isIncluded then a.value else a.bare

def has (n : SchemaNode) (key : String) : Bool :=
  n.tag.attributes.any fun a => a.name = ⟨none, key.toList⟩

def fault {α : Type} (n : SchemaNode) (cause : FaultCause) : Read α :=
  throw ⟨.node n.tag.name, cause, some n.tag.line⟩

def faultAt {α : Type} (n : SchemaNode) (key : String) (cause : FaultCause) : Read α :=
  throw ⟨.nodeAttribute n.tag.name key.toList, cause, some n.tag.line⟩

def faultOn {α : Type} (n : SchemaNode) (part : SchemaPart) (cause : FaultCause) : Read α :=
  let line := match part with | .node m => m.tag.line | .stray => n.tag.line
  throw ⟨.node n.tag.name, cause, some line⟩

def noMore (n : SchemaNode) (rest : List SchemaPart) (expected : String) : Read Unit :=
  match rest with
  | [] => return
  | part :: _ => n.faultOn part (.badContent expected.toList)

/-- Refuses attributes that a node cannot have. Those of other namespaces may stand anywhere. -/
def allowOnly (n : SchemaNode) (keys : List String) : Read Unit :=
  let refused? := n.tag.attributes.find? fun a =>
    match a.name.space with
    | none => !keys.any fun key => key.toList = a.name.localName
    | some space => space = schemaSpace
  match refused? with
  | some a => n.fault (.extraAttribute a.name.toText)
  | none => return

def required (ctx : ReadContext) (n : SchemaNode) (key : String) : Read Text :=
  match n.value? ctx key with
  | some value => return value
  | none => n.fault (.missingAttribute key.toList)

def plainName (ctx : ReadContext) (n : SchemaNode) (key : String) : Read Text := do
  let value ← n.required ctx key
  let name := WhiteSpace.collapse.apply value
  if Xml.isPlainName name then return name
  else n.faultAt key (.notOfType value "xs:NCName")

def flag (ctx : ReadContext) (n : SchemaNode) (key : String) : Read Bool :=
  match n.value? ctx key with
  | none => return false
  | some value =>
    match Literal.truth? value with
    | some b => return b
    | none => n.faultAt key (.badValue value "xs:boolean")

def checkMention (ctx : ReadContext) (n : SchemaNode) (key : String) (space : Option Text) :
    Read Unit :=
  if space = ctx.space || space = some schemaSpace || ctx.imported.contains space then return
  else n.faultAt key (.notImported space)

/-- The name that a text mentions. Where a document has taken over the namespace of another one, so
have its names without namespace. -/
def nameOf (ctx : ReadContext) (n : SchemaNode) (key : String) (value : Text) : Read Xml.QName := do
  let name ←
    match Literal.name? n.scope value with
    | .error .malformed => n.faultAt key (.notOfType value "xs:QName")
    | .error .unboundName => n.faultAt key (.unboundName value)
    | .ok ⟨none, localName⟩ =>
      pure ⟨if ctx.adoptsSpace then ctx.space else none, localName⟩
    | .ok name => pure name
  n.checkMention ctx key name.space
  return name

def mention? (ctx : ReadContext) (n : SchemaNode) (key : String) : Read (Option Xml.QName) :=
  match n.value? ctx key with
  | none => return none
  | some value => do return some (← n.nameOf ctx key value)

/-- A count within bounds, or one if the attribute is missing. -/
def count (ctx : ReadContext) (n : SchemaNode) (key : String) (least : Nat) (most : Option Nat)
    (expected : String) : Read Nat :=
  match n.value? ctx key with
  | none => return 1
  | some value =>
    let digits := Literal.trim value
    let number := Text.natOfDigits digits
    let fits := least ≤ number && ((most.map fun m => decide (number ≤ m)).getD true)
    if digits.isEmpty || !digits.all Char.isDigit || !fits then
      n.faultAt key (.badValue value expected.toList)
    else return number

def most (ctx : ReadContext) (n : SchemaNode) : Read (Option Nat) :=
  if n.value? ctx "maxOccurs" = some "unbounded" then return none
  else return some (← n.count ctx "maxOccurs" 0 none "(xs:nonNegativeInteger | unbounded)")

def checkOccurrence (n : SchemaNode) (o : Occurrence) : Read Unit :=
  match o.most with
  | none => return
  | some 0 => if o.least = 0 then return else n.faultAt "maxOccurs" (.belowLeast 1)
  | some most => if most < o.least then n.faultAt "minOccurs" .leastAboveMost else return

def occurrence (ctx : ReadContext) (n : SchemaNode) : Read Occurrence := do
  let least ← n.count ctx "minOccurs" 0 none "xs:nonNegativeInteger"
  let o : Occurrence := ⟨least, ← n.most ctx⟩
  n.checkOccurrence o
  return o

/-- How often a group in any order may occur: once, or perhaps not at all. -/
def allOccurrence (ctx : ReadContext) (n : SchemaNode) : Read Occurrence := do
  let least ← n.count ctx "minOccurs" 0 (some 1) "(0 | 1)"
  let most ← n.count ctx "maxOccurs" 1 (some 1) "1"
  return ⟨least, some most⟩

/-- Whether names are qualified: as an attribute says, or else as the document does. -/
def isQualified (ctx : ReadContext) (n : SchemaNode) (key : String) (standard : Bool) :
    Read Bool :=
  match n.value? ctx key with
  | none => return standard
  | some value =>
    if value = ("qualified" : Text) then return true
    else if value = ("unqualified" : Text) then return false
    else n.faultAt key (.badValue value "(qualified | unqualified)")

def blocks (ctx : ReadContext) (n : SchemaNode) (key : String)
    (standard : List Derivation × Bool) (expected : String) : Read (List Derivation × Bool) :=
  match n.value? ctx key with
  | none => return standard
  | some value =>
    if value = ("#all" : Text) then return ([.extension, .restriction], true)
    else
      let words := WhiteSpace.words value
      let known (w : Text) : Bool :=
        w = ("extension" : Text) || w = ("restriction" : Text) || w = ("substitution" : Text)
      if words.all known then
        let derivations := words.filterMap fun w =>
          if w = ("extension" : Text) then some Derivation.extension
          else if w = ("restriction" : Text) then some Derivation.restriction
          else none
        return (derivations, words.contains "substitution")
      else n.faultAt key (.badValue value expected.toList)

def constraint (ctx : ReadContext) (n : SchemaNode) : Read (Option ValueConstraint) :=
  match n.value? ctx "default", n.value? ctx "fixed" with
  | some _, some _ => n.faultAt "fixed" (.exclusive "default" "fixed")
  | some value, none => return some ⟨false, value⟩
  | none, some value => return some ⟨true, value⟩
  | none, none => return none

def wildcardLabels (ctx : ReadContext) (n : SchemaNode) : Read (List Label) :=
  match n.value? ctx "namespace" with
  | none => return [.anySpace, .noSpace]
  | some value =>
    if value = ("##any" : Text) then return [.anySpace, .noSpace]
    else if value = ("##other" : Text) then return [.otherThan ctx.space]
    else
      let label (w : Text) : Label :=
        if w = ("##targetNamespace" : Text) then
          match ctx.space with
          | some space => .inSpace space
          | none => .noSpace
        else if w = ("##local" : Text) then .noSpace
        else .inSpace w
      return ((WhiteSpace.words value).map label).eraseDups

def processing (ctx : ReadContext) (n : SchemaNode) : Read Processing :=
  match n.value? ctx "processContents" with
  | none => return .strict
  | some value =>
    if value = ("strict" : Text) then return .strict
    else if value = ("lax" : Text) then return .lax
    else if value = ("skip" : Text) then return .skip
    else n.faultAt "processContents" (.badValue value "(strict | skip | lax)")

/-- Checks an annotation, which may hold anything in the parts meant for it. -/
def checkAnnotation (n : SchemaNode) : Read Unit := do
  n.allowOnly ["id"]
  let isNote : SchemaPart → Bool
    | .node m => m.isNamed "appinfo" || m.isNamed "documentation"
    | .stray => false
  n.noMore (n.parts.dropWhile isNote) "(appinfo | documentation)*"

def body (n : SchemaNode) : Read (List SchemaPart) :=
  match n.parts with
  | .node m :: rest =>
    if m.isNamed "annotation" then do
      m.checkAnnotation
      return rest
    else return .node m :: rest
  | rest => return rest

def take (name : String) : List SchemaPart → Option SchemaNode × List SchemaPart
  | .node m :: rest => if m.isNamed name then (some m, rest) else (none, .node m :: rest)
  | rest => (none, rest)

def takeAll (names : List String) : List SchemaPart → List SchemaNode × List SchemaPart
  | .node m :: rest =>
    if names.any m.isNamed then
      let taken := takeAll names rest
      (m :: taken.1, taken.2)
    else ([], .node m :: rest)
  | rest => ([], rest)

end SchemaNode

namespace Read

/-- Notes that a reference has to be followed later on. -/
def await (p : Pending) : Read Unit :=
  modify fun c => { c with pending := c.pending.push p }

/-- Notes that a name has been given twice, unless that happened before. -/
def noteTwice (isTwice : Bool) (n : SchemaNode) (kind : ComponentKind) (name : Text) : Read Unit :=
  modify fun c =>
    if isTwice && c.doubled.isNone then
      { c with doubled := some ⟨.node n.tag.name, .twice kind name, some n.tag.line⟩ }
    else c

def addElement (e : ElementDeclaration) : Read Nat := do
  let c ← get
  set { c with elements := c.elements.push e }
  await (.element c.elements.size)
  return c.elements.size

def changeElement (index : Nat) (f : ElementDeclaration → ElementDeclaration) : Read Unit :=
  modify fun c => { c with elements := c.elements.modify index f }

def addAttribute (a : AttributeDeclaration) : Read Nat := do
  let c ← get
  set { c with attributes := c.attributes.push a }
  await (.declaredAttribute c.attributes.size)
  return c.attributes.size

def setAttributeType (index : Nat) (type : TypeMention) : Read Unit :=
  modify fun c => { c with attributes := c.attributes.modify index fun a => { a with type } }

/-- Adds a simple type whose body is still to be read. -/
def addSimpleType (name : Option Xml.QName) (line : Nat) : Read Nat := do
  let c ← get
  set { c with simpleTypes := c.simpleTypes.push ⟨name, .union [], line⟩ }
  await (.simpleType c.simpleTypes.size)
  return c.simpleTypes.size

def setSimpleBody (index : Nat) (body : SimpleBody) : Read Unit :=
  modify fun c => { c with simpleTypes := c.simpleTypes.modify index fun t => { t with body } }

def addComplexType (t : ComplexDeclaration) : Read Nat := do
  let c ← get
  set { c with complexTypes := c.complexTypes.push t }
  await (.complexType c.complexTypes.size)
  return c.complexTypes.size

def changeComplexType (index : Nat) (f : ComplexDeclaration → ComplexDeclaration) : Read Unit :=
  modify fun c => { c with complexTypes := c.complexTypes.modify index f }

def addKey (k : ConstraintDeclaration) : Read Nat := do
  let c ← get
  set { c with keys := c.keys.push k }
  await (.key c.keys.size)
  return c.keys.size

end Read

end XmlCheck.Schema
