import XmlCheck.Schema.KeyCheck

/-!
Documents against schemas. Each element is opened by the declaration or the type that it is checked
by, its children are taken in order, and when it is closed its content, its value and its keys are
judged. An element that cannot be opened is passed over with all that it contains, and after a child
that may not stand where it is, the rest of its parent's content is passed over too.
-/

namespace XmlCheck.Schema

inductive CheckFailure
  | entityReference (name : Text)
  | untypedElement (name : Xml.QName)
  deriving DecidableEq, Repr

/-- The text of a failure; it does not tell the causes apart. -/
def CheckFailure.message (_ : CheckFailure) : Text :=
  "Internal error in XML Schema validation."

/-- A rule about keys that is at work, and the row of names from the element that it belongs to down
to the current one. -/
structure Watch where
  serial : Nat
  number : Nat
  row : List Xml.QName := []

/-- What is known while a document is gone through: what is wrong so far, the keys found by the
rules at work, and the keys that ended rules have left behind. -/
structure CheckState where
  violations : Array Violation := #[]
  found : List (Nat × KeyEntry) := []
  tables : List (Nat × List KeyEntry) := []
  serial : Nat := 0

abbrev Check := StateT CheckState (Except CheckFailure)

def note (spot : Spot) (cause : ViolationCause) : Check Unit :=
  modify fun s => { s with violations := s.violations.push ⟨spot, cause⟩ }

def noteAll (violations : List Violation) : Check Unit :=
  modify fun s => { s with violations := s.violations ++ violations.toArray }

inductive Approach
  | declared (rule : ElementRule)
  | wild (processing : Processing)
  | anywhere

structure Opening where
  rule : Option ElementRule
  type : TypeUse
  isNilled : Bool := false

def instanceName (name : String) : Xml.QName :=
  ⟨some instanceSpace, name.toList⟩

def typeName (scope : Xml.Scope) (text : Text) : Except (List Text) Xml.QName :=
  match Literal.name? scope text with
  | .error .malformed => .error [(SimpleType.builtin .qName).complaint text]
  | _ =>
    match Text.splitOn ':' text with
    | [binder, localName] =>
      match scope.find? (some binder) with
      | some space => .ok ⟨some space, localName⟩
      | none => .error [SimpleType.unboundComplaint text]
    | _ => .ok ⟨scope.find? none, text⟩

def element? (schema : Schema) (name : Xml.QName) : Option ElementRule :=
  (schema.elementNames.lookup name).bind fun i => schema.elements[i]?

def ownType (schema : Schema) (scope : Xml.Scope) (tag : Xml.Tag) :
    Check (Option (Option (Xml.QName × TypeUse))) :=
  match tag.attribute? (instanceName "type") with
  | none => return none
  | some text => do
    let spot := (Spot.ofTag tag).at (instanceName "type")
    match typeName scope text with
    | .error complaints =>
      noteAll (complaints.map fun c => ⟨spot, .refusedValue c⟩)
      return some none
    | .ok name =>
      match schema.type? name with
      | some type => return some (some (name, type))
      | none =>
        note spot (.unknownType name.toText)
        return some none

def nilled (rule : ElementRule) (scope : Xml.Scope) (tag : Xml.Tag) : Check Bool :=
  match tag.attribute? (instanceName "nil") with
  | none => return false
  | some text => do
    let spot := Spot.ofTag tag
    match (SimpleType.builtin .boolean).judge scope true text with
    | .refused complaints =>
      noteAll (complaints.map fun c => ⟨spot.at (instanceName "nil"), .refusedValue c⟩)
      return false
    | .accepted values =>
      if !rule.isNillable then
        note spot .notNillable
        return false
      else if values != [.truth true] then return false
      else if (rule.constraint.map (·.isFixed)).getD false then
        note spot .nilledThoughFixed
        return false
      else return true

def openDeclared (schema : Schema) (scope : Xml.Scope) (rule : ElementRule) (tag : Xml.Tag) :
    Check (Option Opening) := do
  if rule.isAbstract then
    note (.ofTag tag) .abstractElement
    return none
  else
    let isNilled ← nilled rule scope tag
    let type ←
      match ← ownType schema scope tag with
      | some (some (name, type)) =>
        if schema.allowsType rule type then pure type
        else do
          note ((Spot.ofTag tag).at (instanceName "type")) (.unsuitableType name.toText)
          pure rule.type
      | _ => pure rule.type
    return some { rule := some rule, type, isNilled }

def openUndeclared (schema : Schema) (scope : Xml.Scope) (approach : Approach) (tag : Xml.Tag) :
    Check (Option Opening) := do
  match ← ownType schema scope tag, approach with
  | none, _ => return some { rule := none, type := .anyType }
  | some (some (_, type)), _ => return some { rule := none, type }
  | some none, .anywhere => return none
  | some none, _ => throw (.untypedElement tag.name)

def openBy (schema : Schema) (scope : Xml.Scope) (approach : Approach) (tag : Xml.Tag) :
    Check (Option Opening) :=
  match approach, element? schema tag.name with
  | .declared rule, _ => openDeclared schema scope rule tag
  | .wild .skip, _ => return none
  | _, some rule => openDeclared schema scope rule tag
  | .wild .strict, none => do
    note (.ofTag tag) .undeclaredElement
    return none
  | approach, none => openUndeclared schema scope approach tag

def isAbstractType (schema : Schema) : TypeUse → Bool
  | .complex i => (schema.complexTypes[i]?.map ComplexType.isAbstract).getD false
  | _ => false

def openElement (schema : Schema) (scope : Xml.Scope) (approach : Approach) (tag : Xml.Tag) :
    Check (Option (Opening × CheckedAttributes)) := do
  match ← openBy schema scope approach tag with
  | none => return none
  | some opening =>
    if isAbstractType schema opening.type then
      note (.ofTag tag) .abstractType
      return none
    else
      let attributes := schema.checkAttributes opening.type scope tag
      noteAll attributes.violations
      return some (opening, attributes)

structure Inside where
  run : ContentRun := {}
  isBroken : Bool := false
  text : Text := []
  hasElements : Bool := false
  rows : Rows := []

def takeText (schema : Schema) (opening : Opening) (spot : Spot) (piece : Text) (inside : Inside) :
    Check Inside := do
  if inside.isBroken then return inside
  else if opening.isNilled then
    note spot .contentThoughNilled
    return inside
  else
    match schema.contentOf opening.type with
    | .empty =>
      note spot .textInEmpty
      return inside
    | .elements _ false =>
      if !piece.all WhiteSpace.isSpace then note spot .textAmongElements
      return inside
    | _ => return { inside with text := inside.text ++ piece }

def childApproach (schema : Schema) (opening : Opening) (spot : Spot) (tag : Xml.Tag)
    (inside : Inside) : Check (Option Approach × Inside) := do
  let broken := { inside with isBroken := true, hasElements := true }
  let admitted := { inside with hasElements := true }
  if inside.isBroken then return (none, broken)
  else if opening.isNilled then
    note spot .contentThoughNilled
    return (none, broken)
  else
    match schema.contentOf opening.type, opening.type with
    | .anything, _ => return (some .anywhere, admitted)
    | .empty, _ =>
      note spot .elementInEmpty
      return (none, broken)
    | .simple _, .simple _ =>
      note spot .elementInSimpleType
      return (none, broken)
    | .simple _, _ =>
      note spot .elementInSimpleContent
      return (none, broken)
    | .elements model _, _ =>
      match ContentRun.push model inside.run tag.name with
      | .error expected =>
        note (.ofTag tag) (.unexpected expected)
        return (none, broken)
      | .ok (.wild processing, run) => return (some (.wild processing), { admitted with run })
      | .ok (.declared i, run) =>
        match schema.elements[i]? with
        | some rule => return (some (.declared rule), { admitted with run })
        | none => return (none, { admitted with run })

def closeContent (schema : Schema) (opening : Opening) (spot : Spot) (inside : Inside) :
    Check Unit :=
  match schema.contentOf opening.type with
  | .elements model _ =>
    if inside.isBroken || ContentRun.canEnd model inside.run ||
      (opening.isNilled && model.automaton.isPlain) then return
    else note spot (.missingChildren (ContentRun.expected model inside.run))
  | _ => return

def fixedFault? (value? : Option (SimpleType × TypedValue)) (constraint : ValueConstraint)
    (scope : Xml.Scope) (inside : Inside) : Option ViolationCause :=
  if !constraint.isFixed then none
  else if inside.hasElements then some .elementsThoughFixed
  else
    match value? with
    | some (type, value) =>
      match constraint.typed? type scope with
      | some other =>
        if value.same other then none else some (.valueNotFixed inside.text constraint.value)
      | none => none
    | none =>
      if inside.text = constraint.value then none
      else some (.textNotFixed inside.text constraint.value)

def closeText (type : SimpleType) (scope : Xml.Scope) (spot : Spot) (text : Text) :
    Check FieldValue :=
  match typedValue type scope false text with
  | .ok value => return .known value
  | .error complaints => do
    noteAll (complaints.map fun c => ⟨spot, .refusedValue c⟩)
    return .refused

def closeValue (schema : Schema) (opening : Opening) (scope : Xml.Scope) (spot : Spot)
    (inside : Inside) : Check FieldValue := do
  let constraint? := opening.rule.bind fun rule => rule.constraint.map fun c => (c, rule.scope)
  let isEmpty := inside.text.isEmpty && !inside.hasElements
  if opening.isNilled then return .refused
  else
    match schema.contentOf opening.type, constraint? with
    | .simple type, none => closeText type scope spot inside.text
    | .simple type, some (constraint, outer) =>
      if isEmpty then closeText type outer spot constraint.value
      else
        match ← closeText type scope spot inside.text with
        | .known value =>
          match fixedFault? (some (type, value)) constraint outer inside with
          | some cause => note spot cause
          | none => pure ()
          return .known value
        | other => return other
    | .empty, _ => return .compound
    | .elements _ false, _ => return .compound
    | _, some (constraint, outer) =>
      if !isEmpty && !inside.isBroken then
        match fixedFault? none constraint outer inside with
        | some cause => note spot cause
        | none => pure ()
      return .compound
    | _, none => return .compound

/-- The rules at work inside an element: its own come first, the last of them in front. -/
def watchesInside (opening : Opening) (name : Xml.QName) (outer : List Watch) :
    Check (List Watch × List Watch) := do
  let start := (← get).serial
  let numbers := (opening.rule.map (·.keys)).getD []
  modify fun s => { s with serial := start + numbers.length }
  let own := (numbers.zipIdx start).map fun n => { serial := n.2, number := n.1 : Watch }
  return (own, own.reverse ++ outer.map fun w => { w with row := w.row ++ [name] })

def closeSelected (schema : Schema) (spot : Spot) (rows : Rows) : List Watch → Check Unit
  | [] => return
  | watch :: watches => do
    match schema.keys[watch.number]? with
    | some rule =>
      if rule.selector.any fun path => path.leadsTo watch.row then
        let before := (← get).found.filterMap fun f =>
          if f.1 = watch.serial then some f.2 else none
        let (key, faults) := rule.check spot rows before
        noteAll faults
        match key with
        | some entry => modify fun s => { s with found := s.found ++ [(watch.serial, entry)] }
        | none => pure ()
    | none => pure ()
    closeSelected schema spot rows watches

/-- Ends the rules of an element: their keys become visible above it, and references without key are
noted. `outer` are the keys that were visible before the element. -/
def closeRules (schema : Schema) (own : List Watch) (outer : List (Nat × List KeyEntry)) :
    Check Unit := do
  let s ← get
  let entries (watch : Watch) : List KeyEntry :=
    s.found.filterMap fun f => if f.1 = watch.serial then some f.2 else none
  let inner := s.tables ++ own.map fun watch => (watch.number, entries watch)
  let faults := own.flatMap fun watch =>
    match schema.keys[watch.number]? with
    | some rule =>
      match rule.target with
      | some target =>
        rule.dangling (entries watch)
          (inner.flatMap fun table => if table.1 = target then table.2 else [])
      | none => []
    | none => []
  noteAll faults
  modify fun s => { s with
    found := s.found.filter fun f => !own.any fun watch => watch.serial = f.1
    tables := outer ++ inner }

/-- Goes through an element. `walk` goes through its content; the result are the rows below it, as
they are seen from above, if there are rules at work that may look for them. -/
def checkElement (schema : Schema) (outer : Xml.Scope) (watches : List Watch) (approach : Approach)
    (tag : Xml.Tag) (walk : Xml.Scope → List Watch → Opening → Inside → Check Inside) :
    Check Rows := do
  let scope := tag.scope outer
  let spot := Spot.ofTag tag
  match ← openElement schema scope approach tag with
  | none => return []
  | some (opening, attributes) =>
    let tables := (← get).tables
    let (own, inner) ← watchesInside opening tag.name watches
    modify fun s => { s with tables := [] }
    let inside ← walk scope inner opening {}
    closeContent schema opening spot inside
    let value ← closeValue schema opening scope spot inside
    let here : CheckedElement := { spot, attributes := attributes.values, value }
    let rows : Rows := if inner.isEmpty then [] else ([], here) :: inside.rows
    closeSelected schema spot rows inner
    closeRules schema own tables
    return if watches.isEmpty then [] else rows.below tag.name

def checkContent (schema : Schema) (scope : Xml.Scope) (watches : List Watch) (opening : Opening)
    (spot : Spot) : List Xml.Node → Inside → Check Inside
  | [], inside => return inside
  | .text piece :: rest, inside => do
    let inside ← takeText schema opening spot piece inside
    checkContent schema scope watches opening spot rest inside
  | .characterData piece :: rest, inside => do
    let inside ← takeText schema opening spot piece inside
    checkContent schema scope watches opening spot rest inside
  | .reference name :: _, _ => throw (.entityReference name)
  | .comment :: rest, inside => checkContent schema scope watches opening spot rest inside
  | .instruction :: rest, inside => checkContent schema scope watches opening spot rest inside
  | .element tag children :: rest, inside => do
    let (approach?, inside) ← childApproach schema opening spot tag inside
    match approach? with
    | none => checkContent schema scope watches opening spot rest inside
    | some approach =>
      let rows ← checkElement schema scope watches approach tag
        fun scope watches opening inside =>
          checkContent schema scope watches opening (.ofTag tag) children inside
      let inside := { inside with rows := inside.rows ++ rows }
      checkContent schema scope watches opening spot rest inside

end XmlCheck.Schema

namespace XmlCheck

open Schema

def Schema.checkRoot (schema : Schema) (root : Xml.Element) : Check Unit :=
  match element? schema root.tag.name with
  | none => note (.ofTag root.tag) .noRootDeclaration
  | some rule => do
    let _ ← checkElement schema [] [] (.declared rule) root.tag
      fun scope watches opening inside =>
        checkContent schema scope watches opening (.ofTag root.tag) root.children inside

def Schema.violations (schema : Schema) (document : Xml.Document) :
    Except CheckFailure (List Violation) :=
  ((schema.checkRoot document.root).run {}).map fun result => result.2.violations.toList

end XmlCheck
