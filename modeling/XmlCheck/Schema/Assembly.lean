import XmlCheck.Schema.Basic
import XmlCheck.Schema.Reader

/-!
From components to a schema. The references are followed first, in the order in which they were
made; then simple types, attributes, complex types and elements are put together, and last the
content models are checked. The first fault ends it.
-/

namespace XmlCheck.Schema

abbrev Checked := Except SchemaFault

namespace Components

/-- The type that a name stands for among the declared and the built-in ones. -/
def mention? (c : Components) (q : Xml.QName) : Option TypeMention :=
  if (builtinType? q).isSome then some (.named q) else c.typeNames.lookup q

def isSimpleName (c : Components) (q : Xml.QName) : Bool :=
  match builtinType? q with
  | some (.simple _) => true
  | some _ => false
  | none =>
    match c.typeNames.lookup q with
    | some (.simpleAt _) => true
    | _ => false

/-- How a simple type is spoken of before its base is known. -/
def simpleSubject (t : SimpleDeclaration) (key : Text) : Subject :=
  let variety : Text :=
    match t.body with
    | .restriction _ _ => "simple"
    | .list _ => "list"
    | .union _ => "union"
  .simpleType (t.name.map (·.localName)) variety (some key)

def nodeSubject (name key : String) : Subject :=
  .nodeAttribute ⟨some schemaSpace, name.toList⟩ key.toList

def demand (holds : Bool) (subject : Subject) (q : Xml.QName) (kind : ComponentKind) (line : Nat) :
    Checked Unit :=
  if holds then .ok () else .error ⟨subject, .unresolved q kind, some line⟩

def demandSimple (c : Components) (mention : TypeMention) (subject : Subject) (line : Nat) :
    Checked Unit :=
  match mention with
  | .named q => demand (c.isSimpleName q) subject q .simpleType line
  | _ => .ok ()

def followElement (c : Components) (e : ElementDeclaration) : Checked Unit := do
  let subject (key : Text) : Subject := .elementDeclaration e.name.toText (some key)
  match e.type with
  | .named q => demand (c.mention? q).isSome (subject "type") q .type e.line
  | _ => pure ()
  match e.substitutes with
  | some q =>
    let known := c.elementNames.any fun n => n.1 = q
    demand known (subject "substitutionGroup") q .element e.line
  | none => pure ()

def followSimple (c : Components) (t : SimpleDeclaration) : Checked Unit :=
  match t.body with
  | .restriction base _ => c.demandSimple base (simpleSubject t "base") t.line
  | .list item => c.demandSimple item (simpleSubject t "itemType") t.line
  | .union members =>
    members.forM fun m => c.demandSimple m (simpleSubject t "memberTypes") t.line

def followParticle (c : Components) : ParticleDeclaration → Checked Unit
  | .elementNamed _ q line =>
    demand (c.elementNames.any fun n => n.1 = q) (nodeSubject "element" "ref") q .element line
  | .groupNamed _ q line =>
    demand (c.groupNames.any fun n => n.1 = q) (nodeSubject "group" "ref") q .group line
  | _ => .ok ()

def followComplex (c : Components) (t : ComplexDeclaration) : Checked Unit := do
  let base? : Option Xml.QName :=
    match t.body with
    | .plain => none
    | .simple _ base _ _ => some base
    | .complex _ base => some base
  match base? with
  | some q =>
    demand (c.mention? q).isSome (.complexType (t.name.map (·.localName)) (some "base")) q
      .simpleType t.line
  | none => pure ()
  match t.particle with
  | some p => c.followParticle p
  | none => pure ()

def follow (c : Components) (p : Pending) : Checked Unit :=
  match p with
  | .element i => (c.elements[i]?.map c.followElement).getD (.ok ())
  | .declaredAttribute i =>
    match c.attributes[i]? with
    | some a =>
      c.demandSimple a.type (.attributeDeclaration a.name.toText (some "type")) a.line
    | none => .ok ()
  | .usedAttribute q line =>
    demand (c.attributeNames.any fun n => n.1 = q) (.attributeUse "(unknown)" (some "ref")) q
      .attributeDeclaration line
  | .attributeGroup q line =>
    demand (c.attributeGroupNames.any fun n => n.1 = q) (nodeSubject "attributeGroup" "ref") q
      .attributeGroup line
  | .simpleType i => (c.simpleTypes[i]?.map c.followSimple).getD (.ok ())
  | .complexType i => (c.complexTypes[i]?.map c.followComplex).getD (.ok ())
  | .particles ps => ps.forM c.followParticle
  | .key i =>
    match c.keys[i]? with
    | some k =>
      match k.kind with
      | .reference q =>
        demand (c.keys.any fun other => other.name = q && other.kind.isTarget)
          (.keyReference k.name.localName (some "refer")) q .key k.line
      | _ => .ok ()
    | none => .ok ()

def facet (base : SimpleType) (f : FacetDeclaration) : Checked Facet :=
  let subject : Subject := .node ⟨some schemaSpace, f.kind.toText⟩
  let refuse (cause : FaultCause) : Checked Facet := .error ⟨subject, cause, some f.line⟩
  let count (least : Int) (expected : Text) (rule : Nat → FacetRule) : Checked Facet :=
    match Literal.whole? { least := some least, most := none } f.value with
    | some d => .ok ⟨rule d.coefficient.toNat, f.value⟩
    | none => refuse (.badFacet f.value f.kind expected)
  let values (rule : List Value → FacetRule) : Checked Facet :=
    match base.judge f.scope true f.value with
    | .accepted values => .ok ⟨rule values, f.value⟩
    | .refused complaints => refuse (.refusedFacet (complaints.headD []))
  let bound (rule : Value → FacetRule) : Checked Facet :=
    values fun vs => rule (vs.headD (.text []))
  match f.kind with
  | .length => count 0 "nonNegativeInteger" .length
  | .minLength => count 0 "nonNegativeInteger" .minLength
  | .maxLength => count 0 "nonNegativeInteger" .maxLength
  | .totalDigits => count 1 "positiveInteger" .totalDigits
  | .fractionDigits => count 0 "nonNegativeInteger" .fractionDigits
  | .minInclusive => bound .minInclusive
  | .minExclusive => bound .minExclusive
  | .maxInclusive => bound .maxInclusive
  | .maxExclusive => bound .maxExclusive
  | .enumeration => values .enumeration
  | .pattern =>
    match Pattern.ofText? f.value with
    | some p => .ok ⟨.pattern p, f.value⟩
    | none => refuse (.badPattern f.value)
  | .whiteSpace =>
    match WhiteSpace.ofText? f.value with
    | some w => .ok ⟨.whiteSpace w, f.value⟩
    | none => refuse (.badWhiteSpace f.value)

def circularFault (subject : Subject) (line : Nat) : SchemaFault :=
  ⟨subject, .circular "definition", some line⟩

def simpleOf (c : Components) (typeAt : Nat → Checked SimpleType) (mention : TypeMention) :
    Checked SimpleType :=
  match mention with
  | .absent => .ok (.builtin .anySimpleType)
  | .simpleAt i => typeAt i
  | .complexAt _ => .ok (.builtin .anySimpleType)
  | .named q =>
    match builtinType? q with
    | some (.simple t) => .ok t
    | _ =>
      match c.typeNames.lookup q with
      | some (.simpleAt i) => typeAt i
      | _ => .ok (.builtin .anySimpleType)

/-- The simple type with a number. The bound is met only by types that go back to themselves. -/
def simpleAt (c : Components) : (bound : Nat) → (index : Nat) → Checked SimpleType
  | 0, i =>
    match c.simpleTypes[i]? with
    | some t =>
      .error (circularFault (.simpleType (t.name.map (·.localName)) "simple" none) t.line)
    | none => .ok (.builtin .anySimpleType)
  | bound + 1, i =>
    match c.simpleTypes[i]? with
    | none => .ok (.builtin .anySimpleType)
    | some t =>
      match t.body with
      | .restriction base facets => do
        let base ← c.simpleOf (simpleAt c bound) base
        return .restriction t.name base (← facets.mapM (facet base))
      | .list item => do return .list t.name (← c.simpleOf (simpleAt c bound) item)
      | .union members => do
        return .union t.name (← members.mapM (c.simpleOf (simpleAt c bound)))

end Components

structure Assembly where
  components : Components
  simpleTypes : Array SimpleType

namespace Assembly

def simpleOf (a : Assembly) (mention : TypeMention) : SimpleType :=
  match a.components.simpleOf
    (fun i => .ok (a.simpleTypes[i]?.getD (.builtin .anySimpleType))) mention with
  | .ok t => t
  | .error _ => .builtin .anySimpleType

def checkConstraint (type : SimpleType) (constraint : Option ValueConstraint) (scope : Xml.Scope)
    (name : String) (line : Nat) : Checked Unit :=
  match constraint with
  | none => .ok ()
  | some v =>
    match type.judge scope true v.value with
    | .accepted _ => .ok ()
    | .refused complaints =>
      let subject : Subject := .node ⟨some schemaSpace, name.toList⟩
      .error ⟨subject, .invalidDefault (complaints.headD []), some line⟩

def attributeRule (a : Assembly) (d : AttributeDeclaration) : AttributeRule :=
  { name := d.name, type := a.simpleOf d.type, constraint := d.constraint, scope := d.scope }

def useRule? (a : Assembly) (u : AttributeUse) : Option AttributeRule :=
  let declared? :=
    match u.mention with
    | .localAt i => a.components.attributes[i]?
    | .named q => (a.components.attributeNames.lookup q).bind fun i => a.components.attributes[i]?
  declared?.map fun d =>
    let rule := a.attributeRule d
    { rule with isRequired := u.isRequired, constraint := u.constraint.or rule.constraint }

def commonLabels (first second : List Label) : List Label :=
  if first.contains .anySpace then second
  else if second.contains .anySpace then first
  else first.filter second.contains

def expand (a : Assembly) : (bound : Nat) → AttributeList →
    List AttributeUse × Option AttributeWildcard
  | 0, list => ([], list.wildcard)
  | bound + 1, list =>
    list.items.foldl
      (fun (acc : List AttributeUse × Option AttributeWildcard) item =>
        match item with
        | .use u => (acc.1 ++ [u], acc.2)
        | .group q _ =>
          match a.components.attributeGroupNames.lookup q with
          | none => acc
          | some inner =>
            let (uses, wildcard) := expand a bound inner
            let both :=
              match acc.2, wildcard with
              | some x, some y => some { x with labels := commonLabels x.labels y.labels }
              | some x, none => some x
              | none, y => y
            (acc.1 ++ uses, both))
      ([], list.wildcard)

def lastTwice? : List Xml.QName → Option Xml.QName
  | [] => none
  | q :: qs => (lastTwice? qs).or (if qs.contains q then some q else none)

/-- What is known of a complex type while its heirs are put together. -/
structure Draft where
  uses : List AttributeRule
  wildcard : Option AttributeWildcard
  isMixed : Bool
  particle : Option ParticleDeclaration
  value : Option SimpleType

def isVoid : ParticleDeclaration → Bool
  | .group o order _ [] => order != .choice || o.least = 0
  | _ => false

def opened (c : Components) (p : ParticleDeclaration) : ParticleDeclaration :=
  match p with
  | .groupNamed o q line =>
    match c.groupNames.lookup q with
    | some (some (.group _ order _ ps)) => .group o order line ps
    | _ => .group o .sequence line []
  | p => p

def openDraft : Draft :=
  { uses := [], wildcard := some ⟨[.anySpace, .noSpace], .lax⟩, isMixed := true
    particle := some (.group {} .sequence 0
      [.wildcard ⟨0, none⟩ [.anySpace, .noSpace] .lax])
    value := none }

def simpleDraft (t : SimpleType) : Draft :=
  { uses := [], wildcard := none, isMixed := false, particle := none, value := some t }

/-- The uses of a type, with those that it inherits behind its own. -/
def inherited (isExtension : Bool) (own : List AttributeRule) (prohibited : List Xml.QName)
    (base : List AttributeRule) : List AttributeRule :=
  if isExtension then own ++ base
  else
    own ++ base.filter fun u =>
      !prohibited.contains u.name && !own.any fun o => o.name = u.name

def elementsDraft (c : Components) (t : ComplexDeclaration) (isExtension : Bool) (base : Draft)
    (uses : List AttributeRule) (wildcard : Option AttributeWildcard) : Draft :=
  let own := (t.particle.map (opened c)).filter fun p => !isVoid p
  let filled :=
    match own with
    | some p => some p
    | none => if t.isMixed then some (.group {} .sequence t.line []) else none
  if !isExtension then { uses, wildcard, isMixed := t.isMixed, particle := filled, value := none }
  else
    match filled, base.particle with
    | none, _ => { base with uses, wildcard }
    | some p, none => { uses, wildcard, isMixed := t.isMixed, particle := some p, value := none }
    | some p, some q =>
      let parts := if isVoid p then [q] else [q, p]
      let both : ParticleDeclaration := .group {} .sequence t.line parts
      { uses, wildcard, isMixed := t.isMixed, particle := some both, value := none }

/-- The draft of a complex type; the bound is met only by types that go back to themselves. -/
def draft (a : Assembly) : (bound : Nat) → ComplexDeclaration → Checked Draft
  | 0, t => .error (Components.circularFault (.complexType (t.name.map (·.localName)) none) t.line)
  | bound + 1, t => do
    let c := a.components
    let subject : Subject := .complexType (t.name.map (·.localName)) none
    let baseDraft (q : Xml.QName) : Checked Draft :=
      match c.mention? q with
      | some (.complexAt i) =>
        match c.complexTypes[i]? with
        | some base => draft a bound base
        | none => .ok openDraft
      | some (.simpleAt i) => .ok (simpleDraft (a.simpleOf (.simpleAt i)))
      | _ =>
        match builtinType? q with
        | some (.simple s) => .ok (simpleDraft s)
        | _ => .ok openDraft
    let (allUses, wildcard) := a.expand (c.attributeGroupNames.length + 1) t.attributes
    let own := (allUses.filter fun u => !u.isProhibited).filterMap a.useRule?
    let prohibited := ((allUses.filter (·.isProhibited)).filterMap a.useRule?).map (·.name)
    let derived (isExtension : Bool) (base : Draft) :
        List AttributeRule × Option AttributeWildcard :=
      let wildcard :=
        if !isExtension then wildcard
        else
          match wildcard, base.wildcard with
          | some x, some y => some { x with labels := (x.labels ++ y.labels).eraseDups }
          | some x, none => some x
          | none, y => y
      (inherited isExtension own prohibited base.uses, wildcard)
    let result ←
      match t.body with
      | .plain => pure (elementsDraft c t false openDraft own wildcard)
      | .complex derivation q => do
        let base ← baseDraft q
        let (uses, wildcard) := derived (derivation = .extension) base
        pure (elementsDraft c t (derivation = .extension) base uses wildcard)
      | .simple derivation q inner facets => do
        let base ← baseDraft q
        let (uses, wildcard) := derived (derivation = .extension) base
        let start : SimpleType :=
          if inner = .absent then base.value.getD (.builtin .anySimpleType) else a.simpleOf inner
        let value ←
          if facets.isEmpty then pure start
          else do pure (.restriction none start (← facets.mapM (Components.facet start)))
        pure { uses, wildcard, isMixed := false, particle := none, value := some value }
    match lastTwice? (result.uses.map (·.name)) with
    | some q => .error ⟨subject, .useTwice q.toText, some t.line⟩
    | none => .ok result

/-- The element that an element is substituted for, and what that one is substituted for, and so
on. -/
def heads (c : Components) : (bound : Nat) → ElementDeclaration → List Nat
  | 0, _ => []
  | bound + 1, e =>
    match e.substitutes.bind fun q => c.elementNames.lookup q with
    | none => []
    | some i => i :: ((c.elements[i]?.map (heads c bound)).getD [])

def useOf (e : ElementDeclaration) (index : Nat) : ElementUse :=
  ⟨e.name, index, e.isAbstract⟩

/-- The elements that may stand for an element, in the order of their declarations. -/
def members (c : Components) (index : Nat) : List ElementUse :=
  c.elementNames.filterMap fun n =>
    match c.elements[n.2]? with
    | some e => if (heads c c.elements.size e).contains index then some (useOf e n.2) else none
    | none => none

def elementParticle (c : Components) (o : Occurrence) (index : Nat) : Particle :=
  match c.elements[index]? with
  | none => .group o .choice []
  | some e =>
    let all := if e.isGlobal then members c index else []
    .element o (useOf e index) (!all.isEmpty) (if e.blocksSubstitution then [] else all)

mutual

def particle (c : Components) (bound : Nat) : ParticleDeclaration → Particle
  | .element o i => elementParticle c o i
  | .elementNamed o q _ =>
    match c.elementNames.lookup q with
    | some i => elementParticle c o i
    | none => .group o .choice []
  | .wildcard o labels processing => .wildcard o labels processing
  | .group o order _ ps => .group o order (particles c bound ps)
  | .groupNamed o q _ =>
    match bound with
    | 0 => .group o .sequence []
    | bound + 1 =>
      match c.groupNames.lookup q with
      | some (some (.group _ order _ ps)) => .group o order (particles c bound ps)
      | _ => .group o .sequence []
  termination_by p => (bound, sizeOf p)

def particles (c : Components) (bound : Nat) : List ParticleDeclaration → List Particle
  | [] => []
  | p :: ps => particle c bound p :: particles c bound ps
  termination_by ps => (bound, sizeOf ps)

end

def typeOf (a : Assembly) (mention : TypeMention) : TypeUse :=
  match mention with
  | .absent => .anyType
  | .simpleAt _ => .simple (a.simpleOf mention)
  | .complexAt i => .complex i
  | .named q =>
    match builtinType? q with
    | some t => t
    | none =>
      match a.components.typeNames.lookup q with
      | some (.complexAt i) => .complex i
      | some inner => .simple (a.simpleOf inner)
      | none => .anyType

/-- The type of an element: its own, or that of the element it is substituted for. -/
def elementType (a : Assembly) : (bound : Nat) → ElementDeclaration → TypeUse
  | 0, _ => .anyType
  | bound + 1, e =>
    match e.type, e.substitutes with
    | .absent, some q =>
      match (a.components.elementNames.lookup q).bind fun i => a.components.elements[i]? with
      | some head => elementType a bound head
      | none => .anyType
    | mention, _ => a.typeOf mention

def content (c : Components) (d : Draft) : Content :=
  match d.value, d.particle with
  | some t, _ => .simple t
  | none, none => .empty
  | none, some p =>
    .elements (.ofParticle (particle c (c.groupNames.length + 1) p)) d.isMixed

def baseOf (a : Assembly) (t : ComplexDeclaration) : TypeUse × Derivation :=
  match t.body with
  | .plain => (.anyType, .restriction)
  | .simple derivation q _ _ => (a.typeOf (.named q), derivation)
  | .complex derivation q => (a.typeOf (.named q), derivation)

def complexType (a : Assembly) (t : ComplexDeclaration) (d : Draft) : ComplexType :=
  let (base, derivation) := a.baseOf t
  { name := t.name, isAbstract := t.isAbstract, content := content a.components d
    attributes := d.uses, wildcard := d.wildcard, base, derivation, blocked := t.blocked }

/-- Refuses a content model in which a child may be read in two ways. -/
def checkModel (t : ComplexDeclaration) (type : ComplexType) : Checked Unit :=
  match type.content with
  | .elements model _ =>
    if model.isDeterminist then .ok ()
    else .error ⟨.complexType (t.name.map (·.localName)) none, .notDeterminist, some t.line⟩
  | _ => .ok ()

def keyRule (c : Components) (k : ConstraintDeclaration) : KeyRule :=
  let target :=
    match k.kind with
    | .reference q =>
      c.keys.findIdx? fun other => other.name = q && other.kind.isTarget
    | _ => none
  { kind := k.kind, name := k.name, selector := KeyPath.allOfText k.scope k.selector
    fields := k.fields.map fun text => ⟨text, KeyPath.allOfText k.scope text⟩, target }

def valueType? (types : Array ComplexType) : TypeUse → Option SimpleType
  | .simple t => some t
  | .complex i =>
    match types[i]?.map ComplexType.content with
    | some (.simple t) => some t
    | _ => none
  | .anyType => none

def elementRule (a : Assembly) (e : ElementDeclaration) : ElementRule :=
  { name := e.name, isAbstract := e.isAbstract, isNillable := e.isNillable
    type := a.elementType (a.components.elements.size + 1) e, constraint := e.constraint
    keys := e.keys, blocked := e.blocked, scope := e.scope }

def schema (a : Assembly) : Checked Schema := do
  let c := a.components
  c.attributes.forM fun d =>
    checkConstraint (a.simpleOf d.type) d.constraint d.scope "attribute" d.line
  let drafts ← c.complexTypes.mapM (a.draft (c.complexTypes.size + 1))
  let types := (c.complexTypes.zip drafts).map fun pair => a.complexType pair.1 pair.2
  let elements := c.elements.map a.elementRule
  (c.elements.zip elements).forM fun pair =>
    match valueType? types pair.2.type with
    | some t => checkConstraint t pair.2.constraint pair.1.scope "element" pair.1.line
    | none => .ok ()
  (c.complexTypes.zip types).forM fun pair => checkModel pair.1 pair.2
  return {
    elements
    complexTypes := types
    elementNames := c.elementNames
    attributeNames := c.attributeNames.filterMap fun n =>
      c.attributes[n.2]?.map fun d => (n.1, a.attributeRule d)
    typeNames := c.typeNames.map fun n => (n.1, a.typeOf n.2)
    keys := c.keys.map (keyRule c) }

end Assembly

def Components.assemble (c : Components) : Checked Schema := do
  match c.doubled with
  | some fault => throw fault
  | none => pure ()
  c.pending.forM c.follow
  let simpleTypes ← (Array.range c.simpleTypes.size).mapM (c.simpleAt (c.simpleTypes.size + 1))
  Assembly.schema ⟨c, simpleTypes⟩

end XmlCheck.Schema
