import XmlCheck.Schema.Reading
import XmlCheck.Xml.Parse

/-!
The reading of schema documents: each element of the schema language becomes a component, in the
order of the document. Documents that are included or imported are read where they are asked for.
-/

namespace XmlCheck.Schema

namespace SchemaNode

open Read

def schemaContent : String :=
  "((include | import | redefine | annotation)*, (((simpleType | complexType | group | " ++
    "attributeGroup) | element | attribute | notation), annotation*)*)"

def complexContent : String :=
  "(annotation?, (simpleContent | complexContent | ((group | all | choice | sequence)?, " ++
    "((attribute | attributeGroup)*, anyAttribute?))))"

def elementContent : String :=
  "(annotation?, ((simpleType | complexType)?, (unique | key | keyref)*))"

def restrictionContent : String :=
  "annotation?, (simpleType?, (minExclusive | minInclusive | maxExclusive | maxInclusive | " ++
    "totalDigits | fractionDigits | length | minLength | maxLength | enumeration | whiteSpace | " ++
    "pattern)*))"

def extensionContent : String :=
  "(annotation?, ((group | all | choice | sequence)?, ((attribute | attributeGroup)*, " ++
    "anyAttribute?)))"

def attributesContent : String :=
  "(annotation?, ((attribute | attributeGroup)*, anyAttribute?))"

def facetNames : List String :=
  FacetKind.table.map (·.2)

def facet (ctx : ReadContext) (n : SchemaNode) : Read (Option FacetDeclaration) := do
  let value ← n.required ctx "value"
  n.noMore (← n.body) "(annotation?)"
  return (FacetKind.ofText? n.tag.name.localName).map fun kind => ⟨kind, value, n.scope, n.tag.line⟩

def facets (ctx : ReadContext) (parts : List SchemaPart) :
    Read (List FacetDeclaration × List SchemaPart) := do
  let (nodes, rest) := takeAll facetNames parts
  let read ← nodes.mapM (facet ctx)
  return (read.filterMap id, rest)

mutual

def simpleType (bound : Nat) (ctx : ReadContext) (isGlobal : Bool) (n : SchemaNode) : Read Nat :=
  match bound with
  | 0 => n.fault (.circular "simple type")
  | bound + 1 => do
    let name ←
      if isGlobal then do
        let name ← n.plainName ctx "name"
        pure (some (⟨ctx.space, name⟩ : Xml.QName))
      else pure none
    let index ← addSimpleType name n.tag.line
    n.allowOnly (if isGlobal then ["id", "name", "final"] else ["id"])
    let expected := "(annotation?, (restriction | list | union))"
    match ← n.body with
    | [] => n.fault (.badContent expected.toList)
    | part :: rest =>
      let body ←
        match part with
        | .stray => n.faultOn part (.badContent expected.toList)
        | .node m =>
          if m.isNamed "restriction" then simpleRestriction bound ctx m
          else if m.isNamed "list" then simpleList bound ctx m
          else if m.isNamed "union" then simpleUnion bound ctx m
          else n.faultOn part (.badContent expected.toList)
      n.noMore rest expected
      setSimpleBody index body
      return index

def simpleTypes (bound : Nat) (ctx : ReadContext) : List SchemaNode → Read (List TypeMention)
  | [] => return []
  | n :: rest =>
    match bound with
    | 0 => n.fault (.circular "simple type")
    | bound + 1 => do
      let index ← simpleType bound ctx false n
      let more ← simpleTypes bound ctx rest
      return .simpleAt index :: more

def simpleRestriction (bound : Nat) (ctx : ReadContext) (n : SchemaNode) : Read SimpleBody :=
  match bound with
  | 0 => n.fault (.circular "simple type")
  | bound + 1 => do
    n.allowOnly ["id", "base"]
    let base? ← n.mention? ctx "base"
    let parts ← n.body
    let (inner, rest) := take "simpleType" parts
    let base ←
      match base?, inner with
      | some _, some m =>
        n.faultOn (.node m)
          (.contentRule "The attribute 'base' and the <simpleType> child are mutually exclusive")
      | some name, none => pure (.named name)
      | none, some m => do pure (.simpleAt (← simpleType bound ctx false m))
      | none, none =>
        let rule : FaultCause :=
          .contentRule "Either the attribute 'base' or a <simpleType> child must be present"
        match parts with
        | part :: _ => n.faultOn part rule
        | [] => n.fault rule
    let (facets, rest) ← facets ctx rest
    n.noMore rest restrictionContent
    return .restriction base facets

def simpleList (bound : Nat) (ctx : ReadContext) (n : SchemaNode) : Read SimpleBody :=
  match bound with
  | 0 => n.fault (.circular "simple type")
  | bound + 1 => do
    n.allowOnly ["id", "itemType"]
    let item? ← n.mention? ctx "itemType"
    let (inner, rest) := take "simpleType" (← n.body)
    let item ←
      match item?, inner with
      | some _, some m =>
        n.faultOn (.node m) (.contentRule
          "The attribute 'itemType' and the <simpleType> child are mutually exclusive")
      | some name, none => pure (.named name)
      | none, some m => do pure (.simpleAt (← simpleType bound ctx false m))
      | none, none =>
        n.fault (.contentRule
          "Either the attribute 'itemType' or the <simpleType> child must be present")
    n.noMore rest "(annotation?, simpleType?)"
    return .list item

def simpleUnion (bound : Nat) (ctx : ReadContext) (n : SchemaNode) : Read SimpleBody :=
  match bound with
  | 0 => n.fault (.circular "simple type")
  | bound + 1 => do
    n.allowOnly ["id", "memberTypes"]
    let words := ((n.value? ctx "memberTypes").map WhiteSpace.words).getD []
    let named ← words.mapM fun w => do
      let name ← n.nameOf ctx "memberTypes" w
      pure (TypeMention.named name)
    let (inner, rest) := takeAll ["simpleType"] (← n.body)
    if words.isEmpty && inner.isEmpty then
      n.fault (.contentRule
        ("Either the attribute 'memberTypes' or at least one <simpleType> child must be " ++
          "present").toList)
    let members ← simpleTypes bound ctx inner
    n.noMore rest "(annotation?, simpleType*)"
    return .union (named ++ members)

end

def depthBound : Nat := 10000

def globalAttribute (ctx : ReadContext) (n : SchemaNode) : Read Unit := do
  let name ← n.plainName ctx "name"
  n.allowOnly ["id", "default", "fixed", "name", "type"]
  let q : Xml.QName := ⟨ctx.space, name⟩
  let type? ← n.mention? ctx "type"
  let constraint ← n.constraint ctx
  let index ← addAttribute
    ⟨q, (type?.map TypeMention.named).getD .absent, constraint, n.scope, n.tag.line⟩
  let (inner, rest) := take "simpleType" (← n.body)
  match inner with
  | none => pure ()
  | some m =>
    if type?.isSome then
      n.faultOn (.node m)
        (.contentRule "The attribute 'type' and the <simpleType> child are mutually exclusive")
    else setAttributeType index (.simpleAt (← simpleType depthBound ctx false m))
  n.noMore rest "(annotation?, simpleType?)"
  noteTwice ((← get).attributeNames.any fun e => e.1 = q) n .attributeDeclaration q.toText
  modify fun c => { c with attributeNames := c.attributeNames ++ [(q, index)] }

def usage (ctx : ReadContext) (n : SchemaNode) : Read (Bool × Bool) :=
  match n.value? ctx "use" with
  | none => return (false, false)
  | some value =>
    if value = ("optional" : Text) then return (false, false)
    else if value = ("required" : Text) then return (true, false)
    else if value = ("prohibited" : Text) then return (false, true)
    else n.faultAt "use" (.badValue value "(optional | prohibited | required)")

def localAttribute (ctx : ReadContext) (n : SchemaNode) : Read AttributeUse := do
  let ref? ← n.mention? ctx "ref"
  match ref? with
  | some q => do
    n.allowOnly ["id", "ref", "use", "default", "fixed"]
    let (isRequired, isProhibited) ← n.usage ctx
    let constraint ← n.constraint ctx
    n.noMore (← n.body) "(annotation?)"
    await (.usedAttribute q n.tag.line)
    return ⟨.named q, isRequired, isProhibited, constraint, n.tag.line⟩
  | none => do
    let name? ←
      if n.has "name" then do
        let name ← n.plainName ctx "name"
        pure (some name)
      else pure none
    let type? ← n.mention? ctx "type"
    let isQualified ← n.isQualified ctx "form" ctx.attributesQualified
    n.allowOnly ["id", "name", "type", "form", "use", "default", "fixed"]
    let (isRequired, isProhibited) ← n.usage ctx
    let constraint ← n.constraint ctx
    match name? with
    | none => n.fault (.missingAttribute "name")
    | some name => do
      let q : Xml.QName := ⟨if isQualified then ctx.space else none, name⟩
      let index ← addAttribute
        ⟨q, (type?.map TypeMention.named).getD .absent, none, n.scope, n.tag.line⟩
      let (inner, rest) := take "simpleType" (← n.body)
      match inner with
      | none => pure ()
      | some m =>
        if type?.isSome then
          n.faultOn (.node m)
            (.contentRule "The attribute 'type' and the <simpleType> child are mutually exclusive")
        else setAttributeType index (.simpleAt (← simpleType depthBound ctx false m))
      n.noMore rest "(annotation?, simpleType?)"
      return ⟨.localAt index, isRequired, isProhibited, constraint, n.tag.line⟩

def attributeItem (ctx : ReadContext) (n : SchemaNode) : Read AttributeItem :=
  if n.isNamed "attribute" then do return .use (← localAttribute ctx n)
  else do
    if !n.has "ref" then
      n.fault (.missingAttribute "ref")
    let q? ← n.mention? ctx "ref"
    n.allowOnly ["id", "ref"]
    n.noMore (← n.body) "(annotation?)"
    match q? with
    | some q => do
      await (.attributeGroup q n.tag.line)
      return .group q n.tag.line
    | none => n.fault (.missingAttribute "ref")

def wildcard (ctx : ReadContext) (n : SchemaNode) : Read AttributeWildcard := do
  let labels ← n.wildcardLabels ctx
  let processing ← n.processing ctx
  n.noMore (← n.body) "(annotation?)"
  return ⟨labels, processing⟩

def attributeList (ctx : ReadContext) (parts : List SchemaPart) :
    Read (AttributeList × List SchemaPart) := do
  let (nodes, rest) := takeAll ["attribute", "attributeGroup"] parts
  let items ← nodes.mapM (attributeItem ctx)
  let (any?, rest) := take "anyAttribute" rest
  match any? with
  | none => return (⟨items, none⟩, rest)
  | some m => do
    m.allowOnly ["id", "namespace", "processContents"]
    return (⟨items, some (← wildcard ctx m)⟩, rest)

def attributeGroup (ctx : ReadContext) (n : SchemaNode) : Read Unit := do
  let name ← n.plainName ctx "name"
  n.allowOnly ["id", "name"]
  let (attributes, rest) ← attributeList ctx (← n.body)
  n.noMore rest attributesContent
  let q : Xml.QName := ⟨ctx.space, name⟩
  noteTwice ((← get).attributeGroupNames.any fun e => e.1 = q) n .attributeGroup q.toText
  modify fun c => { c with attributeGroupNames := c.attributeGroupNames ++ [(q, attributes)] }

def keyPath (ctx : ReadContext) (n : SchemaNode) : Read Text := do
  n.allowOnly ["id", "xpath"]
  let path ← n.required ctx "xpath"
  n.noMore (← n.body) "(annotation?)"
  return path

def key (ctx : ReadContext) (n : SchemaNode) : Read Nat := do
  let isReference := n.isNamed "keyref"
  n.allowOnly (if isReference then ["id", "name", "refer"] else ["id", "name"])
  let name ← n.plainName ctx "name"
  let kind ←
    if n.isNamed "unique" then pure ConstraintKind.unique
    else if isReference then do
      match ← n.mention? ctx "refer" with
      | some q => pure (.reference q)
      | none => n.fault (.missingAttribute "refer")
    else pure .key
  let expected := "(annotation?, (selector, field+))"
  let (selector?, rest) := take "selector" (← n.body)
  match selector? with
  | none =>
    match rest with
    | part :: _ => n.faultOn part (.badContent expected.toList)
    | [] => n.fault (.badContent expected.toList)
  | some m => do
    let selector ← keyPath ctx m
    let (nodes, rest) := takeAll ["field"] rest
    if nodes.isEmpty then
      match rest with
      | part :: _ => n.faultOn part (.badContent expected.toList)
      | [] => n.fault (.badContent expected.toList)
    let fields ← nodes.mapM (keyPath ctx)
    n.noMore rest expected
    addKey ⟨kind, ⟨ctx.space, name⟩, selector, fields, n.scope, n.tag.line⟩

def anyParticle (ctx : ReadContext) (n : SchemaNode) : Read (Option ParticleDeclaration) := do
  n.allowOnly ["id", "minOccurs", "maxOccurs", "namespace", "processContents"]
  let o ← n.occurrence ctx
  let w ← wildcard ctx n
  if o.most = some 0 then return none
  else return some (.wildcard o w.labels w.processing)

def groupReference (ctx : ReadContext) (n : SchemaNode) : Read (Option ParticleDeclaration) := do
  if !n.has "ref" then
    n.fault (.missingAttribute "ref")
  let q? ← n.mention? ctx "ref"
  let o ← n.occurrence ctx
  n.allowOnly ["id", "ref", "minOccurs", "maxOccurs"]
  n.noMore (← n.body) "(annotation?)"
  match q? with
  | some q => if o.most = some 0 then return none else return some (.groupNamed o q n.tag.line)
  | none => return none

def elementReference (ctx : ReadContext) (n : SchemaNode) (parts : List SchemaPart)
    (o : Occurrence) : Read (Option ParticleDeclaration) := do
  let q? ← n.mention? ctx "ref"
  if n.has "name" then
    n.faultAt "name" (.exclusive "ref" "name")
  let extra? := n.tag.attributes.find? fun a =>
    a.name.space = none &&
      ["id", "ref", "name", "minOccurs", "maxOccurs"].all fun k => k.toList ≠ a.name.localName
  match extra? with
  | some a => throw ⟨.nodeAttribute n.tag.name a.name.localName, .referenceOnly, some n.tag.line⟩
  | none => pure ()
  n.noMore parts "(annotation?)"
  match q? with
  | some q => if o.most = some 0 then return none else return some (.elementNamed o q n.tag.line)
  | none => return none

def isMention : ParticleDeclaration → Bool
  | .elementNamed .. => true
  | .groupNamed .. => true
  | _ => false

def groupOrder? (n : SchemaNode) : Option GroupOrder :=
  if n.isNamed "sequence" then some .sequence
  else if n.isNamed "choice" then some .choice
  else if n.isNamed "all" then some .all
  else none

/-- Refuses an element that occurs more than once where the order is free. -/
def checkUnordered (n : SchemaNode) (o : Occurrence) : Read Unit := do
  if 1 < o.least then
    n.fault (.contentRule
      "Invalid value for the attribute 'minOccurs' (must be '0' or '1')")
  if (o.most.map fun m => decide (1 < m)).getD true then
    n.fault (.contentRule
      "Invalid value for the attribute 'maxOccurs' (must be '0' or '1')")

def derivationBase (ctx : ReadContext) (n : SchemaNode) : Read Xml.QName := do
  n.allowOnly ["id", "base"]
  match ← n.mention? ctx "base" with
  | some base => return base
  | none => n.fault (.missingAttribute "base")

def simpleContent (ctx : ReadContext) (index : Nat) (n : SchemaNode) : Read Unit := do
  n.allowOnly ["id"]
  let expected := "(annotation?, (restriction | extension))"
  match ← n.body with
  | [] => n.fault (.badContent expected.toList)
  | .stray :: _ => n.faultOn .stray (.badContent expected.toList)
  | .node m :: rest => do
    if m.isNamed "extension" then do
      let base ← derivationBase ctx m
      let (attributes, rest) ← attributeList ctx (← m.body)
      m.noMore rest attributesContent
      changeComplexType index fun t =>
        { t with body := .simple .extension base .absent [], attributes }
    else if m.isNamed "restriction" then do
      let base ← derivationBase ctx m
      let (inner, rest) := take "simpleType" (← m.body)
      let type ←
        match inner with
        | none => pure TypeMention.absent
        | some s => do pure (.simpleAt (← simpleType depthBound ctx false s))
      let (facets, rest) ← facets ctx rest
      let (attributes, rest) ← attributeList ctx rest
      m.noMore rest restrictionContent
      changeComplexType index fun t =>
        { t with body := .simple .restriction base type facets, attributes }
    else n.faultOn (.node m) (.badContent expected.toList)
    n.noMore rest expected

mutual

def element (bound : Nat) (ctx : ReadContext) (isGlobal : Bool) (n : SchemaNode) :
    Read (Option ParticleDeclaration) :=
  match bound with
  | 0 => n.fault (.circular "element")
  | bound + 1 => do
    if (isGlobal || !n.has "ref") && !n.has "name" then
      n.fault (.missingAttribute "name")
    let parts ← n.body
    let o ← if isGlobal then pure {} else n.occurrence ctx
    if !isGlobal && n.has "ref" then
      n.elementReference ctx parts o
    else do
      let name ← n.plainName ctx "name"
      let isQualified ←
        if isGlobal then pure true else n.isQualified ctx "form" ctx.elementsQualified
      let q : Xml.QName := ⟨if isQualified then ctx.space else none, name⟩
      let index ← addElement { name := q, isGlobal, scope := n.scope, line := n.tag.line }
      n.allowOnly
        (["name", "type", "id", "default", "fixed", "block", "nillable"] ++
          if isGlobal then ["final", "abstract", "substitutionGroup"]
          else ["maxOccurs", "minOccurs", "form"])
      let substitutes ← if isGlobal then n.mention? ctx "substitutionGroup" else pure none
      let isAbstract ← if isGlobal then n.flag ctx "abstract" else pure false
      let (blocked, blocksSubstitution) ← n.blocks ctx "block"
        (ctx.blocked, ctx.blocksSubstitution)
        "(#all | List of (extension | restriction | substitution))"
      let isNillable ← n.flag ctx "nillable"
      let type? ← n.mention? ctx "type"
      let constraint ← n.constraint ctx
      let (type, rest) ← elementType bound ctx n type? parts
      let (keyNodes, rest) := takeAll ["unique", "key", "keyref"] rest
      let keys ← keyNodes.mapM (key ctx)
      n.noMore rest elementContent
      changeElement index fun e =>
        { e with
          isAbstract, isNillable, blocked, blocksSubstitution, type, substitutes, constraint, keys }
      if isGlobal then
        noteTwice ((← get).elementNames.any fun e => e.1 = q) n .element q.toText
        modify fun c => { c with elementNames := c.elementNames ++ [(q, index)] }
      if o.most = some 0 then return none
      else return some (.element o index)

def elementType (bound : Nat) (ctx : ReadContext) (n : SchemaNode) (type? : Option Xml.QName)
    (parts : List SchemaPart) : Read (TypeMention × List SchemaPart) :=
  match bound with
  | 0 => n.fault (.circular "element")
  | bound + 1 => do
    let named : TypeMention := (type?.map TypeMention.named).getD .absent
    let (complex?, rest) := take "complexType" parts
    let (simple?, rest') := take "simpleType" parts
    match complex?, simple? with
    | some m, _ =>
      if type?.isSome then
        n.faultOn (.node m) (.contentRule
          "The attribute 'type' and the <complexType> child are mutually exclusive")
      else return (.complexAt (← complexType bound ctx false m), rest)
    | none, some m =>
      if type?.isSome then
        n.faultOn (.node m)
          (.contentRule "The attribute 'type' and the <simpleType> child are mutually exclusive")
      else return (.simpleAt (← simpleType depthBound ctx false m), rest')
    | none, none => return (named, parts)

def modelGroup (bound : Nat) (ctx : ReadContext) (order : GroupOrder) (isParticle : Bool)
    (n : SchemaNode) : Read (Option ParticleDeclaration) :=
  match bound with
  | 0 => n.fault (.circular "group")
  | bound + 1 => do
    let o ←
      if !isParticle then pure {}
      else if order = .all then n.allOccurrence ctx
      else n.occurrence ctx
    n.allowOnly (if isParticle then ["id", "minOccurs", "maxOccurs"] else ["id"])
    let names :=
      if order = .all then ["element"] else ["element", "group", "any", "choice", "sequence"]
    let (nodes, rest) := takeAll names (← n.body)
    let particles ← particleList bound ctx order nodes
    n.noMore rest
      (if order = .all then "(annotation?, (annotation?, element*)"
      else "(annotation?, (element | group | choice | sequence | any)*)")
    if o.most = some 0 then return none
    else do
      if particles.any isMention then
        await (.particles (particles.filter isMention))
      return some (.group o order n.tag.line particles)

def particleList (bound : Nat) (ctx : ReadContext) (order : GroupOrder) :
    List SchemaNode → Read (List ParticleDeclaration)
  | [] => return []
  | n :: rest =>
    match bound with
    | 0 => n.fault (.circular "group")
    | bound + 1 => do
      let p ←
        if n.isNamed "element" then element bound ctx false n
        else if n.isNamed "group" then n.groupReference ctx
        else if n.isNamed "any" then n.anyParticle ctx
        else if n.isNamed "choice" then modelGroup bound ctx .choice true n
        else modelGroup bound ctx .sequence true n
      match order, p with
      | .all, some (.element o _) => n.checkUnordered o
      | .all, some (.elementNamed o _ _) => n.checkUnordered o
      | _, _ => pure ()
      let more ← particleList bound ctx order rest
      return p.toList ++ more

def typeParticle (bound : Nat) (ctx : ReadContext) (parts : List SchemaPart) :
    Read (Option ParticleDeclaration × List SchemaPart) :=
  match bound, parts with
  | 0, _ => return (none, parts)
  | _, [] => return (none, [])
  | _, .stray :: _ => return (none, parts)
  | bound + 1, .node m :: rest =>
    match m.groupOrder? with
    | some order => do return (← modelGroup bound ctx order true m, rest)
    | none =>
      if m.isNamed "group" then do return (← m.groupReference ctx, rest)
      else return (none, parts)

def complexType (bound : Nat) (ctx : ReadContext) (isGlobal : Bool) (n : SchemaNode) : Read Nat :=
  match bound with
  | 0 => n.fault (.circular "complex type")
  | bound + 1 => do
    let name ←
      if isGlobal then do
        let name ← n.plainName ctx "name"
        pure (some (⟨ctx.space, name⟩ : Xml.QName))
      else pure none
    let index ← addComplexType { name, line := n.tag.line }
    n.allowOnly
      (["id", "mixed"] ++ if isGlobal then ["name", "abstract", "final", "block"] else [])
    let isMixed ← n.flag ctx "mixed"
    let isAbstract ← if isGlobal then n.flag ctx "abstract" else pure false
    let (blocked, _) ←
      if isGlobal then
        n.blocks ctx "block" (ctx.blocked, false) "(#all | List of (extension | restriction))"
      else pure (ctx.blocked, false)
    changeComplexType index fun t => { t with isAbstract, blocked }
    let parts ← n.body
    let (simple?, rest) := take "simpleContent" parts
    let (complex?, rest') := take "complexContent" parts
    match simple?, complex? with
    | some m, _ => do
      simpleContent ctx index m
      n.noMore rest complexContent
    | none, some m => do
      complexBody bound ctx index isMixed m
      n.noMore rest' complexContent
    | none, none => do
      let (particle, rest) ← typeParticle bound ctx parts
      let (attributes, rest) ← attributeList ctx rest
      n.noMore rest complexContent
      changeComplexType index fun t => { t with isMixed, particle, attributes }
    return index

def complexBody (bound : Nat) (ctx : ReadContext) (index : Nat) (isMixed : Bool)
    (n : SchemaNode) : Read Unit :=
  match bound with
  | 0 => n.fault (.circular "complex type")
  | bound + 1 => do
    n.allowOnly ["id", "mixed"]
    let isMixed ← if n.has "mixed" then n.flag ctx "mixed" else pure isMixed
    let expected := "(annotation?, (restriction | extension))"
    match ← n.body with
    | [] => n.fault (.badContent expected.toList)
    | .stray :: _ => n.faultOn .stray (.badContent expected.toList)
    | .node m :: rest => do
      let derivation? : Option Derivation :=
        if m.isNamed "extension" then some .extension
        else if m.isNamed "restriction" then some .restriction
        else none
      match derivation? with
      | none => n.faultOn (.node m) (.badContent expected.toList)
      | some derivation => do
        let base ← derivationBase ctx m
        let (particle, inner) ← typeParticle bound ctx (← m.body)
        let (attributes, inner) ← attributeList ctx inner
        m.noMore inner extensionContent
        changeComplexType index fun t =>
          { t with body := .complex derivation base, isMixed, particle, attributes }
      n.noMore rest expected

end

def groupDefinition (ctx : ReadContext) (n : SchemaNode) : Read Unit := do
  let name ← n.plainName ctx "name"
  n.allowOnly ["id", "name"]
  let expected := "(annotation?, (all | choice | sequence)?)"
  let parts ← n.body
  let (particle, rest) ←
    match parts with
    | .node m :: rest =>
      match m.groupOrder? with
      | some order => do pure (← modelGroup depthBound ctx order false m, rest)
      | none => pure (none, parts)
    | _ => pure (none, parts)
  n.noMore rest expected
  let q : Xml.QName := ⟨ctx.space, name⟩
  noteTwice ((← get).groupNames.any fun e => e.1 = q) n .group q.toText
  modify fun c => { c with groupNames := c.groupNames ++ [(q, particle)] }

def nameType (ctx : ReadContext) (n : SchemaNode) (kind : ComponentKind) (type : TypeMention) :
    Read Unit := do
  let name ← n.plainName ctx "name"
  let q : Xml.QName := ⟨ctx.space, name⟩
  noteTwice ((← get).typeNames.any fun e => e.1 = q) n kind q.toText
  modify fun c => { c with typeNames := c.typeNames ++ [(q, type)] }

def component (ctx : ReadContext) (n schema : SchemaNode) : Read Unit :=
  if n.isNamed "element" then do
    let _ ← element depthBound ctx true n
  else if n.isNamed "complexType" then do
    n.nameType ctx .complexType (.complexAt (← complexType depthBound ctx true n))
  else if n.isNamed "simpleType" then do
    n.nameType ctx .simpleType (.simpleAt (← simpleType depthBound ctx true n))
  else if n.isNamed "attribute" then n.globalAttribute ctx
  else if n.isNamed "attributeGroup" then n.attributeGroup ctx
  else if n.isNamed "group" then n.groupDefinition ctx
  else if n.isNamed "notation" then return
  else if n.isNamed "annotation" then n.checkAnnotation
  else schema.faultOn (.node n) (.badContent schemaContent.toList)

end SchemaNode

/-- The directory names of a path text and a relative one after them, without single and double
dots. -/
def settledParts : (settled parts : List Text) → List Text
  | settled, [] => settled.reverse
  | settled, part :: parts =>
    if part = ['.'] then settledParts settled parts
    else if part = ['.', '.'] then settledParts (settled.drop 1) parts
    else settledParts (part :: settled) parts

def addressFrom (place relative : Text) : Text :=
  if (Uri.scheme? relative).isSome then relative
  else
    match relative with
    | '/' :: _ => relative
    | _ =>
      let here := (Text.splitOn '/' place).dropLast
      Text.join ['/'] (settledParts [] (here ++ Text.splitOn '/' relative))

def ownSpace? (ctx : ReadContext) (n : SchemaNode) : Option Text :=
  match n.value? ctx "targetNamespace" with
  | some [] => none
  | space => space

def rootContext (ctx : ReadContext) (n : SchemaNode) : Read ReadContext := do
  let elementsQualified ← n.isQualified ctx "elementFormDefault" false
  let attributesQualified ← n.isQualified ctx "attributeFormDefault" false
  let (blocked, blocksSubstitution) ← n.blocks ctx "blockDefault" ([], false)
    "(#all | List of (extension | restriction | substitution))"
  return { ctx with elementsQualified, attributesQualified, blocked, blocksSubstitution }

def askFor (fetch : Text → Option FetchedDocument) (address : Text) :
    Asking (Option FetchedDocument) := do
  modifyThe (List Text) fun asked => asked ++ [address]
  return fetch address

/-- The root of a document that was asked for, with its surroundings. No root means that there is no
such document. -/
def openDocument (n : SchemaNode) (address : Text) (document : FetchedDocument) :
    Read (Option (ReadContext × SchemaNode)) := do
  let parsed := Xml.parse true document.octets
  let bad? := parsed.findings.find? fun f => !f.problem.isMild
  match bad?, parsed.findings, parsed.root with
  | some _, first :: _, _ =>
    throw ⟨.document, .malformed first.problem first.column, some first.line⟩
  | _, _, some root =>
    let node := SchemaNode.ofElement [] root.tag root.children
    if node.isNamed "schema" then
      let inner : ReadContext :=
        { address := some address, place := document.place, isIncluded := true }
      return some (inner, node)
    else n.fault (.notSchema address)
  | _, _, none => return none

/-- The address of a document whose components become those of this one, unless that has been read
already. -/
def includedAddress? (ctx : ReadContext) (n : SchemaNode) : Read (Option Text) := do
  n.allowOnly ["id", "schemaLocation"]
  let location ← n.required ctx "schemaLocation"
  if n.isNamed "include" then
    n.noMore (← n.body) "(annotation?)"
  let address := addressFrom ctx.place (WhiteSpace.collapse.apply location)
  if ctx.address = some address then
    n.fault (.includesItself address)
  else if (← get).loaded.contains (address, ctx.space) then return none
  else return some address

def enterIncluded (ctx : ReadContext) (n : SchemaNode) (address : Text) (inner : ReadContext)
    (root : SchemaNode) : Read ReadContext := do
  let own := ownSpace? inner root
  match own, ctx.space with
  | some _, none => n.fault (.spaceMustBeAbsent address)
  | some space, some mine =>
    if space != mine then
      n.fault (.spaceDiffers space address mine)
  | none, _ => pure ()
  modify fun c => { c with loaded := c.loaded ++ [(address, ctx.space)] }
  rootContext { inner with space := ctx.space, adoptsSpace := own.isNone && ctx.space.isSome } root

def importedAddress? (ctx : ReadContext) (n : SchemaNode) (space : Option Text) :
    Read (Option Text) := do
  n.allowOnly ["id", "namespace", "schemaLocation"]
  if space.isSome && space = ctx.space then
    n.fault (.contentRule
      (("The value of the attribute 'namespace' must not match the target namespace " : Text) ++
        Facet.marked (ctx.space.getD []) ++ " of the importing schema"))
  if space.isNone && ctx.space.isNone then
    n.fault (.contentRule
      (("The attribute 'namespace' must be existent if the importing schema has no target " :
        Text) ++ "namespace"))
  n.noMore (← n.body) "(annotation?)"
  match n.value? ctx "schemaLocation" with
  | none => return none
  | some location =>
    if (← get).loaded.any fun e => e.2 = space then return none
    else return some (addressFrom ctx.place (WhiteSpace.collapse.apply location))

/-- Enters a document of another namespace. One that is of a third namespace is passed over. -/
def enterImported (space : Option Text) (address : Text) (inner : ReadContext)
    (root : SchemaNode) : Read (Option ReadContext) := do
  if ownSpace? inner root != space then return none
  else
    modify fun c => { c with loaded := c.loaded ++ [(address, space)] }
    return some (← rootContext { inner with space } root)

mutual

def readParts (fetch : Text → Option FetchedDocument) (bound : Nat) (ctx : ReadContext)
    (isOpening : Bool) (schema : SchemaNode) (parts : List SchemaPart) : Asking Unit :=
  match bound, parts with
  | 0, _ => schema.fault (.circular "schema")
  | _, [] => return
  | _, .stray :: _ =>
    schema.faultOn .stray (.badContent SchemaNode.schemaContent.toList)
  | bound + 1, .node n :: rest => do
    if isOpening && (n.isNamed "include" || n.isNamed "redefine") then
      readIncluded fetch bound ctx n
      readParts fetch bound ctx true schema rest
    else if isOpening && n.isNamed "import" then
      let space := n.value? ctx "namespace"
      readImported fetch bound ctx n space
      readParts fetch bound { ctx with imported := ctx.imported ++ [space] } true schema rest
    else
      n.component ctx schema
      readParts fetch bound ctx (isOpening && n.isNamed "annotation") schema rest

def readIncluded (fetch : Text → Option FetchedDocument) (bound : Nat) (ctx : ReadContext)
    (n : SchemaNode) : Asking Unit :=
  match bound with
  | 0 => n.fault (.circular "schema")
  | bound + 1 => do
    match ← includedAddress? ctx n with
    | none => return
    | some address =>
      match ← askFor fetch address with
      | none => n.fault (.notLoaded address)
      | some document =>
        match ← openDocument n address document with
        | none => n.fault (.notLoaded address)
        | some (inner, root) => do
          let inner ← enterIncluded ctx n address inner root
          readParts fetch bound inner true root root.parts

def readImported (fetch : Text → Option FetchedDocument) (bound : Nat) (ctx : ReadContext)
    (n : SchemaNode) (space : Option Text) : Asking Unit :=
  match bound with
  | 0 => n.fault (.circular "schema")
  | bound + 1 => do
    match ← importedAddress? ctx n space with
    | none => return
    | some address =>
      match ← askFor fetch address with
      | none => return
      | some document =>
        match ← openDocument n address document with
        | none => return
        | some (inner, root) =>
          match ← enterImported space address inner root with
          | none => return
          | some inner => readParts fetch bound inner true root root.parts

end

/-- How many steps the reading of documents may take, for a number of nodes that one of them has at
most. -/
def readBound : Nat := 1000000

def mainContext (place shown : Text) (n : SchemaNode) : Read ReadContext := do
  if n.isNamed "schema" then
    let ctx : ReadContext := { address := none, place, isIncluded := false }
    let space := ownSpace? ctx n
    modify fun c => { c with loaded := [(place, space)] }
    rootContext { ctx with space } n
  else throw ⟨.document, .notSchema shown, none⟩

/-- The components of a schema whose main document has the given root. Other documents are found by
`fetch`; `place` is where the main one stands. -/
def readComponents (fetch : Text → Option FetchedDocument) (place shown : Text)
    (root : Xml.Element) : Asking Unit := do
  let n := SchemaNode.ofElement [] root.tag root.children
  let ctx ← mainContext place shown n
  readParts fetch readBound ctx true n n.parts

end XmlCheck.Schema
