import XmlCheck.Schema.TypeOrder
import XmlCheck.Schema.Violation
import XmlCheck.WellFormed

/-!
The check of the attributes of a start tag. Bad values are named first, then attributes that may not
stand there or differ from a fixed value, and last the required ones that are missing.
-/

namespace XmlCheck.Schema

structure TypedValue where
  values : List Value
  shown : Text
  deriving DecidableEq, Repr

def TypedValue.ofText (type : SimpleType) (values : List Value) (text : Text) : TypedValue :=
  match values with
  | [value] => ⟨values, value.standardForm?.getD (type.whiteSpace.apply text)⟩
  | _ => ⟨values, type.whiteSpace.apply text⟩

def TypedValue.same (a b : TypedValue) : Bool :=
  Value.sameRow a.values b.values

def typedValue (type : SimpleType) (scope : Xml.Scope) (inAttribute : Bool) (text : Text) :
    Except (List Text) TypedValue :=
  match type.judge scope inAttribute text with
  | .accepted values => .ok (.ofText type values text)
  | .refused complaints => .error complaints

/-- The value that is there by default or always; a value that its type refuses is none. -/
def ValueConstraint.typed? (constraint : ValueConstraint) (type : SimpleType) (scope : Xml.Scope) :
    Option TypedValue :=
  (typedValue type scope true constraint.value).toOption

/-- Whether an attribute says how its element is to be read, and is none of the element's own. -/
def isInstanceName (name : Xml.QName) : Bool :=
  name.space = some instanceSpace &&
    [("type" : Text), "nil", "schemaLocation", "noNamespaceSchemaLocation"].contains name.localName

inductive AttributeStanding
  | ruled (rule : AttributeRule)
  | free
  | undeclared
  | extra

def wildStanding (declared : List (Xml.QName × AttributeRule)) (wildcard : Option AttributeWildcard)
    (name : Xml.QName) : AttributeStanding :=
  match wildcard with
  | none => .extra
  | some w =>
    if !w.labels.any fun label => label.holds name then .extra
    else
      match w.processing, declared.lookup name with
      | .skip, _ => .free
      | _, some rule => .ruled rule
      | .lax, none => .free
      | .strict, none => .undeclared

def standing (declared : List (Xml.QName × AttributeRule)) (rules : List AttributeRule)
    (wildcard : Option AttributeWildcard) (name : Xml.QName) : AttributeStanding :=
  match rules.find? fun rule => rule.name = name with
  | some rule => .ruled rule
  | none => wildStanding declared wildcard name

structure AttributeFinding where
  name : Xml.QName
  refusals : List ViolationCause := []
  objections : List ViolationCause := []
  value : Option TypedValue := none

def AttributeRule.check (rule : AttributeRule) (scope : Xml.Scope) (a : Xml.Attribute) :
    AttributeFinding :=
  match typedValue rule.type scope true a.value with
  | .error complaints => { name := a.name, refusals := complaints.map .refusedValue }
  | .ok value =>
    let objections :=
      match rule.constraint with
      | some ⟨true, fixed⟩ =>
        match ValueConstraint.typed? ⟨true, fixed⟩ rule.type rule.scope with
        | some other => if value.same other then [] else [.attributeNotFixed a.value fixed]
        | none => []
      | _ => []
    { name := a.name, objections, value := some value }

def AttributeStanding.check (how : AttributeStanding) (scope : Xml.Scope) (a : Xml.Attribute) :
    AttributeFinding :=
  match how with
  | ruled rule => rule.check scope a
  | free => { name := a.name }
  | undeclared => { name := a.name, objections := [.undeclaredAttribute] }
  | extra => { name := a.name, objections := [.extraAttribute a.name.toText] }

def missingAttributes (rules : List AttributeRule) (tag : Xml.Tag) : List ViolationCause :=
  (rules.filter fun rule => rule.isRequired && (tag.attribute? rule.name).isNone).map fun rule =>
    .missingAttribute rule.name.toText

def defaultValues (rules : List AttributeRule) (tag : Xml.Tag) :
    List (Xml.QName × TypedValue) :=
  rules.filterMap fun rule =>
    if rule.isRequired || (tag.attribute? rule.name).isSome then none
    else
      (rule.constraint.bind fun c => c.typed? rule.type rule.scope).map fun value =>
        (rule.name, value)

structure CheckedAttributes where
  violations : List Violation := []
  values : List (Xml.QName × TypedValue) := []

def CheckedAttributes.ofFindings (spot : Spot) (findings : List AttributeFinding)
    (missing : List ViolationCause) (defaults : List (Xml.QName × TypedValue)) :
    CheckedAttributes :=
  { violations :=
      (findings.flatMap fun f => f.refusals.map fun cause => ⟨spot.at f.name, cause⟩) ++
        (findings.flatMap fun f => f.objections.map fun cause => ⟨spot.at f.name, cause⟩) ++
        missing.map fun cause => ⟨spot, cause⟩
    values := findings.filterMap (fun f => f.value.map fun v => (f.name, v)) ++ defaults }

end XmlCheck.Schema

namespace XmlCheck

open Schema

def Schema.checkAttributes (schema : Schema) (type : TypeUse) (scope : Xml.Scope) (tag : Xml.Tag) :
    CheckedAttributes :=
  let own := tag.attributes.filter fun a => !isInstanceName a.name
  let (rules, wildcard) : List AttributeRule × Option AttributeWildcard :=
    match type with
    | .anyType => ([], some ⟨[.anySpace, .noSpace], .lax⟩)
    | .simple _ => ([], none)
    | .complex i =>
      match schema.complexTypes[i]? with
      | some c => (c.attributes, c.wildcard)
      | none => ([], none)
  let findings := own.map fun a =>
    (standing schema.attributeNames rules wildcard a.name).check scope a
  .ofFindings (.ofTag tag) findings (missingAttributes rules tag) (defaultValues rules tag)

end XmlCheck
