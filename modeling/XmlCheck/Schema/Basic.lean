import XmlCheck.Schema.ContentRun
import XmlCheck.Schema.Declared
import XmlCheck.Schema.KeyPath

/-!
Schemas that are ready to check documents: every reference has been followed, and elements and
complex types stand in tables, since they may refer to each other in circles.
-/

namespace XmlCheck.Schema

inductive TypeUse
  | anyType
  | simple (type : SimpleType)
  | complex (index : Nat)

structure AttributeRule where
  name : Xml.QName
  type : SimpleType
  isRequired : Bool := false
  constraint : Option ValueConstraint := none
  scope : Xml.Scope := []

inductive Content
  | anything
  | empty
  | simple (type : SimpleType)
  | elements (model : ContentModel) (isMixed : Bool)

structure ComplexType where
  name : Option Xml.QName
  isAbstract : Bool
  content : Content
  attributes : List AttributeRule
  wildcard : Option AttributeWildcard
  base : TypeUse
  derivation : Derivation
  blocked : List Derivation

structure ElementRule where
  name : Xml.QName
  isAbstract : Bool
  isNillable : Bool
  type : TypeUse
  constraint : Option ValueConstraint
  keys : List Nat
  blocked : List Derivation
  scope : Xml.Scope

/-- A part of a key: the paths that lead to it, and their text. -/
structure KeyField where
  source : Text
  paths : List KeyPath

structure KeyRule where
  kind : ConstraintKind
  name : Xml.QName
  selector : List KeyPath
  fields : List KeyField
  target : Option Nat

end XmlCheck.Schema

namespace XmlCheck

open Schema

structure Schema where
  elements : Array ElementRule
  complexTypes : Array ComplexType
  elementNames : List (Xml.QName × Nat)
  attributeNames : List (Xml.QName × AttributeRule)
  typeNames : List (Xml.QName × TypeUse)
  keys : Array KeyRule

def Schema.builtinType? (q : Xml.QName) : Option TypeUse :=
  if q.space != some schemaSpace then none
  else if q.localName = ("anyType" : Text) then some .anyType
  else (Builtin.ofText? q.localName).map fun kind => .simple (.builtin kind)

def Schema.type? (schema : Schema) (q : Xml.QName) : Option TypeUse :=
  (Schema.builtinType? q).or (schema.typeNames.lookup q)

end XmlCheck
