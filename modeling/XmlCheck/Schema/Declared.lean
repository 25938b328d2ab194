import XmlCheck.Schema.ContentModel
import XmlCheck.Schema.Fault

/-!
The components of a schema as they are declared: what they say of each other they say by name, and
local components stand in tables and are known by their numbers.
-/

namespace XmlCheck.Schema

inductive TypeMention
  | absent
  | named (name : Xml.QName)
  | simpleAt (index : Nat)
  | complexAt (index : Nat)
  deriving DecidableEq, Repr

structure ValueConstraint where
  isFixed : Bool
  value : Text
  deriving DecidableEq, Repr

structure FacetDeclaration where
  kind : FacetKind
  value : Text
  scope : Xml.Scope
  line : Nat

inductive SimpleBody
  | restriction (base : TypeMention) (facets : List FacetDeclaration)
  | list (item : TypeMention)
  | union (members : List TypeMention)

structure SimpleDeclaration where
  name : Option Xml.QName
  body : SimpleBody
  line : Nat

structure AttributeDeclaration where
  name : Xml.QName
  type : TypeMention
  constraint : Option ValueConstraint
  scope : Xml.Scope
  line : Nat

/-- Which attribute a use is about: a local one by number, or a global one by name. -/
inductive AttributeMention
  | localAt (index : Nat)
  | named (name : Xml.QName)

structure AttributeUse where
  mention : AttributeMention
  isRequired : Bool
  isProhibited : Bool
  constraint : Option ValueConstraint
  line : Nat

inductive AttributeItem
  | use (use : AttributeUse)
  | group (name : Xml.QName) (line : Nat)

structure AttributeWildcard where
  labels : List Label
  processing : Processing

structure AttributeList where
  items : List AttributeItem := []
  wildcard : Option AttributeWildcard := none

inductive ParticleDeclaration
  | element (occurrence : Occurrence) (index : Nat)
  | elementNamed (occurrence : Occurrence) (name : Xml.QName) (line : Nat)
  | wildcard (occurrence : Occurrence) (labels : List Label) (processing : Processing)
  | group (occurrence : Occurrence) (order : GroupOrder) (line : Nat)
    (particles : List ParticleDeclaration)
  | groupNamed (occurrence : Occurrence) (name : Xml.QName) (line : Nat)

inductive Derivation
  | extension
  | restriction
  deriving DecidableEq, Repr

inductive ComplexBody
  | plain
  | simple (derivation : Derivation) (base : Xml.QName) (inner : TypeMention)
    (facets : List FacetDeclaration)
  | complex (derivation : Derivation) (base : Xml.QName)

structure ComplexDeclaration where
  name : Option Xml.QName
  isAbstract : Bool := false
  isMixed : Bool := false
  blocked : List Derivation := []
  body : ComplexBody := .plain
  particle : Option ParticleDeclaration := none
  attributes : AttributeList := {}
  line : Nat

inductive ConstraintKind
  | unique
  | key
  | reference (name : Xml.QName)
  deriving DecidableEq, Repr

def ConstraintKind.isTarget : ConstraintKind → Bool
  | .unique => true
  | .key => true
  | .reference _ => false

/-- A rule about keys as it is declared. Its paths are kept as they are written. -/
structure ConstraintDeclaration where
  kind : ConstraintKind
  name : Xml.QName
  selector : Text
  fields : List Text
  scope : Xml.Scope
  line : Nat

structure ElementDeclaration where
  name : Xml.QName
  isGlobal : Bool := false
  isAbstract : Bool := false
  isNillable : Bool := false
  blocked : List Derivation := []
  blocksSubstitution : Bool := false
  type : TypeMention := .absent
  substitutes : Option Xml.QName := none
  constraint : Option ValueConstraint := none
  keys : List Nat := []
  scope : Xml.Scope := []
  line : Nat

/-- A reference that has to be followed when all components are known. The order of these is the
order in which faults are found. -/
inductive Pending
  | element (index : Nat)
  | declaredAttribute (index : Nat)
  | usedAttribute (name : Xml.QName) (line : Nat)
  | attributeGroup (name : Xml.QName) (line : Nat)
  | simpleType (index : Nat)
  | complexType (index : Nat)
  | particles (particles : List ParticleDeclaration)
  | key (index : Nat)

structure Components where
  elements : Array ElementDeclaration := #[]
  attributes : Array AttributeDeclaration := #[]
  simpleTypes : Array SimpleDeclaration := #[]
  complexTypes : Array ComplexDeclaration := #[]
  keys : Array ConstraintDeclaration := #[]
  elementNames : List (Xml.QName × Nat) := []
  attributeNames : List (Xml.QName × Nat) := []
  typeNames : List (Xml.QName × TypeMention) := []
  groupNames : List (Xml.QName × Option ParticleDeclaration) := []
  attributeGroupNames : List (Xml.QName × AttributeList) := []
  pending : Array Pending := #[]
  doubled : Option SchemaFault := none
  loaded : List (Text × Option Text) := []

end XmlCheck.Schema
