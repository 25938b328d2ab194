import XmlCheck.Schema.SimpleType
import XmlCheck.Xml.Problem

/-!
What can be wrong with a schema, whom it concerns and how it is said. Only the first fault of a
schema counts.
-/

namespace XmlCheck.Schema

def schemaSpace : Text := "http://www.w3.org/2001/XMLSchema"

inductive ComponentKind
  | element
  | attributeDeclaration
  | simpleType
  | complexType
  | type
  | group
  | attributeGroup
  | unique
  | key
  | keyReference
  deriving DecidableEq, Repr

def ComponentKind.toText : ComponentKind → Text
  | .element => "element declaration"
  | .attributeDeclaration => "attribute declaration"
  | .simpleType => "simple type definition"
  | .complexType => "complex type definition"
  | .type => "type definition"
  | .group => "model group definition"
  | .attributeGroup => "attribute group definition"
  | .unique => "unique identity-constraint"
  | .key => "key identity-constraint"
  | .keyReference => "keyref identity-constraint"

inductive Subject
  | node (name : Xml.QName)
  | nodeAttribute (name : Xml.QName) (key : Text)
  | elementDeclaration (name : Text) (key : Option Text)
  | attributeDeclaration (name : Text) (key : Option Text)
  | attributeUse (name : Text) (key : Option Text)
  | simpleType (name : Option Text) (variety : Text) (key : Option Text)
  | complexType (name : Option Text) (key : Option Text)
  | keyReference (name : Text) (key : Option Text)
  | document
  deriving DecidableEq, Repr

namespace Subject

def named (kind : Text) (name : Option Text) : Text :=
  match name with
  | some name => kind ++ " " ++ Facet.marked name
  | none => ("local " : Text) ++ kind

def narrowed (subject : Text) (key : Option Text) : Text :=
  match key with
  | some name => subject ++ ", attribute " ++ Facet.marked name
  | none => subject

def toText : Subject → Text
  | node name => ("Element " : Text) ++ Facet.marked name.toText
  | nodeAttribute name key =>
    narrowed (("Element " : Text) ++ Facet.marked name.toText) (some key)
  | elementDeclaration name key =>
    narrowed (("element decl. " : Text) ++ Facet.marked name) key
  | attributeDeclaration name key =>
    narrowed (("attribute decl. " : Text) ++ Facet.marked name) key
  | attributeUse name key =>
    narrowed (("attribute use " : Text) ++ name) key
  | simpleType name variety key =>
    narrowed (named (variety ++ " type") name) key
  | complexType name key => narrowed (named "complex type" name) key
  | keyReference name key => narrowed (("keyRef " : Text) ++ Facet.marked name) key
  | document => []

end Subject

inductive FaultCause
  | notSchema (address : Text)
  | malformed (problem : Xml.Problem) (column : Nat)
  | missingAttribute (name : Text)
  | extraAttribute (name : Text)
  | badContent (expected : Text)
  | contentRule (rule : Text)
  | badValue (value expected : Text)
  | notOfType (value type : Text)
  | unboundName (value : Text)
  | exclusive (first second : Text)
  | belowLeast (least : Nat)
  | leastAboveMost
  | referenceOnly
  | notImported (space : Option Text)
  | unresolved (name : Xml.QName) (kind : ComponentKind)
  | twice (kind : ComponentKind) (name : Text)
  | notLoaded (address : Text)
  | includesItself (address : Text)
  | spaceMustBeAbsent (address : Text)
  | spaceDiffers (space address own : Text)
  | badFacet (value : Text) (kind : FacetKind) (expected : Text)
  | badPattern (value : Text)
  | badWhiteSpace (value : Text)
  | refusedFacet (complaint : Text)
  | useTwice (name : Text)
  | circular (kind : Text)
  | notDeterminist
  | notSimple (name : Text)
  | invalidDefault (complaint : Text)
  deriving DecidableEq, Repr

def FaultCause.message : FaultCause → Text
  | .notSchema address =>
    ("The XML document " : Text) ++ Facet.marked address ++ " is not a schema document."
  | .malformed problem _ => problem.message
  | .missingAttribute name =>
    ("The attribute " : Text) ++ Facet.marked name ++ " is required but missing."
  | .extraAttribute name => ("The attribute " : Text) ++ Facet.marked name ++ " is not allowed."
  | .badContent expected => ("The content is not valid. Expected is " : Text) ++ expected ++ "."
  | .contentRule rule => rule ++ "."
  | .badValue value expected =>
    ("The value " : Text) ++ Facet.marked value ++ " is not valid. Expected is " ++
      Facet.marked expected ++ "."
  | .notOfType value type =>
    Facet.marked value ++ " is not a valid value of the atomic type " ++ Facet.marked type ++ "."
  | .unboundName value =>
    ("The value " : Text) ++ Facet.marked value ++
      " of simple type 'xs:QName' has no corresponding namespace declaration in scope."
  | .exclusive first second =>
    ("The attributes " : Text) ++ Facet.marked first ++ " and " ++ Facet.marked second ++
      " are mutually exclusive."
  | .belowLeast least =>
    ("The value must be greater than or equal to " : Text) ++ Text.ofNat least ++ "."
  | .leastAboveMost => "The value must not be greater than the value of 'maxOccurs'."
  | .referenceOnly =>
    "Only the attributes 'minOccurs', 'maxOccurs' and 'id' are allowed in addition to 'ref'."
  | .notImported none =>
    ("References from this schema to components in no namespace are not allowed, " : Text) ++
      "since not indicated by an import statement."
  | .notImported (some space) =>
    ("References from this schema to components in the namespace " : Text) ++
      Facet.marked space ++ " are not allowed, since not indicated by an import statement."
  | .unresolved name kind =>
    ("The QName value " : Text) ++ Facet.marked name.toText ++ " does not resolve to a(n) " ++
      kind.toText ++ "."
  | .twice kind name =>
    ("A global " : Text) ++ kind.toText ++ " " ++ Facet.marked name ++ " does already exist."
  | .notLoaded address =>
    ("Failed to load the document " : Text) ++ Facet.marked address ++ " for inclusion."
  | .includesItself address =>
    ("The schema document " : Text) ++ Facet.marked address ++ " cannot include itself.."
  | .spaceMustBeAbsent address =>
    ("The target namespace of the included/redefined schema " : Text) ++ Facet.marked address ++
      " has to be absent, since the including/redefining schema has no target namespace."
  | .spaceDiffers space address own =>
    ("The target namespace " : Text) ++ Facet.marked space ++
      " of the included/redefined schema " ++ Facet.marked address ++ " differs from " ++
      Facet.marked own ++ " of the including/redefining schema."
  | .badFacet value kind expected =>
    ("The value " : Text) ++ Facet.marked value ++ " of the facet " ++
      Facet.marked kind.toText ++ " is not a valid " ++ Facet.marked expected ++ "."
  | .badPattern value =>
    ("The value " : Text) ++ Facet.marked value ++
      " of the facet 'pattern' is not a valid regular expression."
  | .badWhiteSpace value =>
    ("The value " : Text) ++ Facet.marked value ++ " of the facet 'whitespace' is not valid."
  | .refusedFacet complaint => complaint
  | .useTwice name => ("Duplicate attribute use " : Text) ++ Facet.marked name ++ "."
  | .circular kind => ("The " : Text) ++ kind ++ " is circular."
  | .notDeterminist => "The content model is not determinist."
  | .notSimple name =>
    ("The type definition " : Text) ++ Facet.marked name ++ " is not simple."
  | .invalidDefault complaint => complaint

structure SchemaFault where
  subject : Subject
  cause : FaultCause
  line : Option Nat
  deriving DecidableEq, Repr

def SchemaFault.message (fault : SchemaFault) : Text :=
  let subject := fault.subject.toText
  let opening : Text := if subject.isEmpty then [] else subject ++ ": "
  let place : Text :=
    match fault.line, fault.cause with
    | none, _ => []
    | some line, .malformed _ column =>
      (", line " : Text) ++ Text.ofNat line ++ ", column " ++ Text.ofNat column
    | some line, _ => (", line " : Text) ++ Text.ofNat line
  opening ++ fault.cause.message ++ place

end XmlCheck.Schema
