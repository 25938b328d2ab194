import XmlCheck.Schema.Basic

/-!
What can be wrong with a document when it is held against a schema, where, and how it is said.
-/

namespace XmlCheck.Schema

inductive ViolationCause
  | noRootDeclaration
  | abstractElement
  | abstractType
  | notNillable
  | nilledThoughFixed
  | contentThoughNilled
  | unknownType (name : Text)
  | unsuitableType (name : Text)
  | missingAttribute (name : Text)
  | extraAttribute (name : Text)
  | undeclaredAttribute
  | undeclaredElement
  | attributeNotFixed (value fixed : Text)
  | valueNotFixed (value fixed : Text)
  | textNotFixed (text fixed : Text)
  | elementsThoughFixed
  | textInEmpty
  | elementInEmpty
  | elementInSimpleType
  | elementInSimpleContent
  | textAmongElements
  | unexpected (expected : List Label)
  | missingChildren (expected : List Label)
  | refusedValue (complaint : Text)
  | doubleKey (values : List Text) (key : Text)
  | incompleteKey (key : Text)
  | danglingReference (values : List Text) (reference : Text)
  | manyFieldValues (path key : Text)
  | compoundField (path key : Text)
  | refusedField
  deriving DecidableEq, Repr

def expectation (labels : List Label) : Text :=
  match labels with
  | [] => []
  | [label] => (" Expected is ( " : Text) ++ label.shown ++ " )."
  | labels => (" Expected is one of ( " : Text) ++ Text.join ", " (labels.map Label.shown) ++ " )."

def keySequence (values : List Text) : Text :=
  '[' :: Text.join ", " (values.map Facet.marked) ++ [']']

def ViolationCause.message : ViolationCause → Text
  | .noRootDeclaration => "No matching global declaration available for the validation root."
  | .abstractElement => "The element declaration is abstract."
  | .abstractType => "The type definition is abstract."
  | .notNillable => "The element is not 'nillable'."
  | .nilledThoughFixed =>
    ("The element cannot be 'nilled', because there is a fixed value constraint defined for it." :
      Text)
  | .contentThoughNilled =>
    "Neither character nor element content is allowed because the element is 'nilled'."
  | .unknownType name =>
    ("The QName value " : Text) ++ Facet.marked name ++
      " of the xsi:type attribute does not resolve to a type definition."
  | .unsuitableType name =>
    ("The type definition " : Text) ++ Facet.marked name ++ ", specified by xsi:type, is " ++
      "blocked or not validly derived from the type definition of the element declaration."
  | .missingAttribute name =>
    ("The attribute " : Text) ++ Facet.marked name ++ " is required but missing."
  | .extraAttribute name => ("The attribute " : Text) ++ Facet.marked name ++ " is not allowed."
  | .undeclaredAttribute =>
    ("No matching global attribute declaration available, " : Text) ++
      "but demanded by the strict wildcard."
  | .undeclaredElement =>
    ("No matching global element declaration available, " : Text) ++
      "but demanded by the strict wildcard."
  | .attributeNotFixed value fixed =>
    ("The value " : Text) ++ Facet.marked value ++ " does not match the fixed value constraint " ++
      Facet.marked fixed ++ "."
  | .valueNotFixed value fixed =>
    ("The actual value " : Text) ++ Facet.marked value ++
      " does not match the fixed value constraint " ++ Facet.marked fixed ++ "."
  | .textNotFixed text fixed =>
    ("The initial value " : Text) ++ Facet.marked text ++
      " does not match the fixed value constraint " ++ Facet.marked fixed ++ "."
  | .elementsThoughFixed =>
    ("The content must not contain element nodes " : Text) ++
      "since there is a fixed value constraint."
  | .textInEmpty => "Character content is not allowed, because the content type is empty."
  | .elementInEmpty => "Element content is not allowed, because the content type is empty."
  | .elementInSimpleType =>
    "Element content is not allowed, because the type definition is simple."
  | .elementInSimpleContent =>
    ("Element content is not allowed, " : Text) ++
      "because the content type is a simple type definition."
  | .textAmongElements =>
    ("Character content other than whitespace is not allowed " : Text) ++
      "because the content type is 'element-only'."
  | .unexpected expected => ("This element is not expected." : Text) ++ expectation expected
  | .missingChildren expected => ("Missing child element(s)." : Text) ++ expectation expected
  | .refusedValue complaint => complaint
  | .doubleKey values key =>
    ("Duplicate key-sequence " : Text) ++ keySequence values ++ " in " ++ key ++ "."
  | .incompleteKey key => ("Not all fields of " : Text) ++ key ++ " evaluate to a node."
  | .danglingReference values reference =>
    ("No match found for key-sequence " : Text) ++ keySequence values ++ " of keyref " ++
      Facet.marked reference ++ "."
  | .manyFieldValues path key =>
    ("The XPath " : Text) ++ Facet.marked path ++ " of a field of " ++ key ++
      " evaluates to a node-set with more than one member."
  | .compoundField path key =>
    ("The XPath " : Text) ++ Facet.marked path ++ " of a field of " ++ key ++
      " does evaluate to a node of non-simple type."
  | .refusedField =>
    ("Warning: No precomputed value available, " : Text) ++
      "the value was either invalid or something strange happened."

structure Spot where
  line : Nat
  element : Xml.QName
  attributeName : Option Xml.QName := none
  deriving DecidableEq, Repr

def Spot.ofTag (tag : Xml.Tag) : Spot :=
  { line := tag.line, element := tag.name }

def Spot.at (spot : Spot) (name : Xml.QName) : Spot :=
  { spot with attributeName := some name }

def Spot.toText (spot : Spot) : Text :=
  let element := ("Element " : Text) ++ Facet.marked spot.element.toText
  match spot.attributeName with
  | some name => element ++ ", attribute " ++ Facet.marked name.toText
  | none => element

structure Violation where
  spot : Spot
  cause : ViolationCause
  deriving DecidableEq, Repr

def Violation.message (violation : Violation) : Text :=
  violation.spot.toText ++ ": " ++ violation.cause.message

end XmlCheck.Schema
