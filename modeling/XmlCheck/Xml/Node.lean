import XmlCheck.Xml.Char

/-!
Documents as trees. An element knows its name with its namespace, the namespaces that it declares
itself, its attributes in order and the line on which its start tag ends.
-/

namespace XmlCheck.Xml

structure QName where
  space : Option Text
  localName : Text
  deriving DecidableEq, Repr

def QName.toText (name : QName) : Text :=
  match name.space with
  | none => name.localName
  | some space => '\x7b' :: space ++ '\x7d' :: name.localName

def xmlSpace : Text := "http://www.w3.org/XML/1998/namespace"

/-- An attribute. The `bare` value leaves out what stands for entity references. -/
structure Attribute where
  name : QName
  value : Text
  bare : Text
  deriving DecidableEq, Repr

/-- The start tag of an element. A namespace is declared for a prefix, or for none as default; an
empty default takes the default away. -/
structure Tag where
  name : QName
  namespaces : List (Option Text × Text)
  attributes : List Attribute
  line : Nat
  deriving DecidableEq, Repr

inductive Node
  | element (tag : Tag) (children : List Node)
  | text (content : Text)
  | characterData (content : Text)
  | reference (name : Text)
  | comment
  | instruction

structure Element where
  tag : Tag
  children : List Node

def Tag.attribute? (tag : Tag) (name : QName) : Option Text :=
  (tag.attributes.find? fun a => a.name = name).map (·.value)

def Element.elements (e : Element) : List Element :=
  e.children.filterMap fun
    | .element tag children => some ⟨tag, children⟩
    | _ => none

/-- The namespaces in scope, the innermost declaration first. -/
abbrev Scope := List (Option Text × Text)

def Tag.scope (tag : Tag) (outer : Scope) : Scope :=
  tag.namespaces ++ outer

/-- The namespace that a prefix is bound to; without prefix, the default one. -/
def Scope.find? (scope : Scope) (binder : Option Text) : Option Text :=
  if binder = some "xml".toList then some xmlSpace
  else
    match scope.lookup binder with
    | some [] => none
    | found => found

structure Document where
  root : Element

end XmlCheck.Xml
