import XmlCheck.Schema.Literal

/-!
The paths that rules about keys are written with: alternatives of steps down to elements, the last
one perhaps to an attribute, and each alternative perhaps at any depth.
-/

namespace XmlCheck.Schema

inductive NameTest
  | any
  | inSpace (space : Text)
  | name (name : Xml.QName)
  deriving DecidableEq, Repr

def NameTest.holds : NameTest → Xml.QName → Bool
  | any, _ => true
  | inSpace space, q => q.space = some space
  | name n, q => n = q

/-- One alternative of a path: the steps down, and at the end perhaps one to an attribute. -/
structure KeyPath where
  isDeep : Bool
  steps : List NameTest
  attributeTest : Option NameTest := none
  deriving DecidableEq, Repr

namespace KeyPath

/-- The test that a text stands for. Names without prefix have no namespace. -/
def test? (scope : Xml.Scope) (text : Text) : Option NameTest :=
  if text = ['*'] then some .any
  else
    match Text.splitOn ':' text with
    | [localName] => if Xml.isPlainName localName then some (.name ⟨none, localName⟩) else none
    | [binder, localName] =>
      match scope.find? (some binder) with
      | none => none
      | some space =>
        if localName = ['*'] then some (.inSpace space)
        else if Xml.isPlainName localName then some (.name ⟨some space, localName⟩)
        else none
    | _ => none

def steps? (scope : Xml.Scope) : List Text → Option (List NameTest × Option NameTest)
  | [] => some ([], none)
  | text :: rest =>
    let text := Literal.trim text
    if text = ['.'] then steps? scope rest
    else
      let attribute? := (Text.after? ['@'] text).or (Text.after? ("attribute::" : Text) text)
      match attribute?, rest with
      | some name, [] => (test? scope (Literal.trim name)).map fun t => ([], some t)
      | some _, _ => none
      | none, _ =>
        let name := (Text.after? ("child::" : Text) text).getD text
        match test? scope (Literal.trim name), steps? scope rest with
        | some t, some (ts, a) => some (t :: ts, a)
        | _, _ => none

def ofText? (scope : Xml.Scope) (text : Text) : Option KeyPath :=
  let text := Literal.trim text
  let deep? := Text.after? (".//" : Text) text
  (steps? scope (Text.splitOn '/' (deep?.getD text))).map fun r => ⟨deep?.isSome, r.1, r.2⟩

/-- Reads a path; what has no form is left out. -/
def allOfText (scope : Xml.Scope) (text : Text) : List KeyPath :=
  (Text.splitOn '|' text).filterMap (ofText? scope)

/-- Whether steps lead along a row of names, from the first to the last one. -/
def matchesRow : List NameTest → List Xml.QName → Bool
  | [], [] => true
  | t :: ts, q :: qs => t.holds q && matchesRow ts qs
  | _, _ => false

def leadsTo (path : KeyPath) (row : List Xml.QName) : Bool :=
  if path.isDeep then
    let above := row.length - path.steps.length
    path.steps.length ≤ row.length && matchesRow path.steps (row.drop above)
  else matchesRow path.steps row

end KeyPath

end XmlCheck.Schema
