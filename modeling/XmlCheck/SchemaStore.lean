import XmlCheck.Resolver
import XmlCheck.Schema.Loading
import XmlCheck.Schema.Validation

/-!
What is remembered from one document to the next: the files that identifiers were found to stand
for, and the schemas that were loaded. Only success is remembered, so what failed is tried again.
-/

namespace XmlCheck

open Schema

/-- The remembered files of identifiers, and the remembered schemas by canonical paths. -/
structure SchemaStore where
  places : List (Text × List Text) := []
  schemas : List (List Text × Schema) := []

inductive LoadFailure
  | schema (error : SchemaLoadError)
  | unreadable (cause : FileError)
  deriving DecidableEq, Repr

def LoadFailure.message : LoadFailure → Text
  | .schema error => error.message
  | .unreadable cause => cause.message

namespace SchemaStore

def place? (store : SchemaStore) (resolver : Resolver) (tree : FileTree) (identifier : Text) :
    Except ResolveFailure (List Text) :=
  match store.places.lookup identifier with
  | some place => .ok place
  | none => resolver.locate tree identifier

def rememberPlace (store : SchemaStore) (resolver : Resolver) (tree : FileTree)
    (identifier : Text) : SchemaStore :=
  match store.places.lookup identifier, resolver.locate tree identifier with
  | none, .ok place => { store with places := (identifier, place) :: store.places }
  | _, _ => store

def resolve (store : SchemaStore) (resolver : Resolver) (tree : FileTree) (identifier : Text) :
    Except ResolveFailure (List Text) × SchemaStore :=
  (store.place? resolver tree identifier, store.rememberPlace resolver tree identifier)

def identifierScheme : Text := "urn:"

def isIdentifier (address : Text) : Bool :=
  identifierScheme.isPrefixOf address

/-- The document that a schema asks for: identifiers are resolved if there is a resolver, and other
addresses are paths. An identifier that leads to no file is taken for a path as well. -/
def fetch (store : SchemaStore) (resolver : Option Resolver) (tree : FileTree) (here : List Text)
    (address : Text) : Option FetchedDocument :=
  match resolver, isIdentifier address with
  | some resolver, true =>
    match store.place? resolver tree address with
    | .ok place => fetchFile tree here (FilePath.ofParts place).toText
    | .error (.unresolved _) => fetchFile tree here address
    | .error (.unreadable _) => none
  | _, _ => fetchFile tree here address

def rememberAsked (store : SchemaStore) (resolver : Option Resolver) (tree : FileTree)
    (asked : List Text) : SchemaStore :=
  match resolver with
  | none => store
  | some resolver =>
    (asked.filter isIdentifier).foldl (fun store a => store.rememberPlace resolver tree a) store

/-- How the path of a schema is shown: from the project root if there is a resolver. -/
def shownPlace (resolver : Option Resolver) (place : List Text) : Text :=
  match resolver with
  | some resolver => resolver.shownPlace place
  | none => (FilePath.ofParts place).toText

def loadPlace (store : SchemaStore) (resolver : Option Resolver) (tree : FileTree)
    (here place : List Text) : Except SchemaLoadError Schema × SchemaStore :=
  match store.schemas.lookup place with
  | some schema => (.ok schema, store)
  | none =>
    let loading := loadFile (store.fetch resolver tree here) tree place
    let store := store.rememberAsked resolver tree loading.asked
    match loading.result with
    | .ok schema => (.ok schema, { store with schemas := (place, schema) :: store.schemas })
    | .error cause => (.error ⟨place, shownPlace resolver place, cause⟩, store)

def load (store : SchemaStore) (resolver : Option Resolver) (tree : FileTree) (here : List Text)
    (path : FilePath) : Except LoadFailure Schema × SchemaStore :=
  match tree.canonical here path with
  | .error cause => (.error (.unreadable cause), store)
  | .ok place =>
    let (result, store) := store.loadPlace resolver tree here place
    (result.mapError .schema, store)

end SchemaStore

def Schema.diagnostics (schema : Schema) (document : Xml.Document) (file : Text) :
    Except CheckFailure (List Diagnostic) :=
  (schema.violations document).map fun violations =>
    violations.map fun v => Diagnostic.labelled file v.spot.line v.message

end XmlCheck
