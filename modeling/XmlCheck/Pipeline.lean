import XmlCheck.Declaration
import XmlCheck.Outcome
import XmlCheck.Request
import XmlCheck.SchemaStore

/-!
One document through all stages: its content is had, the schema that it declares is looked for, its
form is checked, the schema is found and loaded, and the document is held against it. The first
stage that fails settles the outcome.
-/

namespace XmlCheck

open Schema

/-- What documents are checked with. Schemas that ask for others by identifiers are served by the
resolver only if `aidsSchemas` holds; without it they are shown by their full paths as well. -/
structure Pipeline where
  resolver : Resolver
  aidsSchemas : Bool := true
  policy : NoSchemaPolicy := .valid
  deriving DecidableEq, Repr

inductive RunFailure
  | content (cause : LoadError)
  | files (cause : FileError)
  | check (cause : CheckFailure)
  deriving DecidableEq, Repr

def RunFailure.message : RunFailure → Text
  | content cause => cause.message
  | files cause => cause.message
  | check cause => cause.message

namespace Pipeline

def aid (pipeline : Pipeline) : Option Resolver :=
  if pipeline.aidsSchemas then some pipeline.resolver else none

/-- The identifier that a document declares: the one that its text shows, or else the one that its
root has. -/
def identifier? (content : List UInt8) (document : Xml.Document) : Option Text :=
  (Declaration.scanOctets? content).or document.declaredSchema?

/-- How a schema is told of once its file is found. A file may have been found long ago, so its path
is made canonical again before it is shown. -/
def reference (pipeline : Pipeline) (tree : FileTree) (identifier : Text) (place : List Text) :
    Except FileError SchemaReference :=
  (pipeline.resolver.displayPath tree [] (.ofParts place)).map fun displayPath =>
    { identifier, resolved := some (.ofParts place), displayPath }

def checkedOutcome (file : Text) (reference : SchemaReference) (diagnostics : List Diagnostic) :
    Outcome :=
  { file, isValid := diagnostics.isEmpty, diagnostics, schema := some reference }

def checkAgainst (pipeline : Pipeline) (tree : FileTree) (here : List Text) (store : SchemaStore)
    (request : Request) (document : Xml.Document) (reference : SchemaReference)
    (place : List Text) : Except RunFailure Outcome × SchemaStore :=
  let file := request.displayName
  match store.load pipeline.aid tree here (.ofParts place) with
  | (.error (.unreadable cause), store) => (.error (.files cause), store)
  | (.error (.schema error), store) =>
    (.ok (.failed file request.source error.message (some reference)), store)
  | (.ok schema, store) =>
    match schema.diagnostics document file with
    | .error cause => (.error (.check cause), store)
    | .ok diagnostics => (.ok (checkedOutcome file reference diagnostics), store)

def checkDeclared (pipeline : Pipeline) (tree : FileTree) (here : List Text) (store : SchemaStore)
    (request : Request) (document : Xml.Document) (identifier : Text) :
    Except RunFailure Outcome × SchemaStore :=
  match store.resolve pipeline.resolver tree identifier with
  | (.error (.unreadable cause), store) => (.error (.files cause), store)
  | (.error (.unresolved error), store) =>
    (.ok (.failed request.displayName request.source error.message (some { identifier })), store)
  | (.ok place, store) =>
    match pipeline.reference tree identifier place with
    | .error cause => (.error (.files cause), store)
    | .ok reference => pipeline.checkAgainst tree here store request document reference place

def checkContent (pipeline : Pipeline) (tree : FileTree) (here : List Text) (store : SchemaStore)
    (request : Request) (content : List UInt8) : Except RunFailure Outcome × SchemaStore :=
  let file := request.displayName
  match checkForm content file with
  | .broken first more => (.ok { file, isValid := false, diagnostics := first :: more }, store)
  | .document document =>
    match identifier? content document with
    | none => (.ok (.withoutSchema pipeline.policy file), store)
    | some identifier => pipeline.checkDeclared tree here store request document identifier

def run (pipeline : Pipeline) (tree : FileTree) (here : List Text) (store : SchemaStore)
    (request : Request) : Except RunFailure Outcome × SchemaStore :=
  match request.load tree here with
  | .error cause => (.error (.content cause), store)
  | .ok content => pipeline.checkContent tree here store request content

end Pipeline

end XmlCheck
