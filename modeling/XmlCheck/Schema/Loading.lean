import XmlCheck.File.Tree
import XmlCheck.Schema.Assembly

/-!
Schemas from files. A schema file may fail to be read, to be well-formed or to be a valid schema;
the text of the failure names the file by the path that it is shown with, in place of its absolute
one.
-/

namespace XmlCheck.Schema

inductive LoadCause
  | unreadable (cause : FileError)
  | malformed (finding : Xml.Finding)
  | invalid (fault : SchemaFault)
  deriving DecidableEq, Repr

structure SchemaLoadError where
  place : List Text
  shown : Text
  cause : LoadCause
  deriving DecidableEq, Repr

namespace SchemaLoadError

def unreadableWords (path : Text) (cause : FileError) : Text :=
  match cause with
  | .isDirectory _ => cause.words
  | _ => ("failed to load \"" : Text) ++ path ++ "\": " ++ cause.words

def kind (error : SchemaLoadError) : Text :=
  match error.cause with
  | .unreadable _ => []
  | .malformed _ => "not well-formed: "
  | .invalid _ => "invalid schema: "

/-- The details of a failure, with paths in full. -/
def details (error : SchemaLoadError) : Text :=
  let path := FilePath.ofParts error.place
  match error.cause with
  | .unreadable cause =>
    ("Error reading file " : Text) ++ Facet.marked path.toText ++ ": " ++
      unreadableWords path.toText cause
  | .malformed finding =>
    let line := Text.ofNat finding.line
    finding.problem.message ++ ", line " ++ line ++ ", column " ++ Text.ofNat finding.column ++
      " (" ++ path.name ++ ", line " ++ line ++ ")"
  | .invalid fault => fault.message

/-- A text with the shown path of the file in place of its locations. The system's own form of the
path and the one with slashes are the same, so the path is looked for twice; the second search can
find what the first one has put together. -/
def scrubbed (error : SchemaLoadError) (text : Text) : Text :=
  let path := FilePath.ofParts error.place
  [path.toAddress, path.toText, path.toText].foldl
    (fun text location => Text.replaceAll location error.shown text) text

def message (error : SchemaLoadError) : Text :=
  ("Cannot load schema " : Text) ++ error.shown ++ ": " ++ error.kind ++
    error.scrubbed error.details

end SchemaLoadError

def fileScheme : Text := "file://"

def fetchFile (tree : FileTree) (here : List Text) (address : Text) : Option FetchedDocument :=
  let path := (Text.after? fileScheme address).getD address
  match tree.read here (.ofText path) with
  | .ok octets => some ⟨path, octets⟩
  | .error _ => none

/-- What the loading of a schema gives: the schema or the cause of the failure, and the addresses of
other documents that were asked for on the way. -/
structure Loading where
  result : Except LoadCause XmlCheck.Schema
  asked : List Text

def ofRoot (fetch : Text → Option FetchedDocument) (place : List Text) (root : Xml.Element) :
    Loading :=
  let path := (FilePath.ofParts place).toText
  let ((read, asked), components) := ((readComponents fetch path path root).run.run []).run {}
  let result : Except SchemaFault XmlCheck.Schema :=
    match read with
    | .error fault => .error fault
    | .ok _ => components.assemble
  ⟨result.mapError .invalid, asked⟩

def loadFile (fetch : Text → Option FetchedDocument) (tree : FileTree) (place : List Text) :
    Loading :=
  match tree.read [] (.ofParts place) with
  | .error cause => ⟨.error (.unreadable cause), []⟩
  | .ok octets =>
    let parsed := Xml.parse false octets
    match parsed.findings, parsed.root with
    | finding :: _, _ => ⟨.error (.malformed finding), []⟩
    | [], some root => ofRoot fetch place root
    | [], none => ⟨.error (.malformed ⟨.documentEmpty, 1, 1⟩), []⟩

end XmlCheck.Schema
