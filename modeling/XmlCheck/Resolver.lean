import XmlCheck.File.Tree
import XmlCheck.Urn

/-!
From identifiers to schema files. Components and modules are registered with directories below a
project root, or anywhere if they are given by absolute paths; a path in an identifier may not lead
upwards.
-/

namespace XmlCheck

inductive ResolutionCause
  | malformed (fault : UrnFault)
  | unknownModule (name : Text)
  | unknownComponent (key : Text)
  | leavesRoot
  | noSuchFile (shown : Text)
  deriving DecidableEq, Repr

def ResolutionCause.message : ResolutionCause → Text
  | malformed .notUrn => "not a schema URN"
  | malformed .badModule => "module URNs need '<Module_Name>:<path>'"
  | unknownModule name => ("module " : Text) ++ name ++ " is not registered"
  | unknownComponent key => ("component " : Text) ++ key ++ " is not registered"
  | leavesRoot => "schema path must stay inside its root"
  | noSuchFile shown => ("file " : Text) ++ shown ++ " does not exist"

structure ResolutionError where
  identifier : Text
  cause : ResolutionCause
  deriving DecidableEq, Repr

def ResolutionError.message (error : ResolutionError) : Text :=
  ("Cannot resolve schema '" : Text) ++ error.identifier ++ "': " ++ error.cause.message

inductive ResolveFailure
  | unresolved (error : ResolutionError)
  | unreadable (cause : FileError)
  deriving DecidableEq, Repr

def ResolveFailure.message : ResolveFailure → Text
  | unresolved error => error.message
  | unreadable cause => cause.message

/-- The registered directories, all of them canonical, and the project root. Components are known by
vendor and name in lower case. -/
structure Resolver where
  root : List Text
  components : List (Text × List Text)
  modules : List (Text × List Text)
  deriving DecidableEq, Repr

namespace Resolver

def placesOf (tree : FileTree) (root : List Text) :
    List (Text × Text) → Except FileError (List (Text × List Text))
  | [] => .ok []
  | (key, value) :: rest =>
    match tree.canonical root (.ofText value), placesOf tree root rest with
    | .error e, _ => .error e
    | _, .error e => .error e
    | .ok place, .ok places => .ok ((key, place) :: places)

/-- The resolver of a project root and its tables. Of entries with the same key the last counts. -/
def ofTables (tree : FileTree) (here : List Text) (root : FilePath)
    (components modules : List (Text × Text)) : Except FileError Resolver :=
  match tree.canonical here root with
  | .error e => .error e
  | .ok root =>
    match placesOf tree root components, placesOf tree root modules with
    | .error e, _ => .error e
    | _, .error e => .error e
    | .ok components, .ok modules =>
      .ok ⟨root, (components.map fun c => (Text.lower c.1, c.2)).reverse, modules.reverse⟩

def shownPlace (resolver : Resolver) (place : List Text) : Text :=
  match FilePath.below? resolver.root place with
  | some parts => (FilePath.mk .here parts).toText
  | none => (FilePath.ofParts place).toText

def displayPath (resolver : Resolver) (tree : FileTree) (here : List Text) (path : FilePath) :
    Except FileError Text :=
  (tree.canonical here path).map resolver.shownPlace

def componentKey (vendor component : Text) : Text :=
  vendor ++ ':' :: component

def base? (resolver : Resolver) : SchemaUrn → Except ResolutionCause (List Text)
  | .module name _ =>
    match resolver.modules.lookup name with
    | some place => .ok place
    | none => .error (.unknownModule name)
  | .component vendor name _ =>
    let key := componentKey vendor name
    match resolver.components.lookup key with
    | some place => .ok place
    | none => .error (.unknownComponent key)

def target (resolver : Resolver) (identifier : Text) :
    Except ResolutionCause (List Text × List Text) :=
  match SchemaUrn.ofText identifier with
  | .error fault => .error (.malformed fault)
  | .ok urn =>
    match resolver.base? urn with
    | .error cause => .error cause
    | .ok base =>
      let path := FilePath.ofText urn.path
      if path.isAbsolute || path.parts.contains ['.', '.'] then .error .leavesRoot
      else .ok (base, path.parts)

def locate (resolver : Resolver) (tree : FileTree) (identifier : Text) :
    Except ResolveFailure (List Text) :=
  let refuse (cause : ResolutionCause) : Except ResolveFailure (List Text) :=
    .error (.unresolved ⟨identifier, cause⟩)
  match resolver.target identifier with
  | .error cause => refuse cause
  | .ok (base, parts) =>
    match tree.canonical [] (.ofParts (base ++ parts)) with
    | .error e => .error (.unreadable e)
    | .ok place =>
      match tree.isFile [] (.ofParts place) with
      | .error e => .error (.unreadable e)
      | .ok true => .ok place
      | .ok false => refuse (.noSuchFile (resolver.shownPlace place))

end Resolver

end XmlCheck
