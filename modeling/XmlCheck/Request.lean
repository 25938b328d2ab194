import XmlCheck.File.Tree

/-!
What is asked to be checked: a document that is at hand or a file that is read when its turn comes,
and files that were named although they are on the exclusion list.
-/

namespace XmlCheck

structure Request where
  displayName : Text
  content : Option (List UInt8) := none
  path : Option FilePath := none
  deriving DecidableEq, Repr

inductive LoadError
  | nothingGiven (displayName : Text)
  | unreadable (cause : FileError)
  deriving DecidableEq, Repr

def LoadError.message : LoadError → Text
  | .nothingGiven name => ("No content or path given for " : Text) ++ name
  | .unreadable cause => cause.message

namespace Request

def source (request : Request) : Text :=
  match request.path with
  | some path => path.toText
  | none => request.displayName

def load (tree : FileTree) (here : List Text) (request : Request) :
    Except LoadError (List UInt8) :=
  match request.content, request.path with
  | some content, _ => .ok content
  | none, none => .error (.nothingGiven request.displayName)
  | none, some path => (tree.read here path).mapError .unreadable

end Request

inductive BatchEntry
  | request (request : Request)
  | excluded (displayName : Text)
  deriving DecidableEq, Repr

def BatchEntry.displayName : BatchEntry → Text
  | .request r => r.displayName
  | .excluded name => name

end XmlCheck
