import XmlCheck.Diagnostic
import XmlCheck.File.Path

/-!
What becomes of one file, and the counts over many files. A file is counted unless its outcome says
otherwise; a counted file is valid or not.
-/

namespace XmlCheck

inductive NoSchemaPolicy
  | valid
  | invalid
  | skip
  deriving DecidableEq, Repr

def NoSchemaPolicy.name : NoSchemaPolicy → Text
  | .valid => "valid"
  | .invalid => "invalid"
  | .skip => "skip"

def NoSchemaPolicy.ofName? (name : Text) : Option NoSchemaPolicy :=
  [NoSchemaPolicy.valid, .invalid, .skip].find? fun policy => policy.name = name

structure SchemaReference where
  identifier : Text
  resolved : Option FilePath := none
  displayPath : Text := []
  deriving DecidableEq, Repr

inductive Status
  | valid
  | warning
  | invalid
  deriving DecidableEq, Repr

def Status.name : Status → Text
  | .valid => "valid"
  | .warning => "warning"
  | .invalid => "invalid"

structure Outcome where
  file : Text
  isValid : Bool
  diagnostics : List Diagnostic := []
  schema : Option SchemaReference := none
  counted : Bool := true
  deriving DecidableEq, Repr

namespace Outcome

def errors (outcome : Outcome) : List Diagnostic :=
  outcome.diagnostics.filter fun d => d.severity = .error

def warnings (outcome : Outcome) : List Diagnostic :=
  outcome.diagnostics.filter fun d => d.severity = .warning

/-- Invalid if it says so or has an error, else a warning if it has one. -/
def status (outcome : Outcome) : Status :=
  if !outcome.isValid || !outcome.errors.isEmpty then .invalid
  else if !outcome.warnings.isEmpty then .warning
  else .valid

def failed (file source error : Text) (schema : Option SchemaReference) : Outcome :=
  { file, isValid := false, diagnostics := [.couldNotProcess file source error], schema }

/-- The outcome of a file that was named but is on the exclusion list. -/
def excluded (name : Text) : Outcome :=
  { file := name
    isValid := true
    diagnostics := [.make name
      (("File \"" : Text) ++ name ++ "\" is not a schema-bearing document.") (some 0) .warning]
    counted := false }

def withoutSchema (policy : NoSchemaPolicy) (file : Text) : Outcome :=
  { file
    isValid := policy ≠ .invalid
    diagnostics := [.make file
      (("XML file \"" : Text) ++ file ++ "\" does not have a schema defined") (some 0) .warning]
    counted := policy ≠ .skip }

end Outcome

structure Summary where
  total : Int := 0
  valid : Int := 0
  deriving DecidableEq, Repr

namespace Summary

def record (summary : Summary) (outcome : Outcome) : Summary :=
  if outcome.counted then
    { total := summary.total + 1
      valid := if outcome.isValid then summary.valid + 1 else summary.valid }
  else summary

def success (summary : Summary) : Bool :=
  summary.valid = summary.total

def exitCode (summary : Summary) : Nat :=
  if summary.success then 0 else 1

def text (summary : Summary) : Text :=
  Text.ofInt summary.valid ++ " of " ++ Text.ofInt summary.total ++
    (if summary.total = 1 then " file is valid" else " files are valid")

end Summary

end XmlCheck
