import XmlCheck.Batch
import XmlCheck.Settings

/-!
The command line: a command is read from its arguments and run in its surroundings, which gives what
it writes and how it ends.
-/

namespace XmlCheck

def programVersion : Text := "0.1.0"

inductive Command
  | help
  | version
  | check (paths : List Text)
  deriving DecidableEq, Repr

inductive CommandFailure
  | settings (failure : SettingsFailure)
  | files (cause : FileError)
  | markup (fault : Console.MarkupFault)
  deriving DecidableEq, Repr

def CommandFailure.message : CommandFailure → Text
  | .settings failure => failure.message
  | .files cause => cause.message
  | .markup fault => fault.message

inductive CommandEnding
  | exit (status : Nat)
  | refused (error : SettingsError)
  | broken (failure : CommandFailure)
  deriving DecidableEq, Repr

structure CommandResult where
  output : Text := []
  ending : CommandEnding
  deriving DecidableEq, Repr

def misuseStatus : Nat := 2

def CommandEnding.status? : CommandEnding → Option Nat
  | .exit status => some status
  | .refused _ => some misuseStatus
  | .broken _ => none

namespace Command

def optionsEnd : Text := "--"

def helpOption : Text := "--help"

def isOption (argument : Text) : Bool :=
  argument.head? == some '-' && 1 < argument.length

/-- The options before the first word: whether help is wanted, and what starts with the word. -/
def leadingOptions : (wantsHelp : Bool) → List Text → Option (Bool × List Text)
  | wantsHelp, [] => some (wantsHelp, [])
  | wantsHelp, argument :: rest =>
    if argument == optionsEnd then some (wantsHelp, rest)
    else if argument == helpOption then leadingOptions true rest
    else if isOption argument then none
    else some (wantsHelp, argument :: rest)

def scatteredOptions : (wantsHelp : Bool) → List Text → Option (Bool × List Text)
  | wantsHelp, [] => some (wantsHelp, [])
  | wantsHelp, argument :: rest =>
    if argument == optionsEnd then some (wantsHelp, rest)
    else if argument == helpOption then scatteredOptions true rest
    else if isOption argument then none
    else (scatteredOptions wantsHelp rest).map fun read => (read.1, argument :: read.2)

def ofName? (name : Text) (words : List Text) : Option Command :=
  if name == "version" then if words.isEmpty then some .version else none
  else if name == "xml:validate" then if words.isEmpty then none else some (.check words)
  else none

def names : List Text :=
  ["version".toList, "xml:validate".toList]

def ofArguments? (arguments : List Text) : Option Command :=
  match leadingOptions false arguments with
  | none => none
  | some (true, _) => some .help
  | some (false, []) => none
  | some (false, name :: rest) =>
    if names.contains name then
      match scatteredOptions false rest with
      | none => none
      | some (true, _) => some .help
      | some (false, words) => ofName? name words
    else none

def usage : Text :=
  ("xml:validate PATHS...   Validates an XML file against its configured schema.\n" : Text) ++
    "version                 Print CLI version.\n"

def reporterOf (around : Surroundings) (settings : Settings) : Reporter :=
  if settings.annotates then .annotations else .console false around.pictures

def checkFound (settings : Settings) (pipeline : Pipeline) (around : Surroundings)
    (found : Discovery.Found) : CommandResult :=
  let steps := ({} : Batch).process pipeline around.files around.here found.entries
  match found.failure with
  | none =>
    let (written, last) := Batch.tell (reporterOf around settings) {} steps
    match written.fault with
    | some fault => ⟨written.text, .broken (.markup fault)⟩
    | none => ⟨written.text, .exit last.summary.exitCode⟩
  | some cause =>
    let written := (Batch.tell (reporterOf around settings) {} steps.dropLast).1
    match written.fault with
    | some fault => ⟨written.text, .broken (.markup fault)⟩
    | none => ⟨written.text, .broken (.files cause)⟩

def checkPaths (around : Surroundings) (paths : List Text) : CommandResult :=
  match Settings.load around none with
  | .error (.refused error) => { ending := .refused error }
  | .error failure => { ending := .broken (.settings failure) }
  | .ok settings =>
    match settings.pipeline around.files with
    | .error cause => { ending := .broken (.files cause) }
    | .ok pipeline =>
      checkFound settings pipeline around
        (Discovery.ofPaths around.files around.here (.ofParts settings.root) settings.exclusions
          (paths.map .ofText))

def run (around : Surroundings) : Command → CommandResult
  | .help => ⟨usage, .exit 0⟩
  | .version => ⟨programVersion ++ ['\n'], .exit 0⟩
  | .check paths => checkPaths around paths

def runArguments (around : Surroundings) (arguments : List Text) : CommandResult :=
  match ofArguments? arguments with
  | some command => command.run around
  | none => { ending := .exit misuseStatus }

end Command

end XmlCheck
