import XmlCheck.Discovery
import XmlCheck.Form.KeyText
import XmlCheck.Form.Reading
import XmlCheck.Pipeline
import XmlCheck.Surroundings

/-!
The settings of a run: what a settings file says, with what the environment says put over it. A
relative project root is seen from the directory of the settings file.
-/

namespace XmlCheck

structure Settings where
  /-- The canonical place of the project root. -/
  root : List Text
  components : List (Text × Text) := []
  modules : List (Text × Text) := []
  exclusions : List Text := defaultExclusions
  policy : NoSchemaPolicy := .valid
  annotates : Bool := false
  deriving DecidableEq, Repr

inductive SettingsError
  | unreadable (path : FilePath) (cause : FileError)
  | notYaml (path : FilePath) (fault : Yaml.YamlFault)
  | notMapping (path : FilePath)
  | invalid (faults : List Fault)
  deriving DecidableEq, Repr

def SettingsError.message : SettingsError → Text
  | .unreadable path cause => ("Cannot read " : Text) ++ path.toText ++ ": " ++ cause.message
  | .notYaml path _ => ("Cannot read " : Text) ++ path.toText
  | .notMapping path => path.toText ++ " must contain a mapping at the top level"
  | .invalid _ => "Invalid settings"

inductive SettingsFailure
  | refused (error : SettingsError)
  | notText (failure : Utf8.Failure)
  | noValue (fault : Yaml.ValueFault)
  | unusable (field : Text)
  | files (cause : FileError)
  deriving DecidableEq, Repr

def SettingsFailure.message : SettingsFailure → Text
  | .refused error => error.message
  | .notText failure => failure.message
  | .noValue fault => fault.message
  | .unusable field => ("Cannot use the value of " : Text) ++ field
  | .files cause => cause.message

namespace Settings

def fileName : Text := ".xmlvalidator.yaml"

def fileVariable : Text := "XMLVALIDATOR_CONFIG"

def rootVariable : Text := "XMLVALIDATOR_PROJECT_ROOT"

def policyVariable : Text := "XMLVALIDATOR_NO_SCHEMA_POLICY"

def annotationsVariable : Text := "GITHUB_ACTIONS"

/-- The value of a variable, unless it is empty. -/
def filled? (around : Surroundings) (name : Text) : Option Text :=
  (around.valueOf? name).filter fun value => !value.isEmpty

/-- The words that leave a variable off. -/
def offWords : List Text :=
  ["".toList, "0".toList, "false".toList, "no".toList]

def isOn (around : Surroundings) (name : Text) : Bool :=
  !offWords.contains (Text.lower (Text.trim ((around.valueOf? name).getD [])))

/-- The settings file: the one that is asked for, or that the environment names, or that of the
working directory. The last one may be missing if the environment is silent. -/
def file? (around : Surroundings) (asked : Option FilePath) :
    Except SettingsFailure (Option FilePath) :=
  let usual := FilePath.ofParts (around.here ++ [fileName])
  match asked, around.valueOf? fileVariable with
  | some path, _ => .ok (some path)
  | none, some value => .ok (some (if value.isEmpty then usual else .ofText value))
  | none, none =>
    match around.files.leadsSomewhere around.here usual with
    | .ok true => .ok (some usual)
    | .ok false => .ok none
    | .error cause => .error (.files cause)

/-- The entries of a datum that has to be a mapping; null is an empty one. -/
def entriesOf (path : FilePath) : Datum → Except SettingsFailure (List (Datum × Datum))
  | .null => .ok []
  | .mapping entries => .ok entries
  | _ => .error (.refused (.notMapping path))

def optionsOf (reader : Yaml.Reader) (path : FilePath) (content : List UInt8) :
    Except SettingsFailure (List (Datum × Datum)) :=
  match Utf8.decode content with
  | .error failure => .error (.notText failure)
  | .ok text =>
    match reader.read (Text.withLineFeeds text) with
    | .error (.fault fault) => .error (.refused (.notYaml path fault))
    | .error (.value fault) => .error (.noValue fault)
    | .ok datum => entriesOf path datum

def readOptions (around : Surroundings) (path : FilePath) :
    Except SettingsFailure (List (Datum × Datum)) :=
  match around.files.read around.here path with
  | .error .nullByte => .error (.files .nullByte)
  | .error cause => .error (.refused (.unreadable path cause))
  | .ok content => optionsOf around.reader path content

/-- What a datum lists: the items of a list, the keys of a mapping, the characters of a text, the
numbers of octets. -/
def itemsOf? : Datum → Option (List Datum)
  | .list items => some items
  | .mapping entries => some (entries.map (·.1))
  | .text value => some (value.map fun c => .text [c])
  | .octets value => some (value.map fun octet => .integer octet.toNat)
  | _ => none

def isDefault (item : Datum) : Bool :=
  defaultExclusions.any fun name => item.isName name

def exclusionsField : Text := "excluded_files"

def exclusionItems (options : List (Datum × Datum)) : Except SettingsFailure (List Datum) :=
  let added := (Datum.field? exclusionsField options).getD .null
  if added.isVoid then .ok (defaultExclusions.map .text)
  else
    match itemsOf? added with
    | some items => .ok (defaultExclusions.map .text ++ items.filter fun item => !isDefault item)
    | none => .error (.unusable exclusionsField)

def rootField : Text := "project_root"

def givenRoot? (around : Surroundings) (options : List (Datum × Datum)) :
    Except SettingsFailure (Option FilePath) :=
  match filled? around rootVariable with
  | some value => .ok (some (.ofText value))
  | none =>
    match (Datum.field? rootField options).getD .null with
    | .text value => .ok (if value.isEmpty then none else some (.ofText value))
    | datum => if datum.isVoid then .ok none else .error (.unusable rootField)

def rootOf (around : Surroundings) (base : List Text) (options : List (Datum × Datum)) :
    Except SettingsFailure (List Text) :=
  match givenRoot? around options with
  | .error failure => .error failure
  | .ok given =>
    (around.files.canonical base (given.getD ⟨.here, []⟩)).mapError .files

def componentsField : Text := "components"

def modulesField : Text := "modules"

/-- A text that maps to a text. A key that is none is told by its own mark. -/
def entry (key value : Datum) : Reading (Text × Text) :=
  Reading.under key.keyText <|
    Reading.combine Prod.mk (Reading.under "[key]" key.toText) value.toText

def toTable : Datum → Reading (List (Text × Text))
  | .mapping entries => entries.foldr
      (fun e table => Reading.combine List.cons (entry e.1 e.2) table) (.ok [])
  | _ => Reading.fault .notMapping

def policyField : Text := "no_schema_policy"

/-- The datum for the policy: the word from the environment, or the option. -/
def policyDatum? (around : Surroundings) (options : List (Datum × Datum)) : Option Datum :=
  match filled? around policyVariable with
  | some value => some (.text (Text.lower (Text.trim value)))
  | none => Datum.field? policyField options

def policyOf (around : Surroundings) (options : List (Datum × Datum)) : Reading NoSchemaPolicy :=
  match policyDatum? around options with
  | some datum => Reading.under policyField (datum.toChoice NoSchemaPolicy.ofName?)
  | none => .ok .valid

def ofOptions (around : Surroundings) (root : List Text) (exclusions : List Datum)
    (options : List (Datum × Datum)) : Reading Settings :=
  Reading.record (fun components modules exclusions policy =>
      { root, components, modules, exclusions, policy,
        annotates := isOn around annotationsVariable })
    |> Reading.andField (Reading.optional componentsField [] toTable options)
    |> Reading.andField (Reading.optional modulesField [] toTable options)
    |> Reading.andField (Reading.under exclusionsField
        (Reading.eachFrom Datum.toText 0 exclusions))
    |> Reading.andField (policyOf around options)

theorem ofOptions_eq_ok_iff {around : Surroundings} {root : List Text} {exclusions : List Datum}
    {options : List (Datum × Datum)} {settings : Settings} :
    ofOptions around root exclusions options = .ok settings ↔
      ∃ components modules names policy,
        Reading.optional componentsField [] toTable options = .ok components ∧
        Reading.optional modulesField [] toTable options = .ok modules ∧
        Reading.under exclusionsField (Reading.eachFrom Datum.toText 0 exclusions) = .ok names ∧
        policyOf around options = .ok policy ∧
        settings = Settings.mk root components modules names policy
          (isOn around annotationsVariable) := by
  simp only [ofOptions, Reading.andField, Reading.record, Reading.combine_eq_ok, Except.ok.injEq]
  constructor
  · rintro ⟨_, policy, ⟨_, names, ⟨_, modules, ⟨_, components, rfl, hcomponents, rfl⟩, hmodules,
      rfl⟩, hnames, rfl⟩, hpolicy, rfl⟩
    exact ⟨components, modules, names, policy, hcomponents, hmodules, hnames, hpolicy, rfl⟩
  · rintro ⟨components, modules, names, policy, hcomponents, hmodules, hnames, hpolicy, rfl⟩
    exact ⟨_, policy, ⟨_, names, ⟨_, modules, ⟨_, components, rfl, hcomponents, rfl⟩, hmodules,
      rfl⟩, hnames, rfl⟩, hpolicy, rfl⟩

def settle (around : Surroundings) (base : List Text) (options : List (Datum × Datum)) :
    Except SettingsFailure Settings := do
  let exclusions ← exclusionItems options
  let root ← rootOf around base options
  (ofOptions around root exclusions options).mapError fun faults => .refused (.invalid faults)

def load (around : Surroundings) (asked : Option FilePath) : Except SettingsFailure Settings := do
  match ← file? around asked with
  | none => settle around around.here []
  | some path =>
    let options ← readOptions around path
    let place ← (around.files.canonical around.here path).mapError .files
    settle around place.dropLast options

def resolver (settings : Settings) (tree : FileTree) : Except FileError Resolver :=
  Resolver.ofTables tree [] (.ofParts settings.root) settings.components settings.modules

def pipeline (settings : Settings) (tree : FileTree) : Except FileError Pipeline :=
  (settings.resolver tree).map fun resolver => { resolver, policy := settings.policy }

end Settings

end XmlCheck
