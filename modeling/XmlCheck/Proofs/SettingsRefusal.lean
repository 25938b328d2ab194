import Mathlib.Control.Monad.Basic
import XmlCheck.CommandLine
import XmlCheck.Proofs.ReadingFaults

/-!
# Which settings are refused

Settings that cannot be had should be refused, so that the command ends with the status for misuse.
Most failures are refusals: a file that cannot be read, that is no mapping or not in order, and
every fault in a value. What is not is told by `Workable`: the file has to be UTF-8 and its scalars
need values, the exclusions need items, the project root has to be a text, and the file system has
to answer for the places that are asked for. Nothing else makes the loading of settings break down.
-/

namespace XmlCheck

namespace Settings

/-! ### Orderly results -/

/-- A result that is there or else refused. -/
def Orderly {α : Type} (result : Except SettingsFailure α) : Prop :=
  ∀ failure, result = .error failure → ∃ error, failure = .refused error

section Orderly

variable {α β : Type}

theorem orderly_ok (value : α) : Orderly (.ok value) :=
  fun _ heq => nomatch heq

theorem orderly_refused (error : SettingsError) :
    Orderly (.error (.refused error) : Except SettingsFailure α) := by
  intro failure heq
  cases heq
  exact ⟨error, rfl⟩

theorem not_orderly {failure : SettingsFailure} (hfailure : ∀ error, failure ≠ .refused error) :
    ¬ Orderly (.error failure : Except SettingsFailure α) := by
  intro horderly
  obtain ⟨error, heq⟩ := horderly failure rfl
  exact hfailure error heq

theorem orderly_bind_iff {result : Except SettingsFailure α}
    {next : α → Except SettingsFailure β} :
    Orderly (result >>= next) ↔
      Orderly result ∧ ∀ value, result = .ok value → Orderly (next value) := by
  cases result with
  | error failure => exact ⟨fun h => ⟨fun _ heq => h _ (by cases heq; rfl), nofun⟩,
      fun h _ heq => h.1 _ (by cases heq; rfl)⟩
  | ok value =>
      exact ⟨fun h => ⟨orderly_ok value, fun _ heq => by cases heq; exact h⟩,
        fun h => h.2 value rfl⟩

theorem orderly_mapError_files_iff {result : Except FileError α} :
    Orderly (result.mapError SettingsFailure.files) ↔ ∃ value, result = .ok value := by
  cases result with
  | error cause => exact iff_of_false (not_orderly nofun) fun ⟨_, heq⟩ => nomatch heq
  | ok value => exact iff_of_true (orderly_ok value) ⟨value, rfl⟩

end Orderly

/-! ### Options -/

/-- A datum that has items to go through, or stands for none. -/
inductive Listable : Datum → Prop
  | void {datum : Datum} (void : datum.isVoid = true) : Listable datum
  | list {items : List Datum} : Listable (.list items)
  | mapping {entries : List (Datum × Datum)} : Listable (.mapping entries)
  | text {value : Text} : Listable (.text value)
  | octets {value : List UInt8} : Listable (.octets value)

theorem orderly_exclusionItems_iff (options : List (Datum × Datum)) :
    Orderly (exclusionItems options) ↔
      Listable ((Datum.field? exclusionsField options).getD .null) := by
  unfold exclusionItems
  generalize (Datum.field? exclusionsField options).getD .null = added
  dsimp only
  split
  · rename_i hvoid
    exact iff_of_true (orderly_ok _) (.void hvoid)
  · rename_i hvoid
    split
    · rename_i items hitems
      refine iff_of_true (orderly_ok _) ?_
      cases added with
      | list items => exact .list
      | mapping entries => exact .mapping
      | text value => exact .text
      | octets value => exact .octets
      | _ => cases hitems
    · rename_i hitems
      refine iff_of_false (not_orderly nofun) fun hlistable => ?_
      cases hlistable with
      | void h => exact hvoid h
      | list => cases hitems
      | mapping => cases hitems
      | text => cases hitems
      | octets => cases hitems

/-- A datum that names a directory, or none. -/
inductive RootLike : Datum → Prop
  | void {datum : Datum} (void : datum.isVoid = true) : RootLike datum
  | text {value : Text} : RootLike (.text value)

theorem orderly_givenRoot_iff (around : Surroundings) (options : List (Datum × Datum)) :
    Orderly (givenRoot? around options) ↔
      (filled? around rootVariable).isSome = true ∨
        RootLike ((Datum.field? rootField options).getD .null) := by
  unfold givenRoot?
  cases filled? around rootVariable with
  | some value => exact iff_of_true (orderly_ok _) (.inl rfl)
  | none =>
      generalize (Datum.field? rootField options).getD .null = datum
      dsimp only
      rw [Option.isSome_none, Bool.false_eq_true, false_or]
      split
      · exact iff_of_true (orderly_ok _) .text
      · rename_i htext
        split
        · rename_i hvoid
          exact iff_of_true (orderly_ok _) (.void hvoid)
        · rename_i hvoid
          refine iff_of_false (not_orderly nofun) fun hroot => ?_
          cases hroot with
          | void h => exact hvoid h
          | text => exact htext _ rfl

/-- Options that can be worked with, whether their values are in order or not. -/
structure Usable (around : Surroundings) (base : List Text) (options : List (Datum × Datum)) :
    Prop where
  exclusions : Listable ((Datum.field? exclusionsField options).getD .null)
  root : (filled? around rootVariable).isSome = true ∨
    RootLike ((Datum.field? rootField options).getD .null)
  place : ∀ given, givenRoot? around options = .ok given →
    ∃ place, around.files.canonical base (given.getD ⟨.here, []⟩) = .ok place

theorem orderly_rootOf_iff (around : Surroundings) (base : List Text)
    (options : List (Datum × Datum)) :
    Orderly (rootOf around base options) ↔
      Orderly (givenRoot? around options) ∧
        ∀ given, givenRoot? around options = .ok given →
          ∃ place, around.files.canonical base (given.getD ⟨.here, []⟩) = .ok place := by
  unfold rootOf
  cases givenRoot? around options with
  | error failure =>
      exact ⟨fun h => ⟨fun _ heq => h _ (by cases heq; rfl), nofun⟩,
        fun h _ heq => h.1 _ (by cases heq; rfl)⟩
  | ok given =>
      dsimp only
      rw [orderly_mapError_files_iff]
      exact ⟨fun h => ⟨orderly_ok given, fun _ heq => by cases heq; exact h⟩,
        fun h => h.2 given rfl⟩

theorem exists_exclusionItems {options : List (Datum × Datum)}
    (horderly : Orderly (exclusionItems options)) :
    ∃ items, exclusionItems options = .ok items := by
  unfold exclusionItems at horderly ⊢
  dsimp only at horderly ⊢
  split at horderly
  · rename_i hvoid
    exact ⟨_, if_pos hvoid⟩
  · rename_i hvoid
    split at horderly
    · exact ⟨_, if_neg hvoid⟩
    · exact absurd horderly (not_orderly nofun)

theorem orderly_settle_iff (around : Surroundings) (base : List Text)
    (options : List (Datum × Datum)) :
    Orderly (settle around base options) ↔ Usable around base options := by
  have hrest : ∀ exclusions root,
      Orderly ((ofOptions around root exclusions options).mapError fun faults =>
        SettingsFailure.refused (.invalid faults)) := by
    intro exclusions root
    cases ofOptions around root exclusions options with
    | ok settings => exact orderly_ok settings
    | error faults => exact orderly_refused _
  unfold settle
  simp only [orderly_bind_iff, hrest, implies_true, and_true]
  constructor
  · rintro ⟨hexclusions, hroot⟩
    obtain ⟨items, hitems⟩ := exists_exclusionItems hexclusions
    have hboth := (orderly_rootOf_iff around base options).mp (hroot items hitems)
    exact ⟨(orderly_exclusionItems_iff options).mp hexclusions,
      (orderly_givenRoot_iff around options).mp hboth.1, hboth.2⟩
  · rintro ⟨hexclusions, hroot, hplace⟩
    exact ⟨(orderly_exclusionItems_iff options).mpr hexclusions, fun _ _ =>
      (orderly_rootOf_iff around base options).mpr
        ⟨(orderly_givenRoot_iff around options).mpr hroot, hplace⟩⟩

/-! ### The settings file -/

/-- A path whose content, if there is one, is a text in UTF-8 that stands for data, or that is not
in order. -/
structure ReadsAsText (around : Surroundings) (path : FilePath) : Prop where
  noNull : around.files.read around.here path ≠ .error .nullByte
  text : ∀ content, around.files.read around.here path = .ok content →
    ∃ text, Utf8.decode content = .ok text ∧
      ∀ fault, around.reader.read (Text.withLineFeeds text) ≠ .error (.value fault)

theorem orderly_optionsOf_iff (reader : Yaml.Reader) (path : FilePath) (content : List UInt8) :
    Orderly (optionsOf reader path content) ↔
      ∃ text, Utf8.decode content = .ok text ∧
        ∀ fault, reader.read (Text.withLineFeeds text) ≠ .error (.value fault) := by
  unfold optionsOf
  cases Utf8.decode content with
  | error failure => exact iff_of_false (not_orderly nofun) fun ⟨_, heq, _⟩ => nomatch heq
  | ok text =>
      dsimp only
      split
      · rename_i fault hread
        exact iff_of_true (orderly_refused _) ⟨text, rfl, fun _ h => by rw [hread] at h; cases h⟩
      · rename_i fault hread
        refine iff_of_false (not_orderly nofun) ?_
        rintro ⟨_, heq, hvalue⟩
        cases heq
        exact hvalue fault hread
      · rename_i datum hread
        refine iff_of_true ?_ ⟨text, rfl, fun _ h => by rw [hread] at h; cases h⟩
        cases datum with
        | null => exact orderly_ok _
        | mapping entries => exact orderly_ok _
        | _ => exact orderly_refused _

theorem orderly_readOptions_iff (around : Surroundings) (path : FilePath) :
    Orderly (readOptions around path) ↔ ReadsAsText around path := by
  unfold readOptions
  split
  · rename_i hread
    exact iff_of_false (not_orderly nofun) fun h => h.noNull hread
  · rename_i cause hne hread
    refine iff_of_true (orderly_refused _) ⟨fun h => ?_, fun content h => ?_⟩
    · rw [hread] at h
      cases h
      exact hne rfl
    · rw [hread] at h
      cases h
  · rename_i content hread
    rw [orderly_optionsOf_iff]
    constructor
    · intro htext
      refine ⟨fun h => ?_, fun other h => ?_⟩
      · rw [hread] at h
        cases h
      · rw [hread] at h
        cases h
        exact htext
    · exact fun h => h.text content hread

/-- A settings file from which settings are read or which is refused. -/
structure UsableFile (around : Surroundings) (path : FilePath) : Prop where
  text : ReadsAsText around path
  options : ∀ options, readOptions around path = .ok options →
    ∃ place, around.files.canonical around.here path = .ok place ∧
      Usable around place.dropLast options

theorem orderly_fromFile_iff (around : Surroundings) (path : FilePath) :
    Orderly (do
      let options ← readOptions around path
      let place ← (around.files.canonical around.here path).mapError .files
      settle around place.dropLast options) ↔ UsableFile around path := by
  have hstep (options : List (Datum × Datum)) :
      Orderly (do
        let place ← (around.files.canonical around.here path).mapError .files
        settle around place.dropLast options) ↔
      ∃ place, around.files.canonical around.here path = .ok place ∧
        Usable around place.dropLast options := by
    rw [orderly_bind_iff, orderly_mapError_files_iff]
    cases around.files.canonical around.here path with
    | error cause => simp
    | ok place => simp [Except.mapError, orderly_settle_iff]
  rw [orderly_bind_iff, orderly_readOptions_iff]
  simp only [hstep]
  exact ⟨fun h => ⟨h.1, h.2⟩, fun h => ⟨h.text, h.options⟩⟩

/-- Whether there is a settings file in the working directory can be told, if that matters. -/
def Sought (around : Surroundings) (asked : Option FilePath) : Prop :=
  asked = none → around.valueOf? fileVariable = none →
    ∃ answer, around.files.leadsSomewhere around.here
      (.ofParts (around.here ++ [fileName])) = .ok answer

theorem orderly_file?_iff (around : Surroundings) (asked : Option FilePath) :
    Orderly (file? around asked) ↔ Sought around asked := by
  unfold file? Sought
  dsimp only
  split
  · exact iff_of_true (orderly_ok _) nofun
  · rename_i value hvalue
    exact iff_of_true (orderly_ok _) fun _ h => by rw [hvalue] at h; cases h
  · rename_i hvalue
    split
    · rename_i hfound
      exact iff_of_true (orderly_ok _) fun _ _ => ⟨_, hfound⟩
    · rename_i hfound
      exact iff_of_true (orderly_ok _) fun _ _ => ⟨_, hfound⟩
    · rename_i cause hfound
      refine iff_of_false (not_orderly nofun) fun h => ?_
      obtain ⟨answer, hanswer⟩ := h rfl hvalue
      rw [hfound] at hanswer
      cases hanswer

/-- Surroundings in which settings are loaded or refused. -/
structure Workable (around : Surroundings) (asked : Option FilePath) : Prop where
  sought : Sought around asked
  without : file? around asked = .ok none → Usable around around.here []
  file : ∀ path, file? around asked = .ok (some path) → UsableFile around path

theorem orderly_load_iff (around : Surroundings) (asked : Option FilePath) :
    Orderly (load around asked) ↔ Workable around asked := by
  unfold load
  rw [orderly_bind_iff, orderly_file?_iff]
  constructor
  · rintro ⟨hsought, hfile⟩
    exact ⟨hsought, fun hnone => (orderly_settle_iff _ _ _).mp (hfile none hnone),
      fun path hpath => (orderly_fromFile_iff around path).mp (hfile (some path) hpath)⟩
  · rintro ⟨hsought, hwithout, hfile⟩
    refine ⟨hsought, fun found hfound => ?_⟩
    cases found with
    | none => exact (orderly_settle_iff _ _ _).mpr (hwithout hfound)
    | some path => exact (orderly_fromFile_iff around path).mpr (hfile path hfound)

/-! ### Why settings are refused -/

/-- Why settings are refused: what the error says of the file or of its options is so. -/
inductive Reason (around : Surroundings) (asked : Option FilePath) : SettingsError → Prop
  | unreadable {path : FilePath} {cause : FileError}
      (file : file? around asked = .ok (some path))
      (unread : around.files.read around.here path = .error cause) :
      Reason around asked (.unreadable path cause)
  | notYaml {path : FilePath} {content : List UInt8} {text : Text} {fault : Yaml.YamlFault}
      (file : file? around asked = .ok (some path))
      (read : around.files.read around.here path = .ok content)
      (decoded : Utf8.decode content = .ok text)
      (faulty : around.reader.read (Text.withLineFeeds text) = .error (.fault fault)) :
      Reason around asked (.notYaml path fault)
  | notMapping {path : FilePath} {content : List UInt8} {text : Text} {datum : Datum}
      (file : file? around asked = .ok (some path))
      (read : around.files.read around.here path = .ok content)
      (decoded : Utf8.decode content = .ok text)
      (stands : around.reader.read (Text.withLineFeeds text) = .ok datum)
      (notNull : datum ≠ .null) (notMapping : ∀ entries, datum ≠ .mapping entries) :
      Reason around asked (.notMapping path)
  | invalid {faults : List Fault} (some : faults ≠ [])
      (faulty : ∀ fault ∈ faults, OptionFault fault) :
      Reason around asked (.invalid faults)

section Reason

variable {around : Surroundings} {error : SettingsError}

theorem error_bind_iff {α β : Type} {result : Except SettingsFailure α}
    {next : α → Except SettingsFailure β} {failure : SettingsFailure} :
    result >>= next = .error failure ↔
      result = .error failure ∨ ∃ value, result = .ok value ∧ next value = .error failure := by
  cases result with
  | error other => simp [bind, Except.bind]
  | ok value => simp [bind, Except.bind]

theorem mapError_files_ne_refused {α : Type} (result : Except FileError α) :
    result.mapError SettingsFailure.files ≠ .error (.refused error) := by
  cases result with
  | error cause => exact nofun
  | ok value => exact nofun

theorem exclusionItems_ne_refused (options : List (Datum × Datum)) :
    exclusionItems options ≠ .error (.refused error) := by
  unfold exclusionItems
  dsimp only
  split
  · exact nofun
  · split
    · exact nofun
    · exact nofun

theorem rootOf_ne_refused (base : List Text) (options : List (Datum × Datum)) :
    rootOf around base options ≠ .error (.refused error) := by
  unfold rootOf
  cases hgiven : givenRoot? around options with
  | ok given => exact mapError_files_ne_refused _
  | error failure =>
      unfold givenRoot? at hgiven
      split at hgiven
      · cases hgiven
      · split at hgiven
        · cases hgiven
        · split at hgiven
          · cases hgiven
          · cases hgiven
            exact nofun

theorem file?_ne_refused (asked : Option FilePath) :
    file? around asked ≠ .error (.refused error) := by
  unfold file?
  dsimp only
  split
  · exact nofun
  · exact nofun
  · split
    · exact nofun
    · exact nofun
    · exact nofun

/-- What is found wrong once the options are known is a fault in a value. -/
theorem reason_of_settle {base : List Text} {options : List (Datum × Datum)}
    (hrefused : settle around base options = .error (.refused error)) (asked : Option FilePath) :
    Reason around asked error := by
  unfold settle at hrefused
  rcases error_bind_iff.mp hrefused with h | ⟨exclusions, -, hrefused⟩
  · exact absurd h (exclusionItems_ne_refused options)
  · rcases error_bind_iff.mp hrefused with h | ⟨root, -, hrefused⟩
    · exact absurd h (rootOf_ne_refused base options)
    · cases hread : ofOptions around root exclusions options with
      | ok settings =>
          rw [hread] at hrefused
          cases hrefused
      | error faults =>
          rw [hread] at hrefused
          cases hrefused
          obtain ⟨hsome, hall⟩ := tells_ofOptions around root exclusions options faults hread
          exact .invalid hsome hall

theorem reason_of_readOptions {asked : Option FilePath} {path : FilePath}
    (hfile : file? around asked = .ok (some path))
    (hrefused : readOptions around path = .error (.refused error)) :
    Reason around asked error := by
  unfold readOptions at hrefused
  split at hrefused
  · cases hrefused
  · rename_i hread
    cases hrefused
    exact .unreadable hfile hread
  · rename_i content hread
    unfold optionsOf at hrefused
    split at hrefused
    · cases hrefused
    · rename_i text htext
      split at hrefused
      · rename_i fault hfault
        cases hrefused
        exact .notYaml hfile hread htext hfault
      · cases hrefused
      · rename_i datum hdatum
        cases datum with
        | null => cases hrefused
        | mapping entries => cases hrefused
        | _ =>
            cases hrefused
            exact .notMapping hfile hread htext hdatum nofun nofun

theorem reason_of_load {asked : Option FilePath}
    (hrefused : load around asked = .error (.refused error)) : Reason around asked error := by
  unfold load at hrefused
  rcases error_bind_iff.mp hrefused with h | ⟨found, hfile, hrefused⟩
  · exact absurd h (file?_ne_refused asked)
  · cases found with
    | none => exact reason_of_settle hrefused asked
    | some path =>
        rcases error_bind_iff.mp hrefused with h | ⟨options, -, hrefused⟩
        · exact reason_of_readOptions hfile h
        · rcases error_bind_iff.mp hrefused with h | ⟨place, -, hrefused⟩
          · exact absurd h (mapError_files_ne_refused _)
          · exact reason_of_settle hrefused asked

end Reason

/-- The directories of the settings can be told: none is on links that lead in a circle. -/
structure Housed (settings : Settings) (tree : FileTree) : Prop where
  root : ∃ root, tree.canonical [] (.ofParts settings.root) = .ok root
  tables : ∀ root, tree.canonical [] (.ofParts settings.root) = .ok root →
    ∀ entry ∈ settings.components ++ settings.modules,
      ∃ place, tree.canonical root (.ofText entry.2) = .ok place

theorem exists_placesOf_iff {tree : FileTree} {root : List Text} {table : List (Text × Text)} :
    (∃ places, Resolver.placesOf tree root table = .ok places) ↔
      ∀ entry ∈ table, ∃ place, tree.canonical root (.ofText entry.2) = .ok place := by
  induction table with
  | nil => exact iff_of_true ⟨[], rfl⟩ nofun
  | cons entry rest ih =>
      rw [List.forall_mem_cons, ← ih, Resolver.placesOf]
      cases tree.canonical root (.ofText entry.2) with
      | error cause => simp
      | ok place =>
          cases Resolver.placesOf tree root rest with
          | error cause => simp
          | ok places => simp

theorem housed_iff {settings : Settings} {tree : FileTree} {root : List Text}
    (hroot : tree.canonical [] (.ofParts settings.root) = .ok root) :
    settings.Housed tree ↔
      (∃ places, Resolver.placesOf tree root settings.components = .ok places) ∧
        ∃ places, Resolver.placesOf tree root settings.modules = .ok places := by
  rw [exists_placesOf_iff, exists_placesOf_iff, ← List.forall_mem_append]
  refine ⟨fun h => h.tables root hroot, fun h => ⟨⟨root, hroot⟩, fun other hother => ?_⟩⟩
  rw [hroot] at hother
  cases hother
  exact h

theorem exists_resolver_iff (settings : Settings) (tree : FileTree) :
    (∃ resolver, settings.resolver tree = .ok resolver) ↔ settings.Housed tree := by
  unfold Settings.resolver Resolver.ofTables
  cases hroot : tree.canonical [] (.ofParts settings.root) with
  | error cause =>
      refine iff_of_false (fun ⟨_, h⟩ => nomatch h) fun h => ?_
      obtain ⟨root, h⟩ := h.root
      rw [hroot] at h
      cases h
  | ok root =>
      rw [housed_iff hroot]
      dsimp only
      cases Resolver.placesOf tree root settings.components with
      | error cause => simp
      | ok components =>
          cases Resolver.placesOf tree root settings.modules with
          | error cause => simp
          | ok modules => simp

theorem exists_pipeline_iff (settings : Settings) (tree : FileTree) :
    (∃ pipeline, settings.pipeline tree = .ok pipeline) ↔ settings.Housed tree := by
  rw [← exists_resolver_iff]
  unfold Settings.pipeline
  cases settings.resolver tree with
  | error cause => simp [Except.map]
  | ok resolver => simp [Except.map]

/-- Surroundings in which a check gets to its files or is refused. -/
structure Ready (around : Surroundings) : Prop where
  workable : Workable around none
  housed : ∀ settings, load around none = .ok settings → settings.Housed around.files

end Settings

/-! ### Checks of paths -/

namespace Command

/-- A check that runs its batch, or is refused for its settings before it has written anything. -/
inductive Begins (around : Surroundings) (paths : List Text) : Prop
  | refused {error : SettingsError}
      (loaded : Settings.load around none = .error (.refused error))
      (result : checkPaths around paths = { ending := .refused error })
      (status : (checkPaths around paths).ending.status? = some 2)
  | batch {settings : Settings} {pipeline : Pipeline}
      (loaded : Settings.load around none = .ok settings)
      (prepared : settings.pipeline around.files = .ok pipeline)
      (result : checkPaths around paths =
        checkFound settings pipeline around
          (Discovery.ofPaths around.files around.here (.ofParts settings.root) settings.exclusions
            (paths.map .ofText)))

/-- A check that stops before its batch with something else than a refusal. -/
def Stops (around : Surroundings) (paths : List Text) : Prop :=
  ∃ failure, checkPaths around paths = { ending := .broken failure }

theorem Begins.ready {around : Surroundings} {paths : List Text}
    (hbegins : Begins around paths) : Settings.Ready around := by
  cases hbegins with
  | refused hload =>
      refine ⟨(Settings.orderly_load_iff around none).mp ?_, fun settings hother => ?_⟩
      · rw [hload]
        exact Settings.orderly_refused _
      · rw [hload] at hother
        cases hother
  | batch hload hpipeline =>
      refine ⟨(Settings.orderly_load_iff around none).mp ?_, fun settings hother => ?_⟩
      · rw [hload]
        exact Settings.orderly_ok _
      · rw [hload] at hother
        cases hother
        exact (Settings.exists_pipeline_iff _ around.files).mp ⟨_, hpipeline⟩

theorem begins_or_stops (around : Surroundings) (paths : List Text) :
    Begins around paths ∨ Stops around paths ∧ ¬ Settings.Ready around := by
  cases hload : Settings.load around none with
  | error failure =>
      by_cases hrefused : ∃ error, failure = .refused error
      · obtain ⟨error, rfl⟩ := hrefused
        have hresult : checkPaths around paths = { ending := .refused error } := by
          unfold checkPaths
          rw [hload]
        exact .inl (.refused hload hresult (by rw [hresult]; rfl))
      · -- what is no refusal is passed on, and nothing has been written yet
        refine .inr ⟨⟨.settings failure, ?_⟩, fun hready => hrefused ?_⟩
        · unfold checkPaths
          rw [hload]
          cases failure with
          | refused error => exact absurd ⟨error, rfl⟩ hrefused
          | _ => rfl
        · exact (Settings.orderly_load_iff around none).mpr hready.workable failure hload
  | ok settings =>
      cases hpipeline : settings.pipeline around.files with
      | error cause =>
          refine .inr ⟨⟨.files cause, ?_⟩, fun hready => ?_⟩
          · unfold checkPaths
            rw [hload]
            dsimp only
            rw [hpipeline]
          · obtain ⟨pipeline, hother⟩ :=
              (Settings.exists_pipeline_iff _ _).mpr (hready.housed settings hload)
            rw [hpipeline] at hother
            cases hother
      | ok pipeline =>
          refine .inl (.batch hload hpipeline ?_)
          unfold checkPaths
          rw [hload]
          dsimp only
          rw [hpipeline]

/-- Settings are loaded or refused, for a reason, in workable surroundings and in no others; there a
check runs its batch or ends with the status for misuse, if the directories that are set can be
told, and otherwise it breaks down before it has written anything. -/
theorem settings_had_or_refused (around : Surroundings) :
    (∀ asked,
      (Settings.Orderly (Settings.load around asked) ↔ Settings.Workable around asked) ∧
      ∀ error, Settings.load around asked = .error (.refused error) →
        Settings.Reason around asked error) ∧
    ∀ paths,
      (Begins around paths ↔ Settings.Ready around) ∧
      (¬ Begins around paths → Stops around paths) := by
  refine ⟨fun asked => ⟨Settings.orderly_load_iff around asked, fun _ => Settings.reason_of_load⟩,
    fun paths => ?_⟩
  rcases begins_or_stops around paths with hbegins | ⟨hstops, hnot⟩
  · exact ⟨iff_of_true hbegins hbegins.ready, fun h => absurd hbegins h⟩
  · exact ⟨iff_of_false (fun h => hnot h.ready) hnot, fun _ => hstops⟩

def withSettings (content : Text) : Surroundings :=
  { files := { entries := [([Settings.fileName], .file (Utf8.encode content))] } }

/-- An exclusion that is no text is told with its place, and the check ends there. -/
theorem settings_refused_for_number :
    let around := withSettings "excluded_files: [5]\n"
    let error : SettingsError := .invalid [⟨["excluded_files", "3"], .notText⟩]
    Settings.load around none = .error (.refused error) ∧ Settings.Reason around none error ∧
      Settings.Workable around none ∧ Begins around ["a.xml"] ∧
      checkPaths around ["a.xml"] = { ending := .refused error } := by
  intro around error
  have hload : Settings.load around none = .error (.refused error) := by decide +kernel
  obtain ⟨hsettings, hcheck⟩ := settings_had_or_refused around
  have hworkable : Settings.Workable around none := (hsettings none).1.mp (by
    rw [hload]
    exact Settings.orderly_refused error)
  refine ⟨hload, (hsettings none).2 error hload, hworkable, ?_, by decide +kernel⟩
  refine (hcheck _).1.mpr ⟨hworkable, fun settings hsettings => ?_⟩
  rw [hload] at hsettings
  cases hsettings

/-- A number in the place of the exclusions is not refused: the check breaks down. -/
theorem settings_neither_had_nor_refused :
    let around := withSettings "excluded_files: 5\n"
    ¬ Settings.Orderly (Settings.load around none) ∧ ¬ Begins around ["a.xml"] ∧
      checkPaths around ["a.xml"] =
        { ending := .broken (.settings (.unusable "excluded_files")) } ∧
      (checkPaths around ["a.xml"]).ending.status? = none := by
  intro around
  have hload : Settings.load around none = .error (.unusable "excluded_files") := by
    decide +kernel
  have hnot : ¬ Settings.Orderly (Settings.load around none) := by
    rw [hload]
    exact Settings.not_orderly nofun
  refine ⟨hnot, fun hbegins => hnot ?_, by decide +kernel, by decide +kernel⟩
  exact (Settings.orderly_load_iff around none).mpr hbegins.ready.workable

end Command

end XmlCheck
