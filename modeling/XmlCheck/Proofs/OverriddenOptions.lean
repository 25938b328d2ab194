import XmlCheck.Proofs.DisplayNames
import XmlCheck.Proofs.ListedExclusions
import XmlCheck.Proofs.SettledRoot

/-!
# Options that the environment overrides

What a settings file says of an option that the environment decides is not looked at: it is not
checked, put together with a directory or refused before it is replaced. So two settings files that
agree on the other options give the same settings, or fail in the same way. The root that comes of
either is canonical, and is seen from the directory of the settings file.
-/

namespace XmlCheck

/-- What stands at a path, without what a file holds. -/
def Entry.emptied : Entry → Entry
  | .directory => .directory
  | .file _ => .file []
  | .link target => .link target

theorem Entry.emptied_eq_link_iff {entry : Entry} {target : Text} :
    entry.emptied = .link target ↔ entry = .link target := by
  cases entry <;> simp [emptied]

namespace FileTree

/-- The tree without what its files hold. -/
def emptied (tree : FileTree) : FileTree :=
  ⟨tree.entries.map fun e => (e.1, e.2.emptied)⟩

section Emptied

variable (tree : FileTree) (path : FilePath) (here place rest : List Text) (bound links : Nat)

theorem entry?_emptied : tree.emptied.entry? place = (tree.entry? place).map Entry.emptied := by
  have hlookup (entries : List (List Text × Entry)) :
      (entries.map fun e => (e.1, e.2.emptied)).lookup place =
        (entries.lookup place).map Entry.emptied := by
    induction entries with
    | nil => rfl
    | cons entry entries ih =>
        obtain ⟨other, value⟩ := entry
        rw [List.map_cons, lookup_cons_eq_ite, lookup_cons_eq_ite, ih]
        split <;> rfl
  unfold entry? emptied
  split
  · rfl
  · exact hlookup tree.entries

theorem linksWithin_emptied : LinksWithin tree.emptied tree := by
  intro place target hentry
  rw [entry?_emptied] at hentry
  obtain ⟨entry, hplace, hlink⟩ := Option.map_eq_some_iff.mp hentry
  rw [hplace, Entry.emptied_eq_link_iff.mp hlink]

theorem emptied_linksWithin : LinksWithin tree tree.emptied := by
  intro place target hentry
  rw [entry?_emptied, hentry]
  rfl

theorem canonical_emptied : tree.emptied.canonical here path = tree.canonical here path := by
  have hdepth : tree.emptied.linkDepth = tree.linkDepth := by
    simp [linkDepth, emptied]
  exact canonical_eq_of_linksWithin tree.linksWithin_emptied tree.emptied_linksWithin hdepth here
    path

theorem walkBound_emptied : tree.emptied.walkBound rest = tree.walkBound rest := by
  unfold walkBound emptied
  simp only [List.length_map, List.foldl_map]
  congr 5
  funext longest entry
  cases entry.2 <;> rfl

theorem findFrom_emptied : tree.emptied.findFrom path bound links place rest =
    (tree.findFrom path bound links place rest).map fun found => (found.1, found.2.emptied) := by
  induction bound generalizing links place rest with
  | zero => simp only [findFrom, Except.map]
  | succ bound ih =>
      cases rest with
      | nil =>
          simp only [findFrom, entry?_emptied]
          cases tree.entry? place <;> rfl
      | cons part rest =>
          simp only [findFrom, entry?_emptied, ih]
          rcases tree.entry? place with _ | _ | _ | _
          · rfl
          · -- only below a directory does the walk go on
            simp only [Option.map_some, Entry.emptied]
            split
            · rfl
            split
            · rfl
            rcases tree.entry? (place ++ [part]) with _ | _ | _ | _
            · rfl
            · rfl
            · rfl
            · cases links <;> rfl
          · rfl
          · rfl

theorem find_emptied : tree.emptied.find here path =
    (tree.find here path).map fun found => (found.1, found.2.emptied) := by
  unfold find
  rw [walkBound_emptied, findFrom_emptied]
  split
  · rfl
  split
  · rfl
  · rfl

theorem leadsSomewhere_emptied :
    tree.emptied.leadsSomewhere here path = tree.leadsSomewhere here path := by
  unfold leadsSomewhere ask
  rw [find_emptied]
  cases tree.find here path with
  | ok found => rfl
  | error cause => cases cause <;> rfl

end Emptied

theorem null_not_mem_of_canonical {tree : FileTree} {here place : List Text} {path : FilePath}
    (hproper : tree.Proper) (hhere : ∀ name ∈ here, '\x00' ∉ name)
    (hcanonical : tree.canonical here path = .ok place) : ∀ name ∈ place, '\x00' ∉ name :=
  forall_mem_of_canonical (fun _ _ hentry _ => hproper.null_not_mem_of_mem_partsOf hentry) hcanonical
    hhere (canonical_eq_ok_iff.mp hcanonical).1

end FileTree

namespace Settings

def annotationsField : Text := "ci_annotations"

/-- The options that the environment decides, whatever a settings file says of them. -/
inductive Overridden (around : Surroundings) : Text → Prop
  | annotations : Overridden around annotationsField
  | root (filled : (filled? around rootVariable).isSome = true) : Overridden around rootField
  | policy (filled : (filled? around policyVariable).isSome = true) : Overridden around policyField

/-- Two surroundings are the same, but for what the files hold. -/
structure SameAround (first second : Surroundings) : Prop where
  here : first.here = second.here
  variables_eq : first.«variables» = second.«variables»
  files : first.files.emptied = second.files.emptied

section Same

variable {first second : Surroundings} {asked : Option FilePath} {path : FilePath}
  {options others : List (Datum × Datum)}

theorem SameAround.valueOf?_eq (hsame : SameAround first second) (name : Text) :
    first.valueOf? name = second.valueOf? name := by
  unfold Surroundings.valueOf?
  rw [hsame.variables_eq]

theorem SameAround.filled?_eq (hsame : SameAround first second) (name : Text) :
    filled? first name = filled? second name := by
  unfold filled?
  rw [hsame.valueOf?_eq]

theorem SameAround.canonical_eq (hsame : SameAround first second) (here : List Text)
    (path : FilePath) : first.files.canonical here path = second.files.canonical here path := by
  rw [← FileTree.canonical_emptied, hsame.files, FileTree.canonical_emptied]

theorem SameAround.leadsSomewhere_eq (hsame : SameAround first second) (here : List Text)
    (path : FilePath) :
    first.files.leadsSomewhere here path = second.files.leadsSomewhere here path := by
  rw [← FileTree.leadsSomewhere_emptied, hsame.files, FileTree.leadsSomewhere_emptied]

theorem SameAround.file?_eq (hsame : SameAround first second) (asked : Option FilePath) :
    file? first asked = file? second asked := by
  unfold file?
  simp only [hsame.here, hsame.valueOf?_eq, hsame.leadsSomewhere_eq]

/-- Two mappings say the same of the options that the environment leaves to them. -/
def Agree (around : Surroundings) (options others : List (Datum × Datum)) : Prop :=
  ∀ name, ¬ Overridden around name → Datum.field? name options = Datum.field? name others

theorem Agree.field?_eq {name : Text} (hagree : Agree first options others)
    (hname : name ≠ annotationsField ∧ name ≠ rootField ∧ name ≠ policyField) :
    Datum.field? name options = Datum.field? name others := by
  refine hagree name fun hoverridden => ?_
  cases hoverridden with
  | annotations => exact hname.1 rfl
  | root => exact hname.2.1 rfl
  | policy => exact hname.2.2 rfl

theorem exclusionItems_eq (hagree : Agree first options others) :
    exclusionItems options = exclusionItems others := by
  unfold exclusionItems
  rw [hagree.field?_eq (by decide)]

theorem givenRoot?_eq (hsame : SameAround first second) (hagree : Agree first options others) :
    givenRoot? first options = givenRoot? second others := by
  unfold givenRoot?
  rw [← hsame.filled?_eq]
  cases hfilled : filled? first rootVariable with
  | some value => rfl
  | none =>
      rw [hagree rootField fun hoverridden => ?_]
      cases hoverridden with
      | root hsome => simp [hfilled] at hsome

theorem rootOf_eq (hsame : SameAround first second) (hagree : Agree first options others)
    (base : List Text) : rootOf first base options = rootOf second base others := by
  unfold rootOf
  simp only [givenRoot?_eq hsame hagree, hsame.canonical_eq]

theorem policyOf_eq (hsame : SameAround first second) (hagree : Agree first options others) :
    policyOf first options = policyOf second others := by
  unfold policyOf policyDatum?
  rw [← hsame.filled?_eq]
  cases hfilled : filled? first policyVariable with
  | some value => rfl
  | none =>
      rw [hagree policyField fun hoverridden => ?_]
      cases hoverridden with
      | policy hsome => simp [hfilled] at hsome

theorem ofOptions_eq (hsame : SameAround first second) (hagree : Agree first options others)
    (root : List Text) (exclusions : List Datum) :
    ofOptions first root exclusions options = ofOptions second root exclusions others := by
  unfold ofOptions Reading.optional isOn
  rw [hagree.field?_eq (by decide), hagree.field?_eq (by decide), policyOf_eq hsame hagree,
    hsame.valueOf?_eq]

theorem settle_eq (hsame : SameAround first second) (hagree : Agree first options others)
    (base : List Text) : settle first base options = settle second base others := by
  unfold settle
  simp only [exclusionItems_eq hagree, rootOf_eq hsame hagree, ofOptions_eq hsame hagree]

theorem load_eq (hsame : SameAround first second) (hfile : file? first asked = .ok (some path))
    (hfirst : readOptions first path = .ok options) (hsecond : readOptions second path = .ok others)
    (hagree : Agree first options others) : load first asked = load second asked := by
  unfold load
  rw [← hsame.file?_eq, hfile]
  simp only [hfirst, hsecond, hsame.canonical_eq, hsame.here, settle_eq hsame hagree, bind,
    Except.bind]

end Same

/-! ### The root of the settings -/

/-- The path of the project root: the one that the environment names, or else the option, or else
that of the directory from which it is seen. -/
inductive RootPath (around : Surroundings) (options : List (Datum × Datum)) : FilePath → Prop
  | environment {value : Text} (filled : filled? around rootVariable = some value) :
    RootPath around options (.ofText value)
  | option {value : Text} (unfilled : filled? around rootVariable = none)
    (named : Datum.field? rootField options = some (.text value)) (nonempty : value ≠ []) :
    RootPath around options (.ofText value)
  | nothing (unfilled : filled? around rootVariable = none)
    (void : ((Datum.field? rootField options).getD .null).isVoid = true) :
    RootPath around options ⟨.here, []⟩

section Root

variable {around : Surroundings} {asked : Option FilePath} {base : List Text}
  {options : List (Datum × Datum)} {settings : Settings}

theorem rootPath_of_givenRoot? {given : Option FilePath}
    (hgiven : givenRoot? around options = .ok given) :
    RootPath around options (given.getD ⟨.here, []⟩) := by
  unfold givenRoot? at hgiven
  split at hgiven
  · rename_i value hfilled
    cases hgiven
    exact .environment hfilled
  · rename_i hunfilled
    split at hgiven
    · rename_i value hvalue
      cases hgiven
      by_cases hempty : value = []
      · rw [hempty]
        exact .nothing hunfilled (by rw [hvalue, hempty]; rfl)
      · have hnamed : Datum.field? rootField options = some (.text value) := by
          cases hfield : Datum.field? rootField options with
          | none => simp [hfield] at hvalue
          | some datum => simpa [hfield] using hvalue
        rw [if_neg (by simpa using hempty)]
        exact .option hunfilled hnamed hempty
    · split at hgiven
      · rename_i hvoid
        cases hgiven
        exact .nothing hunfilled hvoid
      · cases hgiven

theorem exists_rootPath (hsettings : settle around base options = .ok settings) :
    ∃ path, RootPath around options path ∧
      around.files.canonical base path = .ok settings.root := by
  have hroot := rootOf_of_settle hsettings
  unfold rootOf at hroot
  split at hroot
  · cases hroot
  · rename_i given hgiven
    refine ⟨_, rootPath_of_givenRoot? hgiven, ?_⟩
    cases hcanonical : around.files.canonical base (given.getD ⟨.here, []⟩) with
    | error cause =>
        rw [hcanonical] at hroot
        cases hroot
    | ok place =>
        rw [hcanonical] at hroot
        cases hroot
        rfl

theorem exists_given (hload : load around asked = .ok settings) :
    ∃ base options, Given around asked base options := by
  simp only [load, bind, Except.bind] at hload
  split at hload
  · cases hload
  · rename_i found hfile
    split at hload
    · exact ⟨_, _, .nothing hfile⟩
    · rename_i path
      split at hload
      · cases hload
      · rename_i options hread
        cases hcanonical : around.files.canonical around.here path with
        | error cause =>
            rw [hcanonical] at hload
            cases hload
        | ok place => exact ⟨_, _, .found hfile hread hcanonical⟩

/-- What holds of a place holds of the directory of the settings, if it holds of the working
directory, of canonical places and of what lies above such a place. -/
theorem Given.holds {P : List Text → Prop} (hgiven : Given around asked base options)
    (hhere : P around.here) (hplace : ∀ path place,
      around.files.canonical around.here path = .ok place → P place.dropLast) : P base := by
  cases hgiven with
  | nothing => exact hhere
  | found _ _ hplaced => exact hplace _ _ hplaced

/-- The root is the canonical place of the path that the environment or the options name, seen from
the directory of the settings file, and it is its own canonical place, wherever it is seen from. -/
theorem Given.root (hgiven : Given around asked base options) (hproper : around.files.Proper)
    (hhere : around.files.Settled around.here) (hnull : ∀ name ∈ around.here, '\x00' ∉ name)
    (hload : load around asked = .ok settings) :
    (∃ path, RootPath around options path ∧
      around.files.canonical base path = .ok settings.root) ∧
    ∀ there, around.files.canonical there (.ofParts settings.root) = .ok settings.root := by
  rw [hgiven.load_eq] at hload
  obtain ⟨path, hpath, hroot⟩ := exists_rootPath hload
  have hbase : around.files.Settled base ∧ ∀ name ∈ base, '\x00' ∉ name := by
    refine hgiven.holds (P := fun place => around.files.Settled place ∧
      ∀ name ∈ place, '\x00' ∉ name) ⟨hhere, hnull⟩ fun path place hplace => ⟨?_, ?_⟩
    · exact (FileTree.settled_of_canonical hplace hhere).dropLast
    · intro name hmem
      exact FileTree.null_not_mem_of_canonical hproper hnull hplace name
        (List.mem_of_mem_dropLast hmem)
  refine ⟨⟨path, hpath, hroot⟩, fun there => ?_⟩
  exact FileTree.canonical_ofParts there (FileTree.settled_of_canonical hroot hbase.1)
    (FileTree.null_not_mem_of_canonical hproper hbase.2 hroot)

end Root

/-- Settings files that agree on what the environment leaves to them give the same settings or the
same failure. Whatever settings there are, their root is canonical: it is where the path leads that
the environment or the options name, seen from the directory of the settings file. -/
theorem overridden_options_ignored (asked : Option FilePath) :
    (∀ first second path options others, SameAround first second →
      file? first asked = .ok (some path) → readOptions first path = .ok options →
      readOptions second path = .ok others → Agree first options others →
      load first asked = load second asked) ∧
    ∀ around settings, around.files.Proper → around.files.Settled around.here →
      (∀ name ∈ around.here, '\x00' ∉ name) → load around asked = .ok settings →
      ∃ base options, Given around asked base options ∧
        (∃ path, RootPath around options path ∧
          around.files.canonical base path = .ok settings.root) ∧
        ∀ there, around.files.canonical there (.ofParts settings.root) = .ok settings.root := by
  refine ⟨fun first second path options others hsame hfile hfirst hsecond hagree => ?_,
    fun around settings hproper hhere hnull hload => ?_⟩
  · exact load_eq hsame hfile hfirst hsecond hagree
  · obtain ⟨base, options, hgiven⟩ := exists_given hload
    exact ⟨base, options, hgiven, hgiven.root hproper hhere hnull hload⟩

/-- A directory with a settings file, and variables that name the file, a root and a policy. -/
def overriding (content : Text) : Surroundings :=
  { files := { entries := [(["conf"], .directory),
      (["conf", "s.yaml"], .file (Utf8.encode content))] },
    «variables» := [(fileVariable, "conf/s.yaml"), (rootVariable, "../p"),
      (policyVariable, "Skip")] }

theorem proper_overriding (content : Text) : (overriding content).files.Proper where
  distinct := by
    unfold FileTree.Distinct
    simp [overriding]
  isFileName := by
    have hnames : ∀ name ∈ (["conf", "s.yaml"] : List Text), IsFileName name := by decide
    simpa [overriding] using hnames
  null_not_mem := by simp [overriding]

theorem sameAround_overriding (content other : Text) :
    SameAround (overriding content) (overriding other) := ⟨rfl, rfl, rfl⟩

/-- A mapping that has only options that the environment decides says nothing of the others. -/
theorem field?_of_overridden {around : Surroundings} {options : List (Datum × Datum)}
    {names : List Text}
    (hkeys : (options.map Prod.fst).mapM Datum.text? = some names)
    (hnames : ∀ name ∈ names, Overridden around name) {name : Text}
    (hname : ¬ Overridden around name) : Datum.field? name options = none := by
  unfold Datum.field?
  rw [Option.map_eq_none_iff, List.find?_eq_none]
  intro entry hmem hentry
  have hkey : Datum.text name ∈ options.map Prod.fst :=
    List.mem_map.mpr ⟨entry, hmem, Datum.isName_iff.mp hentry⟩
  rw [Datum.mapM_text?_eq_some_iff.mp hkeys] at hkey
  obtain ⟨other, hother, heq⟩ := List.mem_map.mp hkey
  cases heq
  exact hname (hnames _ hother)

/-- A root, a policy and annotations that are of no use are not noticed where the environment names
a root and a policy. -/
theorem overridden_options_ignored_when_unusable :
    let first := overriding "project_root: 5\nci_annotations: [x]\n"
    let second := overriding "no_schema_policy: 7\n"
    let path := FilePath.ofText "conf/s.yaml"
    ∃ options others, SameAround first second ∧ file? first none = .ok (some path) ∧
      readOptions first path = .ok options ∧ readOptions second path = .ok others ∧
      Agree first options others ∧ load first none = load second none ∧
      load second none = .ok { root := ["p"], policy := .skip } ∧ second.files.Proper ∧
      second.files.Settled second.here ∧ (∀ name ∈ second.here, '\x00' ∉ name) ∧
      ∃ base given, Given second none base given ∧
        (∃ path, RootPath second given path ∧ second.files.canonical base path = .ok ["p"]) ∧
        ∀ there, second.files.canonical there (.ofParts ["p"]) = .ok ["p"] := by
  intro first second path
  have hfile : file? first none = .ok (some path) := by decide +kernel
  have hkeys : (readOptions first path).map (fun options =>
      (options.map Prod.fst).mapM Datum.text?) = .ok (some [rootField, annotationsField]) := by
    decide +kernel
  have hothers : (readOptions second path).map (fun options =>
      (options.map Prod.fst).mapM Datum.text?) = .ok (some [policyField]) := by decide +kernel
  have hload : load second none = .ok { root := ["p"], policy := .skip } := by decide +kernel
  have hsettled : second.files.Settled second.here := second.files.settled_nil
  have hnull : ∀ name ∈ second.here, '\x00' ∉ name := nofun
  cases hfirst : readOptions first path with
  | error failure =>
      rw [hfirst] at hkeys
      cases hkeys
  | ok options =>
      cases hsecond : readOptions second path with
      | error failure =>
          rw [hsecond] at hothers
          cases hothers
      | ok others =>
          rw [hfirst] at hkeys
          rw [hsecond] at hothers
          have hroot : Overridden first rootField := .root (by decide +kernel)
          have hpolicy : Overridden first policyField := .policy (by decide +kernel)
          have hagree : Agree first options others := fun name hname => by
            rw [field?_of_overridden (Except.ok.inj hkeys) (by simp [hroot, Overridden.annotations])
              hname, field?_of_overridden (Except.ok.inj hothers) (by simp [hpolicy]) hname]
          obtain ⟨heq, hroots⟩ := overridden_options_ignored none
          exact ⟨options, others, sameAround_overriding .., hfile, rfl, rfl, hagree,
            heq first second path options others (sameAround_overriding ..) hfile hfirst hsecond
              hagree, hload, proper_overriding _, hsettled, hnull,
            hroots second _ (proper_overriding _) hsettled hnull hload⟩

end Settings

end XmlCheck
