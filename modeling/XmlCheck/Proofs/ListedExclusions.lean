import Mathlib.Data.List.Forall2
import XmlCheck.Proofs.SettingsRefusal

/-!
# The exclusions that settings list

What stands under the option for exclusions is gone through item by item and put behind the usual
names, before anything is checked. So the check sees a list whatever the option was: a list of names
adds them, and one with another item is refused; but a mapping adds its keys and a text its
characters, and what holds nothing adds nothing. Only a datum that cannot be gone through at all
stops the loading, and not as a refusal.
-/

namespace XmlCheck

namespace Datum

variable {name other : Text}

theorem isName_iff {datum : Datum} : datum.isName name = true ↔ datum = .text name := by
  cases datum <;> simp [isName]

theorem field?_withoutField_self (name : Text) (entries : List (Datum × Datum)) :
    field? name (withoutField name entries) = none := by
  unfold field? withoutField
  rw [List.find?_filter, Option.map_eq_none_iff, List.find?_eq_none]
  simp

theorem field?_withoutField (hne : name ≠ other) (entries : List (Datum × Datum)) :
    field? name (withoutField other entries) = field? name entries := by
  unfold field? withoutField
  rw [List.find?_filter]
  congr 2
  funext e
  by_cases hname : e.1.isName name = true
  · have hother : e.1.isName other = false := by
      rw [isName_iff.mp hname]
      simpa [isName] using hne
    rw [hname, hother]
    rfl
  · rw [Bool.not_eq_true] at hname
    simp [hname]

def text? : Datum → Option Text
  | .text value => some value
  | _ => none

theorem text?_eq_some_iff {datum : Datum} : datum.text? = some name ↔ datum = .text name := by
  cases datum <;> simp [text?]

theorem mapM_text?_eq_some_iff {items : List Datum} {names : List Text} :
    items.mapM text? = some names ↔ items = names.map .text := by
  induction items generalizing names with
  | nil => cases names <;> simp
  | cons item rest ih =>
      simp only [List.mapM_cons, Option.bind_eq_bind, Option.bind_eq_some_iff,
        text?_eq_some_iff, ih,
        Option.pure_def, Option.some.injEq]
      cases names <;> simp

def texts? : Datum → Option (List Text)
  | .list items => items.mapM text?
  | _ => none

theorem texts?_eq_some_iff {datum : Datum} {names : List Text} :
    datum.texts? = some names ↔ datum = .list (names.map .text) := by
  cases datum with
  | list items => simp [texts?, mapM_text?_eq_some_iff]
  | _ => simp [texts?]

end Datum

namespace Reading

theorem under_eq_ok_iff {α : Type} {key : Text} {reading : Reading α} {value : α} :
    under key reading = .ok value ↔ reading = .ok value := by
  cases reading with
  | ok other => rfl
  | error faults => simp [under]

/-- A datum is read as a name: it is the name, or octets that are its UTF-8. -/
def ReadAs (datum : Datum) (name : Text) : Prop :=
  datum.toText = .ok name

theorem readAs_text (name : Text) : ReadAs (.text name) name :=
  rfl

theorem eachFrom_toText_eq_ok_iff {index : Nat} {items : List Datum} {names : List Text} :
    eachFrom Datum.toText index items = .ok names ↔ List.Forall₂ ReadAs items names := by
  induction items generalizing index names with
  | nil => cases names <;> simp [eachFrom]
  | cons item rest ih =>
      rw [eachFrom, combine_eq_ok]
      simp only [under_eq_ok_iff, ih]
      constructor
      · rintro ⟨name, others, hname, hothers, rfl⟩
        exact .cons hname hothers
      · intro hread
        cases hread with
        | cons hname hothers => exact ⟨_, _, hname, hothers, rfl⟩

theorem exists_readAs {items : List Datum} {names : List Text}
    (hread : List.Forall₂ ReadAs items names) : ∀ item ∈ items, ∃ name, ReadAs item name := by
  induction hread with
  | nil => exact List.forall_mem_nil _
  | cons hname _ ih => exact List.forall_mem_cons.mpr ⟨⟨_, hname⟩, ih⟩

theorem forall₂_readAs_texts (names : List Text) :
    List.Forall₂ ReadAs (names.map .text) names :=
  List.forall₂_map_left_iff.mpr (List.forall₂_same.mpr fun name _ => readAs_text name)

end Reading

namespace Settings

section Items

variable {around : Surroundings} {base root : List Text} {options : List (Datum × Datum)}
  {settings : Settings} {items : List Datum}

/-- The names that are excluded when some are listed: the usual ones, and the listed ones that are
not among them. -/
def merged (names : List Text) : List Text :=
  defaultExclusions ++ names.filter fun name => name ∉ defaultExclusions

theorem merged_characters (text : Text) :
    merged (text.map fun c => [c]) = defaultExclusions ++ text.map fun c => [c] := by
  have hlong : ∀ name ∈ defaultExclusions, name.length ≠ 1 := by decide
  unfold merged
  congr 1
  refine List.filter_eq_self.mpr fun name hname => decide_eq_true fun hmem => ?_
  obtain ⟨c, -, rfl⟩ := List.mem_map.mp hname
  exact hlong _ hmem rfl

theorem isDefault_text (name : Text) :
    isDefault (.text name) = decide (name ∈ defaultExclusions) := by
  rw [Bool.eq_iff_iff, decide_eq_true_iff]
  simp [isDefault, Datum.isName]

theorem filter_isDefault_texts (names : List Text) :
    (names.map Datum.text).filter (fun item => !isDefault item) =
      (names.filter fun name => name ∉ defaultExclusions).map .text := by
  rw [List.filter_map]
  congr 1
  refine List.filter_congr fun name _ => ?_
  rw [Function.comp_apply, isDefault_text, decide_not]

theorem exclusionItems_of_itemsOf?
    (hitems : itemsOf? ((Datum.field? exclusionsField options).getD .null) = some items) :
    exclusionItems options =
      .ok (defaultExclusions.map .text ++ items.filter fun item => !isDefault item) := by
  unfold exclusionItems
  generalize (Datum.field? exclusionsField options).getD .null = added at hitems
  dsimp only
  rw [hitems]
  split
  · rename_i hvoid
    -- what holds nothing has no items to add
    have hnil : items = [] := by
      cases added <;> cases hitems <;> simpa [Datum.isVoid] using hvoid
    rw [hnil, List.filter_nil, List.append_nil]
  · rfl

theorem exclusionItems_of_not_listable
    (hlistable : ¬ Listable ((Datum.field? exclusionsField options).getD .null)) :
    exclusionItems options = .error (.unusable exclusionsField) := by
  unfold exclusionItems
  generalize (Datum.field? exclusionsField options).getD .null = added at hlistable
  dsimp only
  rw [if_neg fun hvoid => hlistable (.void hvoid)]
  cases added with
  | list items => exact absurd .list hlistable
  | mapping entries => exact absurd .mapping hlistable
  | text value => exact absurd .text hlistable
  | octets value => exact absurd .octets hlistable
  | _ => rfl

/-- Settings with exclusions that are read from items. -/
def withItems (settings : Settings) (items : List Datum) : Except SettingsFailure Settings :=
  ((Reading.under exclusionsField (Reading.eachFrom Datum.toText 0 items)).map fun names =>
    { settings with exclusions := names }).mapError fun faults => .refused (.invalid faults)

theorem withItems_readAs (settings : Settings) {names : List Text}
    (hread : List.Forall₂ Reading.ReadAs items names) :
    withItems settings items = .ok { settings with exclusions := names } := by
  rw [withItems, Reading.eachFrom_toText_eq_ok_iff.mpr hread]
  rfl

/-- A fault of an item under the option for exclusions: it is no text. -/
def AtItem (fault : Fault) : Prop :=
  ∃ index kind, TextFlaw kind ∧ fault = ⟨[exclusionsField, Text.ofNat index], kind⟩

theorem withItems_refused (settings : Settings)
    (hother : ∃ item ∈ items, ∀ name, ¬ Reading.ReadAs item name) :
    ∃ faults, withItems settings items = .error (.refused (.invalid faults)) ∧ faults ≠ [] ∧
      ∀ fault ∈ faults, AtItem fault := by
  unfold withItems
  cases hread : Reading.eachFrom Datum.toText 0 items with
  | ok names =>
      obtain ⟨item, hmem, hitem⟩ := hother
      obtain ⟨name, hname⟩ :=
        Reading.exists_readAs (Reading.eachFrom_toText_eq_ok_iff.mp hread) item hmem
      exact absurd hname (hitem name)
  | error faults =>
      obtain ⟨hsome, hall⟩ := tells_eachFrom_toText items faults hread
      refine ⟨_, rfl, fun hnil => hsome (List.map_eq_nil_iff.mp hnil), List.forall_mem_map.mpr ?_⟩
      intro fault hfault
      obtain ⟨index, kind, hflaw, rfl⟩ := hall fault hfault
      exact ⟨index, kind, hflaw, rfl⟩

/-! ### Options that are in order but for the exclusions -/

theorem exclusions_of_ofOptions {names : List Text}
    (hread : ofOptions around root (names.map .text) options = .ok settings) :
    settings.exclusions = names := by
  have hnames : Reading.eachFrom Datum.toText 0 (names.map .text) = .ok names :=
    Reading.eachFrom_toText_eq_ok_iff.mpr (Reading.forall₂_readAs_texts names)
  obtain ⟨components, modules, others, policy, -, -, hothers, -, rfl⟩ :=
    ofOptions_eq_ok_iff.mp hread
  exact Except.ok.inj ((Reading.under_eq_ok_iff.mp hothers).symm.trans hnames)

theorem ofOptions_of_otherwise {exclusions : List Datum}
    (hread : ofOptions around root exclusions (Datum.withoutField exclusionsField options) =
      .ok settings) (items : List Datum) :
    ofOptions around root items options =
      (Reading.under exclusionsField (Reading.eachFrom Datum.toText 0 items)).map fun names =>
        { settings with exclusions := names } := by
  have hne : componentsField ≠ exclusionsField ∧ modulesField ≠ exclusionsField := by decide
  have hpolicy : policyOf around (Datum.withoutField exclusionsField options) =
      policyOf around options := by
    unfold policyOf policyDatum?
    rw [Datum.field?_withoutField (by decide)]
  obtain ⟨components, modules, names, policy, hcomponents, hmodules, -, hchosen, rfl⟩ :=
    ofOptions_eq_ok_iff.mp hread
  unfold Reading.optional at hcomponents hmodules
  rw [Datum.field?_withoutField hne.1] at hcomponents
  rw [Datum.field?_withoutField hne.2] at hmodules
  unfold ofOptions Reading.andField Reading.record Reading.optional
  rw [hcomponents, hmodules, ← hpolicy, hchosen]
  cases Reading.under exclusionsField (Reading.eachFrom Datum.toText 0 items) with
  | ok names => rfl
  | error faults => rfl

theorem rootOf_withoutField (around : Surroundings) (base : List Text)
    (options : List (Datum × Datum)) :
    rootOf around base (Datum.withoutField exclusionsField options) =
      rootOf around base options := by
  unfold rootOf givenRoot?
  rw [Datum.field?_withoutField (by decide)]

theorem exclusionItems_withoutField (options : List (Datum × Datum)) :
    exclusionItems (Datum.withoutField exclusionsField options) =
      .ok (defaultExclusions.map .text) := by
  unfold exclusionItems
  rw [Datum.field?_withoutField_self]
  rfl

theorem settle_of_otherwise
    (hotherwise : settle around base (Datum.withoutField exclusionsField options) = .ok settings) :
    settings.exclusions = defaultExclusions ∧
      settle around base options = exclusionItems options >>= withItems settings := by
  unfold settle at hotherwise ⊢
  rw [exclusionItems_withoutField, rootOf_withoutField] at hotherwise
  cases hroot : rootOf around base options with
  | error failure =>
      rw [hroot] at hotherwise
      cases hotherwise
  | ok root =>
      rw [hroot] at hotherwise
      cases hread : ofOptions around root (defaultExclusions.map .text)
          (Datum.withoutField exclusionsField options) with
      | error faults =>
          simp only [bind, Except.bind, hread] at hotherwise
          cases hotherwise
      | ok found =>
          simp only [bind, Except.bind, hread] at hotherwise
          cases hotherwise
          refine ⟨?_, ?_⟩
          · exact exclusions_of_ofOptions hread
          · congr 1
            funext items
            change (ofOptions around root items options).mapError _ = _
            rw [ofOptions_of_otherwise hread items]
            rfl

end Items

/-! ### Loading -/

section Loading

variable {around : Surroundings} {asked : Option FilePath} {base : List Text}
  {options : List (Datum × Datum)} {settings : Settings}

/-- The options of a run, and the directory from which they are seen. -/
inductive Given (around : Surroundings) (asked : Option FilePath) :
    List Text → List (Datum × Datum) → Prop
  | nothing (noFile : file? around asked = .ok none) : Given around asked around.here []
  | found {path : FilePath} {place : List Text} {options : List (Datum × Datum)}
    (file : file? around asked = .ok (some path)) (read : readOptions around path = .ok options)
    (placed : around.files.canonical around.here path = .ok place) :
    Given around asked place.dropLast options

theorem Given.load_eq (hgiven : Given around asked base options) :
    load around asked = settle around base options := by
  unfold load
  cases hgiven with
  | nothing hfile =>
      rw [hfile]
      rfl
  | found hfile hread hplace =>
      simp only [hfile, hread, hplace, bind, Except.bind, Except.mapError]

/-- What comes of items that are listed: texts, and octets that are their UTF-8, are added to the
usual names, and anything else is refused with its place. -/
structure Adds (result : Except SettingsFailure Settings) (settings : Settings)
    (items : List Datum) : Prop where
  texts : ∀ names : List Text, items = names.map .text →
    result = .ok { settings with exclusions := merged names }
  readAs : ∀ names, List.Forall₂ Reading.ReadAs (items.filter fun item => !isDefault item) names →
    result = .ok { settings with exclusions := defaultExclusions ++ names }
  others : (∃ item ∈ items, ∀ name, ¬ Reading.ReadAs item name) →
    ∃ faults, result = .error (.refused (.invalid faults)) ∧ faults ≠ [] ∧
      ∀ fault ∈ faults, AtItem fault

theorem adds_of_itemsOf? {items : List Datum}
    (hitems : itemsOf? ((Datum.field? exclusionsField options).getD .null) = some items) :
    Adds (exclusionItems options >>= withItems settings) settings items := by
  rw [exclusionItems_of_itemsOf? hitems]
  have hread (names : List Text)
      (hnames : List.Forall₂ Reading.ReadAs (items.filter fun item => !isDefault item) names) :
      withItems settings (defaultExclusions.map .text ++ items.filter fun item => !isDefault item) =
        .ok { settings with exclusions := defaultExclusions ++ names } :=
    withItems_readAs settings
      (List.rel_append (Reading.forall₂_readAs_texts defaultExclusions) hnames)
  refine ⟨?_, hread, ?_⟩
  · rintro names rfl
    exact hread _ (filter_isDefault_texts names ▸ Reading.forall₂_readAs_texts _)
  · rintro ⟨item, hmem, hitem⟩
    refine withItems_refused settings ⟨item, List.mem_append_right _ ?_, hitem⟩
    have hdefault : isDefault item = false := by
      unfold isDefault
      rw [List.any_eq_false]
      exact fun name _ hname => hitem name (Datum.isName_iff.mp hname ▸ Reading.readAs_text name)
    exact List.mem_filter.mpr ⟨hmem, by rw [hdefault]; rfl⟩

/-- Options that are in order but for the exclusions have the usual exclusions where the option
holds nothing, and add the names of a list to them or are refused for its other items. But a mapping
is taken for the list of its keys, a text for that of its characters and octets for that of their
numbers, and what cannot be gone through is not refused. -/
theorem exclusions_merged (hgiven : Given around asked base options)
    (hotherwise : settle around base (Datum.withoutField exclusionsField options) = .ok settings) :
    settings.exclusions = defaultExclusions ∧
    let value := (Datum.field? exclusionsField options).getD .null
    (value.isVoid = true → load around asked = .ok settings) ∧
    (∀ items, value = .list items → Adds (load around asked) settings items) ∧
    (∀ entries, value = .mapping entries →
      Adds (load around asked) settings (entries.map Prod.fst)) ∧
    (∀ text, value = .text text → load around asked =
      .ok { settings with exclusions := defaultExclusions ++ text.map fun c => [c] }) ∧
    (∀ octets, value = .octets octets → Adds (load around asked) settings
      (octets.map fun octet => .integer octet.toNat)) ∧
    (¬ Listable value → load around asked = .error (.unusable exclusionsField)) := by
  obtain ⟨hdefault, hsettle⟩ := settle_of_otherwise hotherwise
  rw [hgiven.load_eq, hsettle]
  refine ⟨hdefault, fun hvoid => ?_, fun items hvalue => ?_, fun entries hvalue => ?_,
    fun text hvalue => ?_, fun octets hvalue => ?_, fun hlistable => ?_⟩
  · have hitems : exclusionItems options = .ok (defaultExclusions.map .text) := if_pos hvoid
    rw [hitems]
    change withItems settings (defaultExclusions.map .text) = _
    rw [withItems_readAs settings (Reading.forall₂_readAs_texts _), ← hdefault]
  · exact adds_of_itemsOf? (by rw [hvalue]; rfl)
  · exact adds_of_itemsOf? (by rw [hvalue]; rfl)
  · have hadds : Adds (exclusionItems options >>= withItems settings) settings
        (text.map fun c => .text [c]) := adds_of_itemsOf? (by rw [hvalue]; rfl)
    rw [← merged_characters]
    exact hadds.texts _ (by rw [List.map_map]; rfl)
  · exact adds_of_itemsOf? (by rw [hvalue]; rfl)
  · rw [exclusionItems_of_not_listable hlistable]
    rfl

end Loading

end Settings

namespace Command

open Settings

/-- A listed name is added unless it is one of the usual ones. -/
theorem exclusions_merged_of_list :
    let around := withSettings "excluded_files: [phpunit.xml, psalm.xml]\n"
    ∃ options, Given around none [] options ∧
      settle around [] (Datum.withoutField exclusionsField options) = .ok { root := [] } ∧
      (Datum.field? exclusionsField options).getD .null =
        .list ((["phpunit.xml", "psalm.xml"] : List Text).map .text) ∧
      Settings.load around none =
        .ok { root := [], exclusions := merged ["phpunit.xml", "psalm.xml"] } ∧
      merged ["phpunit.xml", "psalm.xml"] = defaultExclusions ++ [("psalm.xml" : Text)] := by
  intro around
  let path := FilePath.ofParts [fileName]
  have hfile : file? around none = .ok (some path) := by decide +kernel
  have hplace : around.files.canonical around.here path = .ok [fileName] := by decide +kernel
  have hnames : (readOptions around path).map (fun options =>
      ((Datum.field? exclusionsField options).getD .null).texts?) =
        .ok (some ["phpunit.xml", "psalm.xml"]) := by decide +kernel
  have hothers : (readOptions around path).map (fun options =>
      settle around [] (Datum.withoutField exclusionsField options)) =
        .ok (.ok { root := [] }) := by decide +kernel
  cases hread : readOptions around path with
  | error failure =>
      rw [hread] at hnames
      cases hnames
  | ok options =>
      rw [hread] at hnames hothers
      have hgiven : Given around none [] options := .found hfile hread hplace
      have hvalue := Datum.texts?_eq_some_iff.mp (Except.ok.inj hnames)
      obtain ⟨-, -, hlist, -⟩ := exclusions_merged hgiven (Except.ok.inj hothers)
      have hload := (hlist _ hvalue).texts _ rfl
      exact ⟨options, hgiven, Except.ok.inj hothers, hvalue, hload, by decide⟩

/-- A text in the place of the list is accepted, and excludes its characters. -/
theorem text_taken_for_list :
    let around := withSettings "excluded_files: psalm.xml\n"
    ∃ options, Given around none [] options ∧
      settle around [] (Datum.withoutField exclusionsField options) = .ok { root := [] } ∧
      (Datum.field? exclusionsField options).getD .null = .text "psalm.xml" ∧
      Settings.load around none = .ok { root := [], exclusions := defaultExclusions ++
        (["p", "s", "a", "l", "m", ".", "x", "m", "l"] : List Text) } := by
  intro around
  let path := FilePath.ofParts [fileName]
  have hfile : file? around none = .ok (some path) := by decide +kernel
  have hplace : around.files.canonical around.here path = .ok [fileName] := by decide +kernel
  have htext : (readOptions around path).map (fun options =>
      ((Datum.field? exclusionsField options).getD .null).text?) = .ok (some "psalm.xml") := by
    decide +kernel
  have hothers : (readOptions around path).map (fun options =>
      settle around [] (Datum.withoutField exclusionsField options)) =
        .ok (.ok { root := [] }) := by decide +kernel
  cases hread : readOptions around path with
  | error failure =>
      rw [hread] at htext
      cases htext
  | ok options =>
      rw [hread] at htext hothers
      exact ⟨options, .found hfile hread hplace, Except.ok.inj hothers,
        Datum.text?_eq_some_iff.mp (Except.ok.inj htext), by decide +kernel⟩

end Command

end XmlCheck
