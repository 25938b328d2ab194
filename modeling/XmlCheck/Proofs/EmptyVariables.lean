import XmlCheck.Proofs.SettingsRefusal
import XmlCheck.Proofs.TreeAnswers

/-!
# Variables that are set to nothing

An empty variable should count as one that is not set. It does wherever its value is used: an empty
root, policy or mark for annotations says nothing, and an empty name for the settings file stands for
the file of the working directory. But that file may be missing only if the name is not set, so a run
without a settings file is refused when the name is empty.
-/

namespace XmlCheck

namespace Settings

def usualFile (around : Surroundings) : FilePath :=
  .ofParts (around.here ++ [fileName])

/-- Two surroundings are the same, but for variables that are empty in the first and not set in the
second. -/
structure Blanked (names : List Text) (blank unset : Surroundings) : Prop where
  files : blank.files = unset.files
  here : blank.here = unset.here
  reader : blank.reader = unset.reader
  empty : ∀ name ∈ names, blank.valueOf? name = some []
  missing : ∀ name ∈ names, unset.valueOf? name = none
  others : ∀ name ∉ names, blank.valueOf? name = unset.valueOf? name

/-- Any variables can be set to nothing, and the same ones can be taken away. -/
theorem blanked_of_names (around : Surroundings) (names : List Text) :
    Blanked names
      { around with «variables» := names.map (fun name => (name, [])) ++ around.«variables» }
      { around with «variables» := around.«variables».filter fun e => e.1 ∉ names } := by
  have hfilter (name : Text) : (around.«variables».filter fun e => e.1 ∉ names).lookup name =
      if decide (name ∉ names) then around.«variables».lookup name else none :=
    lookup_filter_key around.«variables» (fun name => decide (name ∉ names)) name
  refine ⟨rfl, rfl, rfl, fun name hmem => ?_, fun name hmem => ?_, fun name hmem => ?_⟩
  · exact (lookup_map_append names [] _ name).trans (if_pos hmem)
  · exact (hfilter name).trans (if_neg (by simpa using hmem))
  · calc
      _ = around.«variables».lookup name :=
        (lookup_map_append names [] _ name).trans (if_neg hmem)
      _ = _ := ((hfilter name).trans (if_pos (by simpa using hmem))).symm

section Blanked

variable {names : List Text} {blank unset : Surroundings} {asked : Option FilePath}

theorem Blanked.filled?_eq (hblanked : Blanked names blank unset) (name : Text) :
    filled? blank name = filled? unset name := by
  unfold filled?
  by_cases hmem : name ∈ names
  · rw [hblanked.empty name hmem, hblanked.missing name hmem]
    rfl
  · rw [hblanked.others name hmem]

theorem Blanked.isOn_eq (hblanked : Blanked names blank unset) (name : Text) :
    isOn blank name = isOn unset name := by
  unfold isOn
  by_cases hmem : name ∈ names
  · rw [hblanked.empty name hmem, hblanked.missing name hmem]
    rfl
  · rw [hblanked.others name hmem]

theorem Blanked.settle_eq (hblanked : Blanked names blank unset) (base : List Text)
    (options : List (Datum × Datum)) : settle blank base options = settle unset base options := by
  unfold settle rootOf givenRoot? ofOptions policyOf policyDatum?
  simp only [hblanked.filled?_eq, hblanked.isOn_eq, hblanked.files]

theorem Blanked.readOptions_eq (hblanked : Blanked names blank unset) (path : FilePath) :
    readOptions blank path = readOptions unset path := by
  unfold readOptions
  rw [hblanked.files, hblanked.here, hblanked.reader]

theorem Blanked.load_eq (hblanked : Blanked names blank unset)
    (hfile : file? blank asked = file? unset asked) : load blank asked = load unset asked := by
  unfold load
  simp only [hfile, hblanked.settle_eq, hblanked.readOptions_eq, hblanked.files, hblanked.here]

theorem file?_of_unset (hunset : unset.valueOf? fileVariable = none) {path : FilePath} :
    file? unset none = .ok (some path) ↔
      unset.files.leadsSomewhere unset.here (usualFile unset) = .ok true ∧
        path = usualFile unset := by
  unfold file? usualFile
  simp only [hunset]
  split
  · rename_i hleads
    simp [hleads, eq_comm]
  · rename_i hleads
    simp [hleads]
  · rename_i cause hleads
    simp [hleads]

theorem file?_of_empty (hempty : blank.valueOf? fileVariable = some []) :
    file? blank none = .ok (some (usualFile blank)) := by
  unfold file? usualFile
  simp only [hempty]
  rfl

theorem Blanked.usualFile_eq (hblanked : Blanked names blank unset) :
    usualFile blank = usualFile unset := by
  unfold usualFile
  rw [hblanked.here]

theorem Blanked.file?_eq (hblanked : Blanked names blank unset)
    (hsame : blank.valueOf? fileVariable = unset.valueOf? fileVariable) :
    file? blank none = file? unset none := by
  unfold file?
  rw [hsame, hblanked.files, hblanked.here]

theorem readOptions_unreadable {around : Surroundings} {path : FilePath} {cause : FileError}
    (hread : around.files.read around.here path = .error cause) (hcause : cause ≠ .nullByte) :
    readOptions around path = .error (.refused (.unreadable path cause)) := by
  unfold readOptions
  rw [hread]
  cases cause with
  | nullByte => exact absurd rfl hcause
  | _ => rfl

/-- The file of the working directory has to be there if the variable that could name another one is
empty. -/
theorem Blanked.exists_unreadable (hblanked : Blanked names blank unset)
    (hhere : ∀ name ∈ unset.here, '\x00' ∉ name) (hmem : fileVariable ∈ names)
    (hleads : unset.files.leadsSomewhere unset.here (usualFile unset) ≠ .ok true) :
    ∃ cause, load blank none = .error (.refused (.unreadable (usualFile unset) cause)) := by
  have hnull : ∀ name ∈ (usualFile unset).parts, '\x00' ∉ name :=
    List.forall_mem_append.mpr ⟨hhere, by decide⟩
  obtain ⟨cause, hread, hcause⟩ := FileTree.exists_read_eq_error hleads hnull
  refine ⟨cause, ?_⟩
  unfold load
  rw [file?_of_empty (hblanked.empty _ hmem), hblanked.usualFile_eq]
  simp only [hblanked.readOptions_eq, readOptions_unreadable hread hcause, bind, Except.bind]

/-- Variables that are empty are as good as not set, for a file that is asked for, and without one
unless the name of the settings file is empty and there is none in the working directory: then the
settings are refused since the file cannot be read. -/
theorem empty_as_unset (hblanked : Blanked names blank unset)
    (hhere : ∀ name ∈ unset.here, '\x00' ∉ name) :
    (∀ path, load blank (some path) = load unset (some path)) ∧
    (load blank none = load unset none ↔ fileVariable ∉ names ∨
      unset.files.leadsSomewhere unset.here (usualFile unset) = .ok true) ∧
    (load blank none ≠ load unset none →
      ∃ cause, load blank none = .error (.refused (.unreadable (usualFile unset) cause))) := by
  have hsame : load blank none = load unset none ↔ fileVariable ∉ names ∨
      unset.files.leadsSomewhere unset.here (usualFile unset) = .ok true := by
    by_cases hmem : fileVariable ∈ names
    · have hunset := hblanked.missing _ hmem
      by_cases hleads : unset.files.leadsSomewhere unset.here (usualFile unset) = .ok true
      · refine iff_of_true (hblanked.load_eq ?_) (.inr hleads)
        rw [file?_of_empty (hblanked.empty _ hmem), hblanked.usualFile_eq,
          (file?_of_unset hunset).mpr ⟨hleads, rfl⟩]
      · -- only a file that is looked for can be unreadable, and a missing one is not looked for
        refine iff_of_false (fun hload => hleads ?_) (not_or.mpr ⟨not_not_intro hmem, hleads⟩)
        obtain ⟨cause, hrefused⟩ := hblanked.exists_unreadable hhere hmem hleads
        cases reason_of_load (hload.symm.trans hrefused) with
        | unreadable hfile => exact ((file?_of_unset hunset).mp hfile).1
    · exact iff_of_true (hblanked.load_eq (hblanked.file?_eq (hblanked.others _ hmem))) (.inl hmem)
  refine ⟨fun path => hblanked.load_eq rfl, hsame, fun hdiffers => ?_⟩
  rw [Ne, hsame, not_or, not_not] at hdiffers
  exact hblanked.exists_unreadable hhere hdiffers.1 hdiffers.2

/-- An empty policy and an empty root are passed over, with a settings file and an empty name for
it. -/
theorem empty_as_unset_with_file :
    let unset := Command.withSettings "no_schema_policy: skip\n"
    let names := [fileVariable, rootVariable, policyVariable, annotationsVariable]
    let blank := { unset with «variables» := names.map fun name => (name, []) }
    Blanked names blank unset ∧ (∀ name ∈ unset.here, '\x00' ∉ name) ∧
      load blank none = load unset none ∧
      load unset none = .ok { root := [], policy := .skip } := by
  intro unset names blank
  have hblanked : Blanked names blank unset := blanked_of_names unset names
  have hhere : ∀ name ∈ unset.here, '\x00' ∉ name := nofun
  exact ⟨hblanked, hhere, (empty_as_unset hblanked hhere).2.1.mpr (.inr (by decide +kernel)),
    by decide +kernel⟩

/-- Without a settings file there are settings if its name is not set, and none if it is empty. -/
theorem empty_not_as_unset :
    let unset : Surroundings := {}
    let blank : Surroundings := { «variables» := [(fileVariable, [])] }
    Blanked [fileVariable] blank unset ∧ load unset none = .ok { root := [] } ∧
      load blank none = .error (.refused
        (.unreadable (.ofParts [fileName]) (.notFound (.ofParts [fileName])))) :=
  ⟨blanked_of_names {} [fileVariable], by decide +kernel, by decide +kernel⟩

end Blanked

end Settings

end XmlCheck
