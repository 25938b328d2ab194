import XmlCheck.Proofs.NamedPlace
import XmlCheck.Settings

/-!
# The project root that settings give

Whatever the settings and the environment say, a project root that is found from a working directory
with names has names all along: it is the canonical place of a path that is read from a text, or of
the directory of the settings.
-/

namespace XmlCheck

namespace Settings

variable {around : Surroundings} {base root : List Text} {options : List (Datum × Datum)}
  {settings : Settings}

theorem hasNames_ofText (text : Text) : HasNames (FilePath.ofText text).parts :=
  hasNames_partsOf text

theorem hasNames_givenRoot {given : Option FilePath}
    (hgiven : givenRoot? around options = .ok given) :
    HasNames (given.getD ⟨.here, []⟩).parts := by
  unfold givenRoot? at hgiven
  split at hgiven
  · cases hgiven
    exact hasNames_ofText _
  · split at hgiven
    · split at hgiven
      · cases hgiven
        exact hasNames_nil
      · cases hgiven
        exact hasNames_ofText _
    · split at hgiven
      · cases hgiven
        exact hasNames_nil
      · cases hgiven

theorem hasNames_rootOf (hbase : HasNames base) (hroot : rootOf around base options = .ok root) :
    HasNames root := by
  unfold rootOf at hroot
  split at hroot
  · cases hroot
  · rename_i given hgiven
    cases hcanonical : around.files.canonical base (given.getD ⟨.here, []⟩) with
    | error cause =>
        rw [hcanonical] at hroot
        cases hroot
    | ok place =>
        rw [hcanonical] at hroot
        cases hroot
        exact FileTree.hasNames_of_canonical hcanonical hbase (hasNames_givenRoot hgiven)

theorem root_of_ofOptions {exclusions : List Datum}
    (hsettings : ofOptions around root exclusions options = .ok settings) :
    settings.root = root := by
  obtain ⟨components, modules, names, policy, -, -, -, -, rfl⟩ := ofOptions_eq_ok_iff.mp hsettings
  rfl

theorem rootOf_of_settle (hsettings : settle around base options = .ok settings) :
    rootOf around base options = .ok settings.root := by
  simp only [settle, bind, Except.bind] at hsettings
  split at hsettings
  · cases hsettings
  · rename_i exclusions _
    split at hsettings
    · cases hsettings
    · rename_i root hroot
      cases hread : ofOptions around root exclusions options with
      | error faults =>
          rw [hread] at hsettings
          cases hsettings
      | ok read =>
          rw [hread] at hsettings
          cases hsettings
          rw [root_of_ofOptions hread]
          exact hroot

theorem hasNames_settle (hbase : HasNames base)
    (hsettings : settle around base options = .ok settings) : HasNames settings.root :=
  hasNames_rootOf hbase (rootOf_of_settle hsettings)

theorem hasNames_file {path : FilePath} (hhere : HasNames around.here)
    (hfile : file? around none = .ok (some path)) : HasNames path.parts := by
  have hname : HasNames [fileName] := fun name hmem =>
    List.mem_singleton.mp hmem ▸ List.cons_ne_nil _ _
  have husual : HasNames (around.here ++ [fileName]) := hasNames_append.mpr ⟨hhere, hname⟩
  unfold file? at hfile
  cases hvalue : around.valueOf? fileVariable with
  | some value =>
      simp only [hvalue, Except.ok.injEq, Option.some.injEq] at hfile
      rw [← hfile]
      split
      · exact husual
      · exact hasNames_ofText value
  | none =>
      simp only [hvalue] at hfile
      split at hfile
      · rw [← Option.some.inj (Except.ok.inj hfile)]
        exact husual
      · cases hfile
      · cases hfile

theorem hasNames_load (hhere : HasNames around.here)
    (hload : Settings.load around none = .ok settings) : HasNames settings.root := by
  simp only [Settings.load, bind, Except.bind] at hload
  split at hload
  · cases hload
  · rename_i found hfile
    split at hload
    · exact hasNames_settle hhere hload
    · rename_i path
      split at hload
      · cases hload
      · cases hcanonical : around.files.canonical around.here path with
        | error cause =>
            rw [hcanonical] at hload
            cases hload
        | ok place =>
            rw [hcanonical] at hload
            have hplace := FileTree.hasNames_of_canonical hcanonical hhere
              (hasNames_file hhere hfile)
            refine hasNames_settle (fun name hname => ?_) hload
            exact hplace name (List.mem_of_mem_dropLast hname)

end Settings

end XmlCheck
