import XmlCheck.Proofs.CanonicalPlace
import XmlCheck.Resolver

/-!
# Names along a place

A path that is read from a text has no empty names, and following links brings none in. So the
places that a resolver finds have names all along, and what shows them is never empty.
-/

namespace XmlCheck

/-- Whether all names are ones that a path may be read with: none is empty. -/
def HasNames (parts : List Text) : Prop :=
  ∀ name ∈ parts, name ≠ []

theorem hasNames_nil : HasNames [] := by simp [HasNames]

theorem hasNames_append {first second : List Text} :
    HasNames (first ++ second) ↔ HasNames first ∧ HasNames second := by
  simp only [HasNames, List.mem_append, or_imp, forall_and]

theorem hasNames_partsOf (text : Text) : HasNames (FilePath.partsOf text) := by
  intro name hmem hempty
  have hkept := (List.mem_filter.mp hmem).2
  rw [hempty] at hkept
  exact absurd hkept (by decide)

namespace FileTree

theorem hasNames_of_canonical {tree : FileTree} {here place : List Text} {path : FilePath}
    (hcanonical : tree.canonical here path = .ok place) (hhere : HasNames here)
    (hparts : HasNames path.parts) : HasNames place :=
  forall_mem_of_canonical (fun _ target _ => hasNames_partsOf target) hcanonical hhere hparts

end FileTree

theorem FilePath.toText_ne_nil {path : FilePath} (hnames : HasNames path.parts) :
    path.toText ≠ [] := by
  unfold FilePath.toText
  obtain ⟨anchor, parts⟩ := path
  cases anchor with
  | top => simp
  | doubleTop => simp
  | here =>
      cases parts with
      | nil => simp
      | cons name rest =>
          have hname : name ≠ [] := hnames name (List.mem_cons_self ..)
          cases rest with
          | nil => simpa [Text.join] using hname
          | cons next rest => simp [Text.join]

namespace Resolver

/-- The resolver was made from a root and tables, in a directory of some file tree. Only paths that
have empty names are left out, which no text gives. -/
def Made (resolver : Resolver) : Prop :=
  ∃ (tree : FileTree) (here : List Text) (root : FilePath)
    (components modules : List (Text × Text)), HasNames here ∧ HasNames root.parts ∧
      ofTables tree here root components modules = .ok resolver

/-- No registered directory has an empty name. -/
structure Named (resolver : Resolver) : Prop where
  components : ∀ entry ∈ resolver.components, HasNames entry.2
  modules : ∀ entry ∈ resolver.modules, HasNames entry.2

theorem hasNames_of_placesOf {tree : FileTree} {root : List Text} {table : List (Text × Text)}
    {places : List (Text × List Text)} (hplaces : placesOf tree root table = .ok places)
    (hroot : HasNames root) : ∀ entry ∈ places, HasNames entry.2 := by
  induction table generalizing places with
  | nil =>
      cases hplaces
      exact fun _ hmem => by cases hmem
  | cons entry table ih =>
      obtain ⟨key, value⟩ := entry
      rw [placesOf] at hplaces
      split at hplaces
      · cases hplaces
      · cases hplaces
      · rename_i place rest hcanonical hrest
        cases hplaces
        intro entry hmem
        rcases List.mem_cons.mp hmem with heq | hmem
        · rw [heq]
          exact FileTree.hasNames_of_canonical hcanonical hroot (hasNames_partsOf value)
        · exact ih hrest entry hmem

theorem Made.named {resolver : Resolver} (hmade : resolver.Made) : resolver.Named := by
  obtain ⟨tree, here, root, components, modules, hhere, hparts, htables⟩ := hmade
  unfold ofTables at htables
  split at htables
  · cases htables
  · rename_i place hcanonical
    have hroot : HasNames place :=
      FileTree.hasNames_of_canonical hcanonical hhere hparts
    split at htables
    · cases htables
    · cases htables
    · rename_i components modules hcomponents hmodules
      cases htables
      refine ⟨fun entry hmem => ?_, fun entry hmem => ?_⟩
      · obtain ⟨component, hcomponent, rfl⟩ := List.mem_map.mp (List.mem_reverse.mp hmem)
        exact hasNames_of_placesOf hcomponents hroot component hcomponent
      · exact hasNames_of_placesOf hmodules hroot entry (List.mem_reverse.mp hmem)

theorem Named.base {resolver : Resolver} (hnamed : resolver.Named) {urn : SchemaUrn}
    {base : List Text} (hbase : resolver.base? urn = .ok base) : HasNames base := by
  unfold base? at hbase
  split at hbase
  · split at hbase
    · rename_i hlookup
      cases hbase
      exact hnamed.modules _ (mem_of_lookup hlookup)
    · cases hbase
  · dsimp only at hbase
    split at hbase
    · rename_i hlookup
      cases hbase
      exact hnamed.components _ (mem_of_lookup hlookup)
    · cases hbase

theorem Named.target {resolver : Resolver} (hnamed : resolver.Named) {identifier : Text}
    {base parts : List Text} (htarget : resolver.target identifier = .ok (base, parts)) :
    HasNames (base ++ parts) := by
  unfold Resolver.target at htarget
  split at htarget
  · cases htarget
  · rename_i urn _
    split at htarget
    · cases htarget
    · rename_i found hbase
      dsimp only at htarget
      split at htarget
      · cases htarget
      · cases htarget
        exact hasNames_append.mpr ⟨hnamed.base hbase, hasNames_partsOf urn.path⟩

theorem locate_eq_ok {resolver : Resolver} {tree : FileTree} {identifier : Text}
    {place : List Text} (hlocate : resolver.locate tree identifier = .ok place) :
    ∃ base parts, resolver.target identifier = .ok (base, parts) ∧
      tree.canonical [] (.ofParts (base ++ parts)) = .ok place ∧
      tree.isFile [] (.ofParts place) = .ok true := by
  unfold locate at hlocate
  dsimp only at hlocate
  split at hlocate
  · cases hlocate
  · rename_i base parts htarget
    split at hlocate
    · cases hlocate
    · rename_i found hcanonical
      split at hlocate
      · cases hlocate
      · rename_i hfile
        cases hlocate
        exact ⟨base, parts, htarget, hcanonical, hfile⟩
      · cases hlocate

theorem Named.locate {resolver : Resolver} (hnamed : resolver.Named) {tree : FileTree}
    {identifier : Text} {place : List Text}
    (hlocate : resolver.locate tree identifier = .ok place) : HasNames place := by
  obtain ⟨base, parts, htarget, hcanonical, _⟩ := locate_eq_ok hlocate
  exact FileTree.hasNames_of_canonical hcanonical hasNames_nil (hnamed.target htarget)

theorem displayPath_eq_ok {resolver : Resolver} {tree : FileTree} {here place : List Text}
    {path : FilePath} (hplace : tree.canonical here path = .ok place) :
    resolver.displayPath tree here path = .ok (resolver.shownPlace place) := by
  rw [displayPath, hplace]
  rfl

theorem shownPlace_ne_nil (resolver : Resolver) {place : List Text} (hnames : HasNames place) :
    resolver.shownPlace place ≠ [] := by
  unfold shownPlace
  split
  · rename_i parts hbelow
    have hplace : place = resolver.root ++ parts := Text.after?_eq_some hbelow
    rw [hplace] at hnames
    exact FilePath.toText_ne_nil (hasNames_append.mp hnames).2
  · exact FilePath.toText_ne_nil hnames

end Resolver

end XmlCheck
