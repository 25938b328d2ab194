import XmlCheck.Proofs.LinkCircles
import XmlCheck.Proofs.NamedPlace
import XmlCheck.SchemaStore

/-!
# Identifiers and the directories that they are registered with

The path in an identifier never leads upwards, so the walk along it starts in the registered
directory and goes down name by name. What can take it elsewhere is a link below the directory: each
link that it meets is followed, wherever it leads. So an identifier stands for a file in its
directory unless a link that is met on its way there leads out of the directory, and where there is
no link at all on the way, the file stands at the very path that the identifier names.
-/

namespace XmlCheck

namespace FileTree

/-- Following links from the top along a place ends at another place, however many links there
are. -/
def LeadsTo (tree : FileTree) (place found : List Text) : Prop :=
  ∃ depth, tree.canonicalFrom depth [] place = some found

/-- A walk from a place along names meets a link in a directory that leads out of it. -/
def LeaksAlong (tree : FileTree) (base place names : List Text) : Prop :=
  ∃ link target found, tree.Meets place names link ∧ base <+: link ∧
    tree.entry? link = some (.link target) ∧ tree.LeadsTo link found ∧ ¬ base <+: found

theorem LeaksAlong.cons {tree : FileTree} {base place rest middle : List Text} {depth : Nat}
    {name : Text} (hstep : tree.Step depth place name middle)
    (hleaks : tree.LeaksAlong base middle rest) : tree.LeaksAlong base place (name :: rest) := by
  obtain ⟨link, target, found, hmeets, hrest⟩ := hleaks
  exact ⟨link, target, found, hmeets.cons hstep, hrest⟩

/-! ### Walks below a directory -/

/-- A walk downwards from a place in a directory stays in it, unless a link on the way leaks. -/
theorem prefix_or_leaks_of_canonicalFrom {tree : FileTree} {base : List Text} {depth : Nat}
    {place parts found : List Text} (hfound : tree.canonicalFrom depth place parts = some found)
    (hsettled : tree.Settled place) (hbase : base <+: place) (hparts : ['.', '.'] ∉ parts) :
    base <+: found ∨ tree.LeaksAlong base place parts := by
  induction parts generalizing place with
  | nil =>
      cases hfound
      exact .inl hbase
  | cons part rest ih =>
      rw [List.mem_cons, not_or] at hparts
      have hbelow : base <+: place ++ [part] := hbase.trans (List.prefix_append place [part])
      obtain ⟨middle, hstep, hfound⟩ := canonicalFrom_cons_eq_some.mp hfound
      cases hstep with
      | up => exact absurd rfl hparts.1
      | down hpart hstays =>
          have hdown : tree.Step depth place part (place ++ [part]) := .down hpart hstays
          exact (ih hfound (hsettled.snoc hpart hstays) hbelow hparts.2).imp_right (.cons hdown)
      | @link lower _ _ _ target hpart hentry hleads =>
          have hleadsTo : tree.LeadsTo (place ++ [part]) middle := by
            have hfromTop : tree.Settled ([] ++ place) := hsettled
            refine ⟨lower + 1, ?_⟩
            rw [canonicalFrom_append_of_settled hfromTop (lower + 1) [part]]
            exact canonicalFrom_cons_eq_some.mpr ⟨middle, .link hpart hentry hleads, rfl⟩
          by_cases hin : base <+: middle
          · have hlater :=
              ih hfound (settled_of_canonicalFrom hleads (hsettled.startOf _)) hin hparts.2
            exact hlater.imp_right (.cons (.link hpart hentry hleads))
          · have hmeets : tree.Meets place ([] ++ part :: rest) (place ++ [part]) :=
              .next (canonicalFrom_nil tree 0 place) hpart hentry
            exact .inr ⟨_, target, middle, hmeets, hbelow, hentry, hleadsTo, hin⟩

/-- The canonical place of a path that goes down from a settled directory is in it, unless a link on
the way leaks. -/
theorem prefix_or_leaks_of_canonical {tree : FileTree} {base parts place : List Text}
    (hcanonical : tree.canonical [] (.ofParts (base ++ parts)) = .ok place)
    (hsettled : tree.Settled base) (hparts : ['.', '.'] ∉ parts) :
    base <+: place ∨ tree.LeaksAlong base base parts := by
  have hwalk : tree.canonicalFrom tree.linkDepth [] (base ++ parts) = some place :=
    canonicalFrom_of_canonical hcanonical
  have hfromTop : tree.Settled ([] ++ base) := hsettled
  rw [canonicalFrom_append_of_settled hfromTop tree.linkDepth parts] at hwalk
  exact prefix_or_leaks_of_canonicalFrom hwalk hsettled (List.prefix_refl base) hparts

theorem eq_of_canonical_of_settled {tree : FileTree} {here parts place : List Text}
    (hcanonical : tree.canonical here (.ofParts parts) = .ok place)
    (hsettled : tree.Settled parts) : place = parts := by
  have hwalk : tree.canonicalFrom tree.linkDepth [] parts = some place :=
    canonicalFrom_of_canonical hcanonical
  have hfromTop : tree.Settled ([] ++ parts) := hsettled
  rw [canonicalFrom_of_settled hfromTop] at hwalk
  cases hwalk
  rfl

end FileTree

/-! ### Registered directories -/

/-- The path that tables register for what an identifier names. Of entries with the same key the
last counts. -/
def SchemaUrn.registered? (components modules : List (Text × Text)) : SchemaUrn → Option Text
  | .component vendor name _ =>
    (components.map fun c => (Text.lower c.1, c.2)).reverse.lookup
      (Resolver.componentKey vendor name)
  | .module name _ => modules.reverse.lookup name

namespace Resolver

section Registered

variable {tree : FileTree} {root : List Text}

/-- An entry of a table with a directory that its path stands for, seen from the root. -/
def StandsFor (tree : FileTree) (root : List Text) (entry : Text × Text)
    (found : Text × List Text) : Prop :=
  found.1 = entry.1 ∧ tree.canonical root (.ofText entry.2) = .ok found.2

theorem placesOf_eq_ok_iff {table : List (Text × Text)} {places : List (Text × List Text)} :
    placesOf tree root table = .ok places ↔ List.Forall₂ (StandsFor tree root) table places := by
  induction table generalizing places with
  | nil => simp [placesOf, eq_comm]
  | cons entry table ih =>
      obtain ⟨key, value⟩ := entry
      rw [List.forall₂_cons_left_iff]
      simp only [StandsFor, ← ih, placesOf]
      cases tree.canonical root (.ofText value) with
      | error cause => simp
      | ok place =>
          cases placesOf tree root table with
          | error cause => simp
          | ok rest => simp [eq_comm]

theorem exists_lookup_of_forall₂ {table : List (Text × Text)} {places : List (Text × List Text)}
    (hplaces : List.Forall₂ (StandsFor tree root) table places) {key : Text} {place : List Text}
    (hlookup : places.lookup key = some place) :
    ∃ value, table.lookup key = some value ∧ tree.canonical root (.ofText value) = .ok place := by
  induction hplaces with
  | nil => cases hlookup
  | @cons entry found table places hentry _ ih =>
      obtain ⟨name, value⟩ := entry
      obtain ⟨rfl, hcanonical⟩ := hentry
      rw [lookup_cons_eq_ite] at hlookup ⊢
      split at hlookup
      · cases hlookup
        rename_i hkey
        exact ⟨value, by rw [if_pos hkey], hcanonical⟩
      · rename_i hkey
        rw [if_neg hkey]
        exact ih hlookup

variable {here : List Text} {path : FilePath} {components modules : List (Text × Text)}
  {resolver : Resolver}

theorem canonical_root (htables : ofTables tree here path components modules = .ok resolver) :
    tree.canonical here path = .ok resolver.root := by
  unfold ofTables at htables
  split at htables
  · cases htables
  · rename_i place hcanonical
    split at htables
    · cases htables
    · cases htables
    · cases htables
      exact hcanonical

theorem forall₂_ofTables (htables : ofTables tree here path components modules = .ok resolver) :
    List.Forall₂ (StandsFor tree resolver.root)
        (components.map fun c => (Text.lower c.1, c.2)).reverse resolver.components ∧
      List.Forall₂ (StandsFor tree resolver.root) modules.reverse resolver.modules := by
  unfold ofTables at htables
  split at htables
  · cases htables
  · split at htables
    · cases htables
    · cases htables
    · rename_i componentPlaces modulePlaces hcomponents hmodules
      cases htables
      refine ⟨List.rel_reverse ?_, List.rel_reverse (placesOf_eq_ok_iff.mp hmodules)⟩
      rw [List.forall₂_map_left_iff, List.forall₂_map_right_iff]
      exact (placesOf_eq_ok_iff.mp hcomponents).imp fun _ _ h => ⟨congrArg Text.lower h.1, h.2⟩

/-- What a resolver has for an identifier is the canonical place of the registered path. -/
theorem registered_of_base? (htables : ofTables tree here path components modules = .ok resolver)
    {urn : SchemaUrn} {base : List Text} (hbase : resolver.base? urn = .ok base) :
    ∃ value, urn.registered? components modules = some value ∧
      tree.canonical resolver.root (.ofText value) = .ok base := by
  obtain ⟨hcomponents, hmodules⟩ := forall₂_ofTables htables
  unfold base? at hbase
  split at hbase
  · split at hbase
    · rename_i hlookup
      cases hbase
      exact exists_lookup_of_forall₂ hmodules hlookup
    · cases hbase
  · dsimp only at hbase
    split at hbase
    · rename_i hlookup
      cases hbase
      exact exists_lookup_of_forall₂ hcomponents hlookup
    · cases hbase

end Registered

theorem target_eq_ok {resolver : Resolver} {identifier : Text} {base parts : List Text}
    (htarget : resolver.target identifier = .ok (base, parts)) :
    ∃ urn, SchemaUrn.ofText identifier = .ok urn ∧ resolver.base? urn = .ok base ∧
      parts = (FilePath.ofText urn.path).parts ∧ ['.', '.'] ∉ parts := by
  unfold target at htarget
  split at htarget
  · cases htarget
  · rename_i urn hurn
    split at htarget
    · cases htarget
    · rename_i found hbase
      dsimp only at htarget
      split at htarget
      · cases htarget
      · rename_i hinside
        cases htarget
        refine ⟨urn, hurn, hbase, rfl, fun hmem => hinside ?_⟩
        rw [List.contains_iff_mem.mpr hmem, Bool.or_true]

/-- The file that an identifier stands for is in the canonical directory that is registered for what
the identifier names, unless a link that is met in that directory on the way along the path of the
identifier leads out of it. Where no part of the way is a link, the file stands at that path below
the directory. -/
theorem in_registered_root_or_leaks {tree : FileTree} {here : List Text} {path : FilePath}
    {components modules : List (Text × Text)} {resolver : Resolver} {identifier : Text}
    {place : List Text} (hhere : tree.Settled here)
    (htables : ofTables tree here path components modules = .ok resolver)
    (hresolve : (({} : SchemaStore).resolve resolver tree identifier).1 = .ok place) :
    ∃ urn value base, SchemaUrn.ofText identifier = .ok urn ∧
      urn.registered? components modules = some value ∧
      tree.canonical here path = .ok resolver.root ∧
      tree.canonical resolver.root (.ofText value) = .ok base ∧
      (base <+: place ∨ tree.LeaksAlong base base (FilePath.ofText urn.path).parts) ∧
      (tree.Settled (base ++ (FilePath.ofText urn.path).parts) →
        place = base ++ (FilePath.ofText urn.path).parts) := by
  have hlocate : resolver.locate tree identifier = .ok place := hresolve
  obtain ⟨base, parts, htarget, hcanonical, -⟩ := locate_eq_ok hlocate
  obtain ⟨urn, hurn, hbase, rfl, hparts⟩ := target_eq_ok htarget
  obtain ⟨value, hvalue, hregistered⟩ := registered_of_base? htables hbase
  have hroot := canonical_root htables
  have hsettled : tree.Settled base := FileTree.settled_of_canonical hregistered
    (FileTree.settled_of_canonical hroot hhere)
  exact ⟨urn, value, base, hurn, hvalue, hroot, hregistered,
    FileTree.prefix_or_leaks_of_canonical hcanonical hsettled hparts,
    FileTree.eq_of_canonical_of_settled hcanonical⟩

/-- A tree with the directories `lib` and `out`, where `lib` has a link. -/
def linked (target : Text) : FileTree :=
  { entries := [(["lib"], .directory), (["out"], .directory), (["out", "x"], .file []),
      (["lib", "y"], .file []), (["lib", "x"], .link target)] }

def ofLib : Resolver :=
  { root := [], components := [("a:b", ["lib"])], modules := [] }

/-- A link to a file beside it. -/
theorem in_registered_root_linked_inside :
    (linked "y").Settled [] ∧
      ofTables (linked "y") [] (.ofParts []) [("a:b", "lib")] [] = .ok ofLib ∧
      (({} : SchemaStore).resolve ofLib (linked "y") "urn:a:b:x").1 = .ok ["lib", "y"] ∧
      ∃ urn value base, SchemaUrn.ofText "urn:a:b:x" = .ok urn ∧
        urn.registered? [("a:b", "lib")] [] = some value ∧
        (linked "y").canonical [] (.ofParts []) = .ok ofLib.root ∧
        (linked "y").canonical ofLib.root (.ofText value) = .ok base ∧
        (base <+: ["lib", "y"] ∨
          (linked "y").LeaksAlong base base (FilePath.ofText urn.path).parts) ∧
        ((linked "y").Settled (base ++ (FilePath.ofText urn.path).parts) →
          (["lib", "y"] : List Text) = base ++ (FilePath.ofText urn.path).parts) := by
  have htables : ofTables (linked "y") [] (.ofParts []) [("a:b", "lib")] [] = .ok ofLib := by
    decide +kernel
  have hresolve : (({} : SchemaStore).resolve ofLib (linked "y") "urn:a:b:x").1 =
      .ok ["lib", "y"] := by decide +kernel
  have hhere : (linked "y").Settled [] := FileTree.settled_nil _
  exact ⟨hhere, htables, hresolve, in_registered_root_or_leaks hhere htables hresolve⟩

/-- A link to a file elsewhere takes an identifier out of its directory. -/
theorem leaves_root_linked_outside :
    ofTables (linked "../out/x") [] (.ofParts []) [("a:b", "lib")] [] = .ok ofLib ∧
      (({} : SchemaStore).resolve ofLib (linked "../out/x") "urn:a:b:x").1 = .ok ["out", "x"] ∧
      SchemaUrn.ofText "urn:a:b:x" = .ok (.component "a" "b" "x") ∧
      ofLib.base? (.component "a" "b" "x") = .ok ["lib"] ∧
      ¬ (["lib"] : List Text) <+: ["out", "x"] := by
  decide +kernel

end Resolver

end XmlCheck
