import XmlCheck.Proofs.DisplayNames
import XmlCheck.Proofs.LinkCircles
import XmlCheck.Proofs.RootContainment
import XmlCheck.Proofs.RunHistory

/-!
# Display paths of schemas

The display path of a schema is to be read from the project root. Whether it is the rest of the way
to a file in the root or a path from the top is settled by the canonical places of the two alone, so
it leads back to the file from every directory, and a path outside the root is never taken for one in
it (`Resolver.Displays`). The path that a store remembers for an identifier may have been found among
other files; its names are still ones that files can have, so what a run shows of it leads back too.
-/

namespace XmlCheck

namespace FileTree

/-- A directory in which a program can stand: no part of its path is a link, and its names are ones
that files can have. -/
structure IsWorkplace (tree : FileTree) (here : List Text) : Prop where
  settled : tree.Settled here
  isFileName : ∀ name ∈ here, IsFileName name

theorem isWorkplace_nil (tree : FileTree) : tree.IsWorkplace [] :=
  ⟨tree.settled_nil, nofun⟩

variable {tree : FileTree} {here place : List Text} {path : FilePath} {text : Text}

theorem IsWorkplace.of_canonical (hproper : tree.Proper) (hhere : tree.IsWorkplace here)
    (hwritten : path.IsWritten) (hcanonical : tree.canonical here path = .ok place) :
    tree.IsWorkplace place :=
  ⟨settled_of_canonical hcanonical hhere.settled,
    isFileName_of_canonical hproper hhere.isFileName hwritten hcanonical⟩

theorem CircleFree.exists_canonical_or_null (hfree : tree.CircleFree) (here : List Text)
    (text : Text) :
    (∃ place, tree.canonical here (.ofText text) = .ok place) ∨
      '\x00' ∈ text ∧ tree.canonical here (.ofText text) = .error .nullByte := by
  by_cases hnull : ∀ name ∈ (FilePath.ofText text).parts, '\x00' ∉ name
  · exact .inl (hfree.exists_canonical here hnull)
  · right
    push Not at hnull
    obtain ⟨name, hmem, hname⟩ := hnull
    have hany : ((FilePath.ofText text).parts.any fun part => List.contains part '\x00') = true :=
      List.any_eq_true.mpr ⟨name, hmem, List.contains_iff_mem.mpr hname⟩
    refine ⟨FilePath.mem_of_mem_partsOf hmem hname, ?_⟩
    rw [canonical, if_pos hany]

end FileTree

namespace Resolver

/-- What a display path says of a place. Read from the project root, as it was given or in its
canonical form, the path leads there; it starts at the root exactly if the place lies in the root,
and never leads upwards. -/
structure Displays (tree : FileTree) (start : List Text) (root : FilePath)
    (settled place : List Text) (shown : Text) : Prop where
  leads : tree.canonical start (root.join (.ofText shown)) = .ok place
  leadsFrom : ∀ here, tree.canonical here ((FilePath.ofParts settled).join (.ofText shown)) =
    .ok place
  ne_nil : shown ≠ []
  relative_iff : (FilePath.ofText shown).isAbsolute = false ↔ settled <+: place
  descends : ['.', '.'] ∉ (FilePath.ofText shown).parts
  outside : ¬ settled <+: place → shown = (FilePath.ofParts place).toText

section Places

variable {tree : FileTree} {start here place : List Text} {root path : FilePath} {shown : Text}

theorem shownPlace_eq (resolver : Resolver) (place : List Text) : resolver.shownPlace place =
    (Discovery.shownPath resolver.root place (.ofParts place)).toText := by
  unfold shownPlace Discovery.shownPath
  cases FilePath.below? resolver.root place <;> rfl

theorem isAbsolute_shownPath (settled place : List Text) :
    (Discovery.shownPath settled place (.ofParts place)).isAbsolute = false ↔ settled <+: place := by
  by_cases hinside : settled <+: place
  · obtain ⟨parts, rfl⟩ := hinside
    rw [Discovery.shownPath_append]
    exact iff_of_true rfl (List.prefix_append settled parts)
  · rw [Discovery.shownPath_of_outside hinside]
    exact iff_of_false (ne_of_beq_false rfl) hinside

theorem parts_shownPath_subset (settled place : List Text) :
    (Discovery.shownPath settled place (.ofParts place)).parts ⊆ place := by
  by_cases hinside : settled <+: place
  · obtain ⟨parts, rfl⟩ := hinside
    rw [Discovery.shownPath_append]
    exact List.subset_append_right settled parts
  · rw [Discovery.shownPath_of_outside hinside]
    exact List.Subset.refl place

theorem displays_shownPlace {resolver : Resolver} (hstart : tree.IsWorkplace start)
    (hwritten : root.IsWritten) (hproper : tree.Proper)
    (hroot : tree.canonical start root = .ok resolver.root) (hplace : tree.IsWorkplace place) :
    Displays tree start root resolver.root place (resolver.shownPlace place) := by
  have hown : tree.canonical [] (.ofParts place) = .ok place :=
    FileTree.canonical_ofParts [] hplace.settled fun name hmem => (hplace.isFileName name hmem).noNull
  have hread : FilePath.ofText (resolver.shownPlace place) =
      Discovery.shownPath resolver.root place (.ofParts place) := by
    rw [shownPlace_eq]
    exact FilePath.ofText_toText
      (Discovery.isWritten_shownPath hplace.isFileName hplace.isFileName)
  have hleads : tree.canonical resolver.root (.ofText (resolver.shownPlace place)) = .ok place := by
    rw [hread]
    exact Discovery.canonical_shownPath tree.settled_nil hown hplace.isFileName (.absolute rfl)
  have hsettled : tree.IsWorkplace resolver.root := hstart.of_canonical hproper hwritten hroot
  refine ⟨?_, fun here => ?_, ?_, ?_, ?_, ?_⟩
  · exact (FileTree.canonical_join_eq_ok_iff hroot).mpr hleads
  · have hsame := FileTree.canonical_ofParts here hsettled.settled fun name hmem =>
      (hsettled.isFileName name hmem).noNull
    exact (FileTree.canonical_join_eq_ok_iff hsame).mpr hleads
  · exact resolver.shownPlace_ne_nil fun name hmem => (hplace.isFileName name hmem).ne_nil
  · rw [hread]
    exact isAbsolute_shownPath resolver.root place
  · rw [hread]
    exact fun hmem => hplace.settled.descends (parts_shownPath_subset resolver.root place hmem)
  · intro houtside
    rw [shownPlace_eq, Discovery.shownPath_of_outside houtside]

end Places

section Located

variable {tree : FileTree} {start : List Text} {root : FilePath}
  {components modules : List (Text × Text)} {resolver : Resolver}

/-- The file of an identifier has a path with names that files can have, in whatever tree it was
found. -/
theorem isFileName_of_locate (hproper : tree.Proper) (hroot : tree.IsWorkplace resolver.root)
    (htables : ofTables tree start root components modules = .ok resolver) {other : FileTree}
    {identifier : Text} {place : List Text}
    (hlocate : resolver.locate other identifier = .ok place) : ∀ name ∈ place, IsFileName name := by
  obtain ⟨base, parts, htarget, hcanonical, hfile⟩ := locate_eq_ok hlocate
  obtain ⟨urn, -, hbase, rfl, -⟩ := target_eq_ok htarget
  obtain ⟨value, -, hregistered⟩ := registered_of_base? htables hbase
  have hbasePlace : tree.IsWorkplace base :=
    hroot.of_canonical hproper (FileTree.isWritten_of_canonical hregistered) hregistered
  -- other files may have other links, but none whose target brings in more than a null character
  have hfound : ∀ name ∈ place, '\x00' ∉ name → IsFileName name := by
    refine FileTree.forall_mem_of_canonical (Q := fun name => '\x00' ∉ name → IsFileName name)
      (fun _ _ _ name hmem => FilePath.isFileName_of_mem_partsOf hmem) hcanonical nofun ?_
    refine List.forall_mem_append.mpr ⟨fun name hmem _ => hbasePlace.isFileName name hmem, ?_⟩
    exact fun name hmem => FilePath.isFileName_of_mem_partsOf hmem
  exact fun name hmem => hfound name hmem (FileTree.null_not_mem_of_isFile hfile name hmem)

/-- Paths are shown alike exactly if they lead to the same place, where places are told apart by what
shows them. -/
theorem displayPath_eq_iff {here there : List Text} {path other : FilePath}
    (hapart : ∀ place next, tree.canonical here path = .ok place →
      tree.canonical there other = .ok next →
      resolver.shownPlace place = resolver.shownPlace next → place = next) :
    resolver.displayPath tree here path = resolver.displayPath tree there other ↔
      tree.canonical here path = tree.canonical there other := by
  refine ⟨fun hsame => ?_, fun hsame => by rw [displayPath, displayPath, hsame]⟩
  unfold displayPath at hsame
  cases hplace : tree.canonical here path with
  | error cause =>
      cases hnext : tree.canonical there other with
      | error failure =>
          rw [hplace, hnext] at hsame
          cases hsame
          rfl
      | ok next =>
          rw [hplace, hnext] at hsame
          cases hsame
  | ok place =>
      cases hnext : tree.canonical there other with
      | error failure =>
          rw [hplace, hnext] at hsame
          cases hsame
      | ok next =>
          rw [hplace, hnext] at hsame
          rw [hapart place next hplace hnext (Except.ok.inj hsame)]

end Located

end Resolver

namespace Pipeline

variable {pipeline : Pipeline} {tree : FileTree} {here : List Text} {store after : SchemaStore}
  {request : Request} {result : Except RunFailure Outcome} {stages : List Stage}
  {outcome : Outcome} {reference : SchemaReference} {path : FilePath}

/-- A run that tells of a file for its schema has asked the resolver for it. -/
theorem Runs.exists_reference (hruns : Runs pipeline tree here store request result after stages)
    (hresult : result = .ok outcome) (hschema : outcome.schema = some reference)
    (hresolved : reference.resolved = some path) :
    ∃ identifier place, (store.resolve pipeline.resolver tree identifier).1 = .ok place ∧
      pipeline.reference tree identifier place = .ok reference := by
  subst hresult
  cases hruns with
  | malformed => cases hschema
  | undeclared => cases hschema
  | declared _ hrest =>
      cases hrest with
      | unresolved =>
          cases hschema
          cases hresolved
      | @against place _ _ _ _ hresolve hrefer hagainst =>
          refine ⟨_, place, hresolve, ?_⟩
          cases hagainst <;> (cases hschema; exact hrefer)

end Pipeline

namespace Resolver

section Main

variable {tree : FileTree} {start : List Text} {root : Text}
  {components modules : List (Text × Text)} {resolver : Resolver}

/-- In a file system whose links lead in no circle every path that a file can have is shown by a text
that leads back to its canonical place. Two paths are shown alike exactly if they lead to the same
place, and what the outcome of a run shows of a schema with a file is the display path of that file,
whatever the store was asked for before. -/
theorem display_paths_lead_back (hproper : tree.Proper) (hfree : tree.CircleFree)
    (hstart : tree.IsWorkplace start)
    (htables : ofTables tree start (.ofText root) components modules = .ok resolver) :
    (∀ here text, tree.IsWorkplace here →
      (∃ place shown, tree.canonical here (.ofText text) = .ok place ∧
          resolver.displayPath tree here (.ofText text) = .ok shown ∧
          Displays tree start (.ofText root) resolver.root place shown) ∨
        '\x00' ∈ text ∧ tree.canonical here (.ofText text) = .error .nullByte ∧
          resolver.displayPath tree here (.ofText text) = .error .nullByte) ∧
    (∀ here there text other, tree.IsWorkplace here → tree.IsWorkplace there →
      (resolver.displayPath tree here (.ofText text) =
          resolver.displayPath tree there (.ofText other) ↔
        tree.canonical here (.ofText text) = tree.canonical there (.ofText other))) ∧
    ∀ pipeline store here request outcome reference path, pipeline.resolver = resolver →
      SchemaStore.Grown pipeline store → (pipeline.run tree here store request).1 = .ok outcome →
      outcome.schema = some reference → reference.resolved = some path →
      ∃ place, tree.canonical here path = .ok place ∧
        resolver.displayPath tree here path = .ok reference.displayPath ∧
        Displays tree start (.ofText root) resolver.root place reference.displayPath := by
  have hroot := canonical_root htables
  have hwritten : (FilePath.ofText root).IsWritten := FileTree.isWritten_of_canonical hroot
  have hrootPlace : tree.IsWorkplace resolver.root := hstart.of_canonical hproper hwritten hroot
  have hdisplays : ∀ place, tree.IsWorkplace place →
      Displays tree start (.ofText root) resolver.root place (resolver.shownPlace place) :=
    fun place => displays_shownPlace hstart hwritten hproper hroot
  have hplaces : ∀ here text place, tree.IsWorkplace here →
      tree.canonical here (.ofText text) = .ok place → tree.IsWorkplace place :=
    fun here text place hhere hplace =>
      hhere.of_canonical hproper (FileTree.isWritten_of_canonical hplace) hplace
  refine ⟨fun here text hhere => ?_, fun here there text other hhere hthere => ?_, ?_⟩
  · rcases hfree.exists_canonical_or_null here text with ⟨place, hplace⟩ | ⟨hmem, hnull⟩
    · exact .inl ⟨place, _, hplace, displayPath_eq_ok hplace,
        hdisplays place (hplaces here text place hhere hplace)⟩
    · refine .inr ⟨hmem, hnull, ?_⟩
      rw [displayPath, hnull]
      rfl
  · refine displayPath_eq_iff fun place next hplace hnext hshown => ?_
    have hleads := (hdisplays place (hplaces here text place hhere hplace)).leads
    rw [hshown, (hdisplays next (hplaces there other next hthere hnext)).leads] at hleads
    exact (Except.ok.inj hleads).symm
  · rintro pipeline store here request outcome reference path rfl hgrown hrun hschema hresolved
    obtain ⟨identifier, found, hresolve, hrefer⟩ :=
      (Pipeline.runs_run store request).exists_reference hrun hschema hresolved
    obtain ⟨place, hplace, rfl⟩ := Pipeline.reference_eq_ok.mp hrefer
    cases hresolved
    obtain ⟨other, hlocate⟩ := hgrown.exists_locate_of_resolve hresolve
    have hfound : (FilePath.ofParts found).IsWritten :=
      isFileName_of_locate hproper hrootPlace htables hlocate
    have hthere : tree.canonical here (.ofParts found) = .ok place := by
      rw [FileTree.canonical_of_isAbsolute rfl here [], hplace]
    exact ⟨place, hthere, displayPath_eq_ok hthere,
      hdisplays place (tree.isWorkplace_nil.of_canonical hproper hfound hplace)⟩

/-- A tree in which a link leads to the project root, and a schema in it is a link out of it, to a
directory whose name begins with that of the root. -/
def besideRoot : FileTree :=
  { entries := [(["p"], .directory), (["p", "lib"], .directory),
      (["p", "lib", "x.xsd"], .link "../../pq/y.xsd"), (["p", "lib", "z.xsd"], .file []),
      (["pq"], .directory), (["pq", "y.xsd"], .file []), (["r"], .link "p")] }

def ofBesideRoot : Resolver :=
  { root := ["p"], components := [("a:b", ["p", "lib"])], modules := [] }

theorem proper_besideRoot : besideRoot.Proper where
  distinct := by
    unfold FileTree.Distinct
    decide
  isFileName := by decide
  null_not_mem := by simp [besideRoot]

theorem circleFree_besideRoot : besideRoot.CircleFree := by
  refine FileTree.circleFree_iff.mpr fun link target hentry => ?_
  have hmem := FileTree.mem_entries_of_link hentry
  simp only [besideRoot, List.mem_cons, Prod.mk.injEq, Entry.link.injEq, reduceCtorEq, and_false,
    false_or, or_false, List.not_mem_nil] at hmem
  rcases hmem with ⟨rfl, rfl⟩ | ⟨rfl, rfl⟩
  · exact ⟨["pq", "y.xsd"], by decide +kernel⟩
  · exact ⟨["p"], by decide +kernel⟩

/-- The root is shown as a dot, a file in it by the rest of its path, and the link out of it by the
path of its target, by which the outcome of a document names it too. -/
theorem display_paths_lead_back_beside_root :
    let displays (place : List Text) (shown : Text) :=
      Displays besideRoot [] (.ofText "r") ["p"] place shown
    let content := Utf8.encode (("<r xmlns:xsi=\"http://www.w3.org/2001/XMLSchema-instance\" " :
      Text) ++ "xsi:noNamespaceSchemaLocation=\"urn:a:b:x.xsd\"/>")
    let request : Request := { displayName := "d.xml", content := some content }
    let pipeline : Pipeline := { resolver := ofBesideRoot }
    besideRoot.Proper ∧ besideRoot.CircleFree ∧ besideRoot.IsWorkplace [] ∧
      besideRoot.IsWorkplace ["p", "lib"] ∧
      ofTables besideRoot [] (.ofText "r") [("a:b", "lib")] [] = .ok ofBesideRoot ∧
      displays ["p"] "." ∧ displays ["p", "lib", "z.xsd"] "lib/z.xsd" ∧
      ofBesideRoot.displayPath besideRoot ["p", "lib"] (.ofText "x.xsd") = .ok "/pq/y.xsd" ∧
      ofBesideRoot.displayPath besideRoot [] (.ofText "r/lib/x.xsd") = .ok "/pq/y.xsd" ∧
      ((pipeline.run besideRoot [] {} request).1.map Outcome.schema) =
        .ok (some ⟨"urn:a:b:x.xsd", some (.ofParts ["pq", "y.xsd"]), "/pq/y.xsd"⟩) ∧
      displays ["pq", "y.xsd"] "/pq/y.xsd" := by
  intro displays content request pipeline
  have htop := besideRoot.isWorkplace_nil
  have hlib : besideRoot.canonical [] (.ofText "p/lib") = .ok ["p", "lib"] := by decide +kernel
  have hthere : besideRoot.IsWorkplace ["p", "lib"] :=
    htop.of_canonical proper_besideRoot (FileTree.isWritten_of_canonical hlib) hlib
  have htables : ofTables besideRoot [] (.ofText "r") [("a:b", "lib")] [] = .ok ofBesideRoot := by
    decide +kernel
  obtain ⟨hpaths, hsame, hruns⟩ :=
    display_paths_lead_back proper_besideRoot circleFree_besideRoot htop htables
  have hdisplays : ∀ text place shown, besideRoot.canonical ["p", "lib"] (.ofText text) = .ok place →
      ofBesideRoot.displayPath besideRoot ["p", "lib"] (.ofText text) = .ok shown →
      displays place shown := by
    intro text place shown hplace hshown
    rcases hpaths ["p", "lib"] text hthere with ⟨found, other, hfound, hother, hleads⟩ | ⟨-, hnull, -⟩
    · cases hfound.symm.trans hplace
      cases hother.symm.trans hshown
      exact hleads
    · cases hnull.symm.trans hplace
  have hlink : ofBesideRoot.displayPath besideRoot ["p", "lib"] (.ofText "x.xsd") =
      .ok "/pq/y.xsd" := by decide +kernel
  have hschema : ((pipeline.run besideRoot [] {} request).1.map Outcome.schema) =
      .ok (some ⟨"urn:a:b:x.xsd", some (.ofParts ["pq", "y.xsd"]), "/pq/y.xsd"⟩) := by
    decide +kernel
  refine ⟨proper_besideRoot, circleFree_besideRoot, htop, hthere, htables,
    hdisplays ".." ["p"] "." (by decide +kernel) (by decide +kernel),
    hdisplays "../lib/z.xsd" ["p", "lib", "z.xsd"] "lib/z.xsd" (by decide +kernel)
      (by decide +kernel), hlink, ?_, hschema, ?_⟩
  · rw [(hsame [] ["p", "lib"] "r/lib/x.xsd" "x.xsd" htop hthere).mpr (by decide +kernel), hlink]
  · cases hrun : (pipeline.run besideRoot [] {} request).1 with
    | error failure =>
        rw [hrun] at hschema
        cases hschema
    | ok outcome =>
        rw [hrun] at hschema
        obtain ⟨place, hplace, -, hleads⟩ :=
          hruns pipeline {} [] request outcome _ _ rfl .empty hrun (Except.ok.inj hschema) rfl
        have hfile : besideRoot.canonical [] (.ofParts ["pq", "y.xsd"]) = .ok ["pq", "y.xsd"] := by
          decide +kernel
        cases hplace.symm.trans hfile
        exact hleads

end Main

end Resolver

end XmlCheck
