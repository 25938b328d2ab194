import XmlCheck.Proofs.NamedPlace
import XmlCheck.Proofs.RunHistory

/-!
# Runs that get past loading

A store is anchored in files when every place that it remembers is settled there, so that the place
is still its own canonical place, whatever has become of the file. Once a run has loaded its schema,
the place and the schema are remembered, and over any anchored store that remembers them the same
content is held against the same schema.
-/

namespace XmlCheck

open Schema

namespace SchemaStore

/-- Each remembered place is settled, and has only names that files can have. -/
structure Anchored (files : FileTree) (store : SchemaStore) : Prop where
  settled : ∀ identifier place, store.places.lookup identifier = some place → files.Settled place
  nameable : ∀ identifier place, store.places.lookup identifier = some place →
    ∀ name ∈ place, '\x00' ∉ name

theorem anchored_empty (files : FileTree) : Anchored files {} := by
  constructor
  · intro identifier place hlookup
    cases hlookup
  · intro identifier place hlookup
    cases hlookup

section Anchored

variable {pipeline : Pipeline} {files : FileTree} {store : SchemaStore}

/-- A remembered place is its own canonical place. -/
theorem Anchored.canonical_eq (hanchored : store.Anchored files) {identifier : Text}
    {place : List Text} (hlookup : store.places.lookup identifier = some place) (here : List Text) :
    files.canonical here (.ofParts place) = .ok place :=
  FileTree.canonical_ofParts here (hanchored.settled identifier place hlookup)
    (hanchored.nameable identifier place hlookup)

theorem Anchored.of_linksWithin (hanchored : store.Anchored files) {later : FileTree}
    (hlinks : FileTree.LinksWithin later files) : store.Anchored later :=
  ⟨fun identifier place hlookup =>
    (hanchored.settled identifier place hlookup).of_linksWithin hlinks, hanchored.nameable⟩

theorem Anchored.use (hanchored : store.Anchored files) (here : List Text) (use : StoreUse) :
    (store.use pipeline files here use).Anchored files := by
  constructor
  · intro identifier place hlookup
    rcases known_or_located hlookup with hknown | ⟨_, _, hlocate⟩
    · exact hanchored.settled identifier place hknown
    · obtain ⟨_, _, _, hcanonical, _⟩ := Resolver.locate_eq_ok hlocate
      exact FileTree.settled_of_canonical hcanonical files.settled_nil
  · intro identifier place hlookup
    rcases known_or_located hlookup with hknown | ⟨_, _, hlocate⟩
    · exact hanchored.nameable identifier place hknown
    · obtain ⟨_, _, _, _, hfile⟩ := Resolver.locate_eq_ok hlocate
      exact FileTree.null_not_mem_of_isFile hfile

theorem Anchored.after (hanchored : store.Anchored files) (here : List Text)
    (uses : List StoreUse) :
    (store.after pipeline (StoreUse.onFiles files here uses)).Anchored files := by
  induction uses generalizing store with
  | nil => exact hanchored
  | cons use uses ih => exact ih (hanchored.use here use)

end Anchored

end SchemaStore

namespace Pipeline

/-- What a run gives that has loaded its schema. -/
def heldAgainst (schema : XmlCheck.Schema) (document : Xml.Document) (file : Text)
    (reference : SchemaReference) : Except RunFailure Outcome :=
  match schema.diagnostics document file with
  | .error cause => .error (.check cause)
  | .ok diagnostics => .ok (checkedOutcome file reference diagnostics)

section Loaded

variable {pipeline : Pipeline} {tree : FileTree} {here : List Text} {store : SchemaStore}
  {request : Request}

/-- A run has loaded a schema for its content. -/
structure HasLoaded (pipeline : Pipeline) (tree : FileTree) (here : List Text)
    (store : SchemaStore) (request : Request) (content : List UInt8) (document : Xml.Document)
    (identifier : Text) (place : List Text) (reference : SchemaReference)
    (schema : XmlCheck.Schema) : Prop where
  declares : Declares tree here request content document identifier
  resolve : (store.resolve pipeline.resolver tree identifier).1 = .ok place
  refer : pipeline.reference tree identifier place = .ok reference
  load : ((afterResolve pipeline tree store identifier).load pipeline.aid tree here
    (.ofParts place)).1 = .ok schema

theorem not_mem_stagesToIdentifier (content : List UInt8) :
    Stage.validate ∉ stagesToIdentifier content := by
  unfold stagesToIdentifier
  split <;> decide

/-- A document is only held against a schema that has been loaded. -/
theorem Runs.exists_hasLoaded {result : Except RunFailure Outcome} {after : SchemaStore}
    {stages : List Stage} (hruns : Runs pipeline tree here store request result after stages)
    (hvalidate : .validate ∈ stages) :
    ∃ content document identifier place reference schema,
      HasLoaded pipeline tree here store request content document identifier place reference
        schema := by
  cases hruns with
  | contentless => cases hvalidate
  | malformed => exact absurd hvalidate (by decide)
  | undeclared => exact absurd hvalidate (by decide)
  | declared hdeclares hrest =>
      have hlate := (List.mem_append.mp hvalidate).resolve_left (not_mem_stagesToIdentifier _)
      cases hrest with
      | unreadable => exact absurd hlate (by decide)
      | unresolved => exact absurd hlate (by decide)
      | unreferred => exact absurd hlate (by decide)
      | against hresolve hrefer hagainst =>
          cases hagainst with
          | unreadable => exact absurd hlate (by decide)
          | unloadable => exact absurd hlate (by decide)
          | unchecked hload => exact ⟨_, _, _, _, _, _, hdeclares, hresolve, hrefer, hload⟩
          | checked hload => exact ⟨_, _, _, _, _, _, hdeclares, hresolve, hrefer, hload⟩

/-- A document is held against its schema whenever that has been loaded. -/
theorem Runs.validate_mem {result : Except RunFailure Outcome} {after : SchemaStore}
    {stages : List Stage} (hruns : Runs pipeline tree here store request result after stages)
    {content : List UInt8} {document : Xml.Document} {identifier : Text} {place : List Text}
    {reference : SchemaReference} {schema : XmlCheck.Schema}
    (hloaded : HasLoaded pipeline tree here store request content document identifier place
      reference schema) : .validate ∈ stages := by
  obtain ⟨⟨hcontent, hdocument, hfound⟩, hplace, hreference, hschema⟩ := hloaded
  cases hruns with
  | contentless hload => cases hload.symm.trans hcontent
  | malformed hload hform =>
      cases hload.symm.trans hcontent
      cases hform.symm.trans hdocument
  | undeclared hload hform hnone =>
      cases hload.symm.trans hcontent
      cases hform.symm.trans hdocument
      cases hnone.symm.trans hfound
  | declared hdeclares hrest =>
      cases hdeclares.load.symm.trans hcontent
      cases hdeclares.form.symm.trans hdocument
      cases hdeclares.found.symm.trans hfound
      refine List.mem_append_right _ ?_
      cases hrest with
      | unreadable hresolve => cases hresolve.symm.trans hplace
      | unresolved hresolve => cases hresolve.symm.trans hplace
      | unreferred hresolve hrefer =>
          cases hresolve.symm.trans hplace
          cases hrefer.symm.trans hreference
      | against hresolve hrefer hagainst =>
          cases hresolve.symm.trans hplace
          refine List.mem_cons_of_mem _ (List.mem_cons_of_mem _ ?_)
          cases hagainst with
          | unreadable hload => cases hload.symm.trans hschema
          | unloadable hload => cases hload.symm.trans hschema
          | unchecked => decide
          | checked => decide

theorem HasLoaded.run_eq {content : List UInt8} {document : Xml.Document} {identifier : Text}
    {place : List Text} {reference : SchemaReference} {schema : XmlCheck.Schema}
    (hloaded : HasLoaded pipeline tree here store request content document identifier place
      reference schema) :
    pipeline.run tree here store request =
      (heldAgainst schema document request.displayName reference,
        afterLoad pipeline tree here (afterResolve pipeline tree store identifier) place) := by
  obtain ⟨hdeclares, hresolve, hrefer, hload⟩ := hloaded
  rcases hresolved : store.resolve pipeline.resolver tree identifier with ⟨resolved, after⟩
  rcases hafter : (afterResolve pipeline tree store identifier).load pipeline.aid tree here
    (.ofParts place) with ⟨loaded, last⟩
  rw [afterLoad, hafter]
  rw [afterResolve, hresolved] at hafter
  obtain rfl : resolved = .ok place := by rw [← hresolve, hresolved]
  obtain rfl : loaded = .ok schema := by rw [← hload, afterResolve, hresolved, hafter]
  simp only [run, hdeclares.load, checkContent, hdeclares.form, hdeclares.found, checkDeclared,
    hresolved, hrefer, checkAgainst, hafter, heldAgainst]
  cases schema.diagnostics document request.displayName <;> rfl

/-- What a run has loaded is what it would load again: the place is its own canonical place, and
the schema is remembered there. -/
theorem HasLoaded.remembered {content : List UInt8} {document : Xml.Document}
    {identifier : Text} {place : List Text} {reference : SchemaReference}
    {schema : XmlCheck.Schema}
    (hloaded : HasLoaded pipeline tree here store request content document identifier place
      reference schema) (hanchored : store.Anchored tree) :
    reference = ⟨identifier, some (.ofParts place), pipeline.resolver.shownPlace place⟩ ∧
      (pipeline.run tree here store request).2.places.lookup identifier = some place ∧
      (pipeline.run tree here store request).2.schemas.lookup place = some schema := by
  have hfound := SchemaStore.lookup_resolve_of_ok hloaded.resolve
  -- the place may have just been found: the store after the search is anchored all the same
  have hplace : tree.canonical [] (.ofParts place) = .ok place :=
    (hanchored.use [] (.find identifier)).canonical_eq hfound []
  obtain ⟨shown, hshown, hreference⟩ := reference_eq_ok.mp hloaded.refer
  obtain rfl : place = shown := Except.ok.inj (hplace.symm.trans hshown)
  obtain ⟨own, hown, hschema⟩ := SchemaStore.lookup_load_of_ok hloaded.load
  obtain rfl : place = own := Except.ok.inj (hplace.symm.trans hown)
  rw [hloaded.run_eq]
  exact ⟨hreference, lookup_afterLoad here hloaded.resolve, hschema⟩

variable (pipeline) in
/-- With the place and the schema remembered, a run gets past loading whatever the files are. -/
theorem hasLoaded_of_remembered {content : List UInt8} {document : Xml.Document}
    {identifier : Text} {place : List Text} {schema : XmlCheck.Schema}
    (hdeclares : Declares tree here request content document identifier)
    (hanchored : store.Anchored tree)
    (hfound : store.places.lookup identifier = some place)
    (hschema : store.schemas.lookup place = some schema) :
    HasLoaded pipeline tree here store request content document identifier place
      ⟨identifier, some (.ofParts place), pipeline.resolver.shownPlace place⟩ schema := by
  have hplace := hanchored.canonical_eq hfound
  refine ⟨hdeclares, SchemaStore.place?_of_lookup hfound pipeline.resolver tree,
    reference_eq_ok.mpr ⟨place, hplace [], rfl⟩, ?_⟩
  rw [← schemas_afterResolve pipeline tree store identifier] at hschema
  simp only [SchemaStore.load, hplace here, SchemaStore.loadPlace_of_lookup hschema]
  rfl

end Loaded

end Pipeline

end XmlCheck
