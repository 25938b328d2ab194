import XmlCheck.Proofs.PastLoading

/-!
# Sessions in which files change

A session resolves identifiers, loads schemas and runs requests with one store, and files are
written and deleted in between. Its store is the one after a history, so what is found once stays
found and what is compiled once stays compiled; what has not succeeded yet depends on the files of
the moment only. The invariant that ties this to runs is `Anchored`: every remembered place is
settled in the files as they are now, so that it is still its own canonical place, whatever has
become of the file there.
-/

namespace XmlCheck

open Schema

/-! ### Steps -/

structure Session where
  files : FileTree
  store : SchemaStore := {}

/-- What may happen in a session. No step makes a link. -/
inductive SessionStep
  | resolve (identifier : Text)
  | load (path : FilePath)
  | run (request : Request)
  | write (path : FilePath) (content : List UInt8)
  | delete (path : FilePath)

namespace Session

section Steps

variable (pipeline : Pipeline) (here : List Text)

def resolved (session : Session) (identifier : Text) : Except ResolveFailure (List Text) :=
  (session.store.resolve pipeline.resolver session.files identifier).1

def loaded (session : Session) (path : FilePath) : Except LoadFailure XmlCheck.Schema :=
  (session.store.load pipeline.aid session.files here path).1

def result (session : Session) (request : Request) : Except RunFailure Outcome :=
  (pipeline.run session.files here session.store request).1

def step (session : Session) : SessionStep → Session
  | .resolve identifier =>
    { session with store := (session.store.resolve pipeline.resolver session.files identifier).2 }
  | .load path =>
    { session with store := (session.store.load pipeline.aid session.files here path).2 }
  | .run request =>
    { session with store := (pipeline.run session.files here session.store request).2 }
  | .write path content => { session with files := session.files.write here path content }
  | .delete path => { session with files := session.files.remove here path }

def uses (session : Session) : SessionStep → List StoreUse
  | .resolve identifier => [.find identifier]
  | .load path => session.files.loadUses here path
  | .run request => pipeline.uses session.files here session.store request
  | .write _ _ => []
  | .delete _ => []

def play (session : Session) (steps : List SessionStep) : Session :=
  steps.foldl (step pipeline here) session

def history (session : Session) : List SessionStep → History
  | [] => []
  | next :: rest =>
    StoreUse.onFiles session.files here (session.uses pipeline here next) ++
      history (session.step pipeline here next) rest

def found (session : Session) (steps : List SessionStep) : List (Text × List Text) :=
  session.store.allFinds pipeline (session.history pipeline here steps)

def compiled (session : Session) (steps : List SessionStep) :
    List (List Text × XmlCheck.Schema) :=
  session.store.allCompiles pipeline (session.history pipeline here steps)

end Steps

section Play

variable {pipeline : Pipeline} {here : List Text}

theorem play_append (session : Session) (first second : List SessionStep) :
    session.play pipeline here (first ++ second) =
      (session.play pipeline here first).play pipeline here second :=
  List.foldl_append

theorem store_step (session : Session) (next : SessionStep) :
    (session.step pipeline here next).store =
      session.store.after pipeline
        (StoreUse.onFiles session.files here (session.uses pipeline here next)) := by
  cases next with
  | resolve identifier => rfl
  | load path => exact SchemaStore.snd_load pipeline session.files session.store here path
  | run request => exact Pipeline.snd_run pipeline session.files here session.store request
  | write path content => rfl
  | delete path => rfl

theorem store_play (session : Session) (steps : List SessionStep) :
    (session.play pipeline here steps).store =
      session.store.after pipeline (session.history pipeline here steps) := by
  induction steps generalizing session with
  | nil => rfl
  | cons next rest ih =>
      rw [history, SchemaStore.after_append, ← store_step]
      exact ih _

theorem anchored_step {session : Session} (hanchored : session.store.Anchored session.files)
    (next : SessionStep) :
    (session.step pipeline here next).store.Anchored (session.step pipeline here next).files := by
  have hstore : (session.step pipeline here next).store.Anchored session.files := by
    rw [store_step]
    exact hanchored.after here _
  cases next with
  | resolve identifier => exact hstore
  | load path => exact hstore
  | run request => exact hstore
  | write path content =>
      exact hstore.of_linksWithin (FileTree.linksWithin_write session.files here path content)
  | delete path =>
      exact hstore.of_linksWithin (FileTree.linksWithin_remove session.files here path)

theorem anchored_play {session : Session} (hanchored : session.store.Anchored session.files)
    (steps : List SessionStep) :
    (session.play pipeline here steps).store.Anchored
      (session.play pipeline here steps).files := by
  induction steps generalizing session with
  | nil => exact hanchored
  | cons next rest ih => exact ih (anchored_step hanchored next)

theorem lookup_places_play {session : Session} {identifier : Text} {place : List Text}
    (hlookup : session.store.places.lookup identifier = some place)
    (steps : List SessionStep) :
    (session.play pipeline here steps).store.places.lookup identifier = some place := by
  rw [store_play]
  exact SchemaStore.lookup_places_after hlookup _

theorem lookup_schemas_play {session : Session} {place : List Text} {schema : XmlCheck.Schema}
    (hlookup : session.store.schemas.lookup place = some schema) (steps : List SessionStep) :
    (session.play pipeline here steps).store.schemas.lookup place = some schema := by
  rw [store_play]
  exact SchemaStore.lookup_schemas_after hlookup _

theorem resolved_of_lookup {session : Session} {identifier : Text} {place : List Text}
    (hlookup : session.store.places.lookup identifier = some place) :
    session.resolved pipeline identifier = .ok place :=
  SchemaStore.place?_of_lookup hlookup pipeline.resolver session.files

theorem loaded_of_lookup {session : Session} {path : FilePath} {place : List Text}
    {schema : XmlCheck.Schema} (hlookup : session.store.schemas.lookup place = some schema)
    (hcanonical : session.files.canonical here path = .ok place) :
    session.loaded pipeline here path = .ok schema := by
  unfold loaded SchemaStore.load
  simp only [hcanonical, SchemaStore.loadPlace_of_lookup hlookup]
  rfl

end Play

/-! ### What the first success settles -/

section Lasting

variable (pipeline : Pipeline) (here : List Text) (tree : FileTree) (steps : List SessionStep)

abbrev reached : Session :=
  play pipeline here { files := tree } steps

theorem reached_split {steps before later : List SessionStep} {next : SessionStep}
    (hsteps : steps = before ++ next :: later) :
    reached pipeline here tree steps =
      ((reached pipeline here tree before).step pipeline here next).play pipeline here later := by
  rw [reached, hsteps, play_append]
  rfl

theorem store_reached :
    (reached pipeline here tree steps).store =
      ({} : SchemaStore).after pipeline (history pipeline here { files := tree } steps) :=
  store_play _ steps

theorem anchored_reached :
    (reached pipeline here tree steps).store.Anchored (reached pipeline here tree steps).files :=
  anchored_play (SchemaStore.anchored_empty tree) steps

/-- An identifier that has been found keeps its place, which stays its own canonical place; one that
has not been found is looked for in the files as they are now, and failure leaves no trace. -/
structure PlacesLast : Prop where
  again : ∀ (before later : List SessionStep) (identifier : Text) (place : List Text),
    steps = before ++ .resolve identifier :: later →
    (reached pipeline here tree before).resolved pipeline identifier = .ok place →
    (reached pipeline here tree steps).resolved pipeline identifier = .ok place
  known : ∀ (identifier : Text) (place : List Text),
    (identifier, place) ∈ found pipeline here { files := tree } steps →
    (reached pipeline here tree steps).resolved pipeline identifier = .ok place ∧
      (reached pipeline here tree steps).files.canonical [] (.ofParts place) = .ok place
  unknown : ∀ identifier : Text,
    (∀ place, (identifier, place) ∉ found pipeline here { files := tree } steps) →
    (reached pipeline here tree steps).resolved pipeline identifier =
      (({} : SchemaStore).resolve pipeline.resolver (reached pipeline here tree steps).files
        identifier).1
  failed : ∀ (identifier : Text) (failure : ResolveFailure),
    (reached pipeline here tree steps).resolved pipeline identifier = .error failure →
    (reached pipeline here tree steps).step pipeline here (.resolve identifier) =
      reached pipeline here tree steps

/-- A place that has been compiled keeps its schema, so that no place is compiled twice; one that
has not been compiled is loaded from the files as they are now, and failure is not remembered. -/
structure SchemasLast : Prop where
  again : ∀ (before later : List SessionStep) (path other : FilePath) (place : List Text)
    (schema : XmlCheck.Schema), steps = before ++ .load path :: later →
    (reached pipeline here tree before).files.canonical here path = .ok place →
    (reached pipeline here tree before).loaded pipeline here path = .ok schema →
    (reached pipeline here tree steps).files.canonical here other = .ok place →
    (reached pipeline here tree steps).loaded pipeline here other = .ok schema
  once : ((compiled pipeline here { files := tree } steps).map Prod.fst).Nodup
  known : ∀ (path : FilePath) (place : List Text) (schema : XmlCheck.Schema),
    (place, schema) ∈ compiled pipeline here { files := tree } steps →
    (reached pipeline here tree steps).files.canonical here path = .ok place →
    (reached pipeline here tree steps).loaded pipeline here path = .ok schema
  unknown : ∀ (path : FilePath) (place : List Text),
    (∀ schema, (place, schema) ∉ compiled pipeline here { files := tree } steps) →
    (reached pipeline here tree steps).files.canonical here path = .ok place →
    (reached pipeline here tree steps).loaded pipeline here path =
      (SchemaStore.load { (reached pipeline here tree steps).store with schemas := [] }
        pipeline.aid (reached pipeline here tree steps).files here path).1
  failed : ∀ (path : FilePath) (failure : LoadFailure),
    (reached pipeline here tree steps).loaded pipeline here path = .error failure →
    ((reached pipeline here tree steps).step pipeline here (.load path)).store.schemas =
      (reached pipeline here tree steps).store.schemas

/-- Once a run has got past the loading of its schema, the same content under the same name has the
same result at any later time. -/
structure ResultsLast : Prop where
  again : ∀ (before later : List SessionStep) (request other : Request) (content : List UInt8),
    steps = before ++ .run request :: later →
    .validate ∈ pipeline.stagesRun (reached pipeline here tree before).files here
      (reached pipeline here tree before).store request →
    request.load (reached pipeline here tree before).files here = .ok content →
    other.load (reached pipeline here tree steps).files here = .ok content →
    other.displayName = request.displayName →
    (reached pipeline here tree steps).result pipeline here other =
      (reached pipeline here tree before).result pipeline here request

theorem placesLast : PlacesLast pipeline here tree steps := by
  have hstore := store_reached pipeline here tree steps
  constructor
  · intro before later identifier place hsteps hresolved
    have hlookup : ((reached pipeline here tree before).step pipeline here
        (.resolve identifier)).store.places.lookup identifier = some place :=
      SchemaStore.lookup_resolve_of_ok hresolved
    rw [reached_split pipeline here tree hsteps]
    exact resolved_of_lookup (lookup_places_play hlookup later)
  · intro identifier place hfound
    have hlookup := SchemaStore.lookup_of_mem_allFinds hfound
    rw [← hstore] at hlookup
    exact ⟨resolved_of_lookup hlookup,
      (anchored_reached pipeline here tree steps).canonical_eq hlookup []⟩
  · intro identifier hunfound
    have hlookup : (reached pipeline here tree steps).store.places.lookup identifier = none := by
      rw [Option.eq_none_iff_forall_ne_some]
      intro place hknown
      rw [hstore, SchemaStore.lookup_places_iff] at hknown
      exact hunfound place hknown
    exact SchemaStore.place?_of_lookup_eq_none hlookup _ _
  · intro identifier failure hfailed
    rw [step, SchemaStore.snd_resolve_of_error hfailed]

theorem schemasLast : SchemasLast pipeline here tree steps := by
  have hstore := store_reached pipeline here tree steps
  constructor
  · intro before later path other place schema hsteps hcanonical hloaded hother
    obtain ⟨own, hown, hlookup⟩ := SchemaStore.lookup_load_of_ok hloaded
    obtain rfl : own = place := Except.ok.inj (hown.symm.trans hcanonical)
    have hstep : ((reached pipeline here tree before).step pipeline here
        (.load path)).store.schemas.lookup own = some schema := hlookup
    rw [reached_split pipeline here tree hsteps] at hother ⊢
    exact loaded_of_lookup (lookup_schemas_play hstep later) hother
  · exact SchemaStore.nodup_allCompiles _
  · intro path place schema hcompiled hcanonical
    refine loaded_of_lookup ?_ hcanonical
    rw [hstore, SchemaStore.lookup_schemas_iff]
    exact hcompiled
  · intro path place huncompiled hcanonical
    have hlookup : (reached pipeline here tree steps).store.schemas.lookup place = none := by
      rw [Option.eq_none_iff_forall_ne_some]
      intro schema hknown
      rw [hstore, SchemaStore.lookup_schemas_iff] at hknown
      exact huncompiled schema hknown
    unfold loaded SchemaStore.load
    simp only [hcanonical]
    rw [SchemaStore.loadPlace_fst_of_lookup_eq_none hlookup,
      SchemaStore.loadPlace_fst_of_lookup_eq_none rfl]
    rfl
  · intro path failure hfailed
    exact SchemaStore.schemas_load_of_error hfailed

theorem resultsLast : ResultsLast pipeline here tree steps := by
  constructor
  intro before later request other content hsteps hvalidate hcontent hother hname
  obtain ⟨own, document, identifier, place, reference, schema, hloaded⟩ :=
    (Pipeline.runs_run _ request).exists_hasLoaded hvalidate
  obtain rfl : content = own := Except.ok.inj (hcontent.symm.trans hloaded.declares.load)
  obtain ⟨rfl, hfound, hschema⟩ :=
    hloaded.remembered (anchored_reached pipeline here tree before)
  have hstep : (reached pipeline here tree steps).store.places.lookup identifier = some place ∧
      (reached pipeline here tree steps).store.schemas.lookup place = some schema := by
    rw [reached_split pipeline here tree hsteps]
    exact ⟨lookup_places_play hfound later, lookup_schemas_play hschema later⟩
  have hdeclares : Pipeline.Declares (reached pipeline here tree steps).files here other content
      document identifier :=
    ⟨hother, by rw [hname]; exact hloaded.declares.form, hloaded.declares.found⟩
  have hagain := Pipeline.hasLoaded_of_remembered pipeline hdeclares
    (anchored_reached pipeline here tree steps) hstep.1 hstep.2
  rw [result, result, hloaded.run_eq, hagain.run_eq, hname]

/-- The first success settles it, in every session from new on: an identifier keeps the place that
was found for it, a place keeps the schema that was compiled for it, and a content keeps the result
that it had when its schema was loaded, whatever becomes of the files. -/
theorem first_success_lasts :
    PlacesLast pipeline here tree steps ∧ SchemasLast pipeline here tree steps ∧
      ResultsLast pipeline here tree steps :=
  ⟨placesLast pipeline here tree steps, schemasLast pipeline here tree steps,
    resultsLast pipeline here tree steps⟩

end Lasting

/-- A schema that is deleted after a run still serves the next one. -/
theorem deleted_schema_serves :
    let pipeline : Pipeline := { resolver := ⟨[], [("v:c".toList, [['s']])], []⟩ }
    let path : FilePath := .ofParts [['s'], "a.xsd".toList]
    let tree := FileTree.write {} [] path (Utf8.encode ("<x:schema xmlns:x=".toList ++
      "\"http://www.w3.org/2001/XMLSchema\"><x:element name=\"a\"/></x:schema>".toList))
    let content := Utf8.encode (
      "<a xmlns:xsi=\"http://www.w3.org/2001/XMLSchema-instance\" ".toList ++
        "xsi:noNamespaceSchemaLocation=\"urn:v:c:a.xsd\"/>".toList)
    let request : Request := { displayName := ['d'], content := some content }
    let steps := [.run request, .delete path]
    (reached pipeline [] tree steps).files.isFile [] path = .ok false ∧
      (reached pipeline [] tree steps).result pipeline [] request =
        (reached pipeline [] tree []).result pipeline [] request := by
  intro pipeline path tree content request steps
  have hform : (checkForm content ['d']).document?.isSome = true := by decide +kernel
  have hscan : Declaration.scanOctets? content = some "urn:v:c:a.xsd".toList := by decide +kernel
  have hresolve : (({} : SchemaStore).resolve pipeline.resolver tree "urn:v:c:a.xsd".toList).1 =
      .ok path.parts := by decide +kernel
  have hrefer : pipeline.reference tree "urn:v:c:a.xsd".toList path.parts =
      .ok ⟨"urn:v:c:a.xsd".toList, some path, "s/a.xsd".toList⟩ := by decide +kernel
  have hload : ((Pipeline.afterResolve pipeline tree {} "urn:v:c:a.xsd".toList).load pipeline.aid
      tree [] path).1.isOk = true := by decide +kernel
  have hvalidate : .validate ∈ pipeline.stagesRun tree [] {} request := by
    cases hdocument : checkForm content ['d'] with
    | broken first more =>
        rw [hdocument] at hform
        cases hform
    | document document =>
        cases hschema : ((Pipeline.afterResolve pipeline tree {} "urn:v:c:a.xsd".toList).load
            pipeline.aid tree [] path).1 with
        | error failure =>
            rw [hschema] at hload
            cases hload
        | ok schema =>
            have hfound : Pipeline.identifier? content document =
                some "urn:v:c:a.xsd".toList := by
              rw [Pipeline.identifier?, hscan, Option.some_or]
            exact (Pipeline.runs_run {} request).validate_mem
              ⟨⟨rfl, hdocument, hfound⟩, hresolve, hrefer, hschema⟩
  exact ⟨rfl, (first_success_lasts pipeline [] tree steps).2.2.again [] [.delete path] request
    request content rfl hvalidate rfl rfl rfl⟩

end Session

end XmlCheck
