import XmlCheck.Proofs.BatchTrace
import XmlCheck.Proofs.RunHistory

/-!
# What is remembered changes no result

On files that stay as they are, a store is faithful: what it knows is what would be found out anew.
An empty store is faithful, every use keeps a store so, and a run over a faithful store gives what
it gives over an empty one. So each request of a list stands alone, whatever went before it, and the
order of a batch does not matter to its counts.
-/

namespace XmlCheck

namespace SchemaStore

/-- What a store knows is what would be found out anew. -/
structure Faithful (pipeline : Pipeline) (tree : FileTree) (here : List Text)
    (store : SchemaStore) : Prop where
  places : ∀ identifier place, store.places.lookup identifier = some place →
    pipeline.resolver.locate tree identifier = .ok place
  schemas : ∀ place schema, store.schemas.lookup place = some schema →
    (({} : SchemaStore).compilation pipeline tree here place).result = .ok schema

theorem faithful_empty (pipeline : Pipeline) (tree : FileTree) (here : List Text) :
    Faithful pipeline tree here {} := by
  constructor
  · intro identifier place hlookup
    cases hlookup
  · intro place schema hlookup
    cases hlookup

section Faithful

variable {pipeline : Pipeline} {tree : FileTree} {here : List Text} {store : SchemaStore}

theorem Faithful.place?_eq (hfaithful : store.Faithful pipeline tree here) (identifier : Text) :
    store.place? pipeline.resolver tree identifier =
      pipeline.resolver.locate tree identifier := by
  cases hlookup : store.places.lookup identifier with
  | none => exact place?_of_lookup_eq_none hlookup pipeline.resolver tree
  | some place =>
      rw [place?_of_lookup hlookup, hfaithful.places identifier place hlookup]

theorem Faithful.fetch_eq (hfaithful : store.Faithful pipeline tree here) :
    store.fetch pipeline.aid tree here = ({} : SchemaStore).fetch pipeline.aid tree here := by
  funext address
  unfold fetch
  cases haid : pipeline.aid with
  | none => rfl
  | some resolver =>
      obtain rfl := Pipeline.aid_eq_some haid
      cases isIdentifier address with
      | false => rfl
      | true =>
          dsimp only
          rw [hfaithful.place?_eq, (faithful_empty pipeline tree here).place?_eq]

theorem Faithful.compilation_eq (hfaithful : store.Faithful pipeline tree here)
    (place : List Text) :
    store.compilation pipeline tree here place =
      ({} : SchemaStore).compilation pipeline tree here place := by
  rw [compilation, compilation, hfaithful.fetch_eq]

theorem Faithful.loadPlace_fst_eq (hfaithful : store.Faithful pipeline tree here)
    (place : List Text) :
    (store.loadPlace pipeline.aid tree here place).1 =
      (({} : SchemaStore).loadPlace pipeline.aid tree here place).1 := by
  have hempty : ({} : SchemaStore).schemas.lookup place = none := rfl
  rw [loadPlace_fst_of_lookup_eq_none hempty]
  cases hlookup : store.schemas.lookup place with
  | none => rw [loadPlace_fst_of_lookup_eq_none hlookup, hfaithful.compilation_eq]
  | some schema =>
      rw [loadPlace_of_lookup hlookup, hfaithful.schemas place schema hlookup]
      rfl

theorem Faithful.load_fst_eq (hfaithful : store.Faithful pipeline tree here) (path : FilePath) :
    (store.load pipeline.aid tree here path).1 =
      (({} : SchemaStore).load pipeline.aid tree here path).1 := by
  unfold load
  cases tree.canonical here path with
  | error cause => rfl
  | ok place =>
      exact congrArg (Except.mapError LoadFailure.schema) (hfaithful.loadPlace_fst_eq place)

/-- A use keeps a store faithful, whether it finds what it is asked for or not. -/
theorem Faithful.use (hfaithful : store.Faithful pipeline tree here) (use : StoreUse) :
    (store.use pipeline tree here use).Faithful pipeline tree here := by
  constructor
  · intro identifier place hlookup
    rcases known_or_located hlookup with hknown | ⟨_, _, hlocate⟩
    · exact hfaithful.places identifier place hknown
    · exact hlocate
  · intro place schema hlookup
    rw [lookup_schemas_use, Option.or_eq_some_iff] at hlookup
    rcases hlookup with hknown | ⟨_, hcompiled⟩
    · exact hfaithful.schemas place schema hknown
    · rw [← hfaithful.compilation_eq]
      exact (mem_compiles.mp (mem_of_lookup hcompiled)).2.2

theorem Faithful.after (hfaithful : store.Faithful pipeline tree here) (uses : List StoreUse) :
    (store.after pipeline (StoreUse.onFiles tree here uses)).Faithful pipeline tree here := by
  induction uses generalizing store with
  | nil => exact hfaithful
  | cons use uses ih => exact ih (hfaithful.use use)

end Faithful

end SchemaStore

/-! ### Runs over faithful stores -/

namespace Pipeline

section Runs

variable {pipeline : Pipeline} {tree : FileTree} {here : List Text} {store : SchemaStore}

theorem checkAgainst_fst_eq (hfaithful : store.Faithful pipeline tree here) (request : Request)
    (document : Xml.Document) (reference : SchemaReference) (place : List Text) :
    (pipeline.checkAgainst tree here store request document reference place).1 =
      (pipeline.checkAgainst tree here {} request document reference place).1 := by
  have hload := hfaithful.load_fst_eq (.ofParts place)
  unfold checkAgainst
  rcases hstore : store.load pipeline.aid tree here (.ofParts place) with ⟨loaded, after⟩
  rcases hempty : ({} : SchemaStore).load pipeline.aid tree here (.ofParts place) with
    ⟨other, afterOther⟩
  rw [hstore, hempty] at hload
  obtain rfl : loaded = other := hload
  cases loaded with
  | error failure => cases failure <;> rfl
  | ok schema =>
      dsimp only
      cases schema.diagnostics document request.displayName <;> rfl

theorem checkDeclared_fst_eq (hfaithful : store.Faithful pipeline tree here) (request : Request)
    (document : Xml.Document) (identifier : Text) :
    (pipeline.checkDeclared tree here store request document identifier).1 =
      (pipeline.checkDeclared tree here {} request document identifier).1 := by
  -- both stores go on from what the resolver says, and both stay faithful
  have hempty := SchemaStore.faithful_empty pipeline tree here
  have hafter :
      (store.rememberPlace pipeline.resolver tree identifier).Faithful pipeline tree here :=
    hfaithful.use (.find identifier)
  have hafterEmpty : (({} : SchemaStore).rememberPlace pipeline.resolver tree
      identifier).Faithful pipeline tree here :=
    hempty.use (.find identifier)
  simp only [checkDeclared, SchemaStore.resolve, hfaithful.place?_eq, hempty.place?_eq]
  cases pipeline.resolver.locate tree identifier with
  | error failure => cases failure <;> rfl
  | ok place =>
      dsimp only
      cases pipeline.reference tree identifier place with
      | error cause => rfl
      | ok reference =>
          dsimp only
          rw [checkAgainst_fst_eq hafter, checkAgainst_fst_eq hafterEmpty]

/-- A run over a faithful store gives what it gives over an empty one. -/
theorem run_fst_eq (hfaithful : store.Faithful pipeline tree here) (request : Request) :
    (pipeline.run tree here store request).1 = (pipeline.run tree here {} request).1 := by
  unfold run
  cases request.load tree here with
  | error cause => rfl
  | ok content =>
      unfold checkContent
      dsimp only
      cases checkForm content request.displayName with
      | broken first more => rfl
      | document document =>
          dsimp only
          cases identifier? content document with
          | none => rfl
          | some identifier => exact checkDeclared_fst_eq hfaithful request document identifier

theorem faithful_run (hfaithful : store.Faithful pipeline tree here) (request : Request) :
    (pipeline.run tree here store request).2.Faithful pipeline tree here := by
  rw [snd_run]
  exact hfaithful.after _

def results (pipeline : Pipeline) (tree : FileTree) (here : List Text) (store : SchemaStore) :
    List Request → List (Except RunFailure Outcome)
  | [] => []
  | request :: rest =>
    (pipeline.run tree here store request).1 ::
      results pipeline tree here (pipeline.run tree here store request).2 rest

def alone (pipeline : Pipeline) (tree : FileTree) (here : List Text) (request : Request) :
    Except RunFailure Outcome :=
  (pipeline.run tree here {} request).1

theorem results_eq_map (hfaithful : store.Faithful pipeline tree here) (requests : List Request) :
    pipeline.results tree here store requests =
      requests.map (pipeline.alone tree here) := by
  induction requests generalizing store with
  | nil => rfl
  | cons request rest ih =>
      rw [results, run_fst_eq hfaithful, ih (faithful_run hfaithful request)]
      rfl

end Runs

end Pipeline

/-! ### Batches over faithful stores -/

theorem Summary.record_right_comm (summary : Summary) (first second : Outcome) :
    (summary.record first).record second = (summary.record second).record first := by
  unfold record
  cases first.counted <;> cases second.counted <;> cases first.isValid <;>
    cases second.isValid <;> rfl

namespace Batch

section Entries

variable {pipeline : Pipeline} {tree : FileTree} {here : List Text}

theorem settle_fst_eq {store : SchemaStore} (hfaithful : store.Faithful pipeline tree here)
    (entry : BatchEntry) :
    (settle pipeline tree here store entry).1 = (settle pipeline tree here {} entry).1 := by
  cases entry with
  | excluded name => rfl
  | request request => rw [settle_request, settle_request, Pipeline.run_fst_eq hfaithful]

theorem faithful_settle {store : SchemaStore} (hfaithful : store.Faithful pipeline tree here)
    (entry : BatchEntry) :
    (settle pipeline tree here store entry).2.Faithful pipeline tree here := by
  cases entry with
  | excluded name => exact hfaithful
  | request request => exact Pipeline.faithful_run hfaithful request

def alone (pipeline : Pipeline) (tree : FileTree) (here : List Text) (entry : BatchEntry) :
    Outcome :=
  (settle pipeline tree here {} entry).1

theorem outcomes_eq_map {batch : Batch} (hfaithful : batch.store.Faithful pipeline tree here)
    (entries : List BatchEntry) :
    batch.outcomes pipeline tree here entries = entries.map (alone pipeline tree here) := by
  induction entries generalizing batch with
  | nil => rfl
  | cons entry entries ih =>
      have hrest : (batch.handle pipeline tree here entry).2.outcomes pipeline tree here entries =
          entries.map (alone pipeline tree here) := ih (faithful_settle hfaithful entry)
      rw [outcomes, hrest, handle_eq, settle_fst_eq hfaithful]
      rfl

theorem summary_after (batch : Batch) (entries : List BatchEntry) :
    (batch.after pipeline tree here entries).summary =
      (batch.outcomes pipeline tree here entries).foldl Summary.record batch.summary := by
  induction entries generalizing batch with
  | nil => rfl
  | cons entry entries ih => exact ih _

/-- The counts of a batch that has just begun are those of its outcomes. -/
theorem counts_after (entries : List BatchEntry) :
    Counts (({} : Batch).after pipeline tree here entries).summary
      (({} : Batch).outcomes pipeline tree here entries) := by
  rw [summary_after]
  exact counts_empty.foldl _

theorem summary_after_perm {entries others : List BatchEntry} (hperm : entries.Perm others) :
    (({} : Batch).after pipeline tree here entries).summary =
      (({} : Batch).after pipeline tree here others).summary := by
  have hfaithful := SchemaStore.faithful_empty pipeline tree here
  rw [summary_after, summary_after, outcomes_eq_map hfaithful, outcomes_eq_map hfaithful]
  refine (hperm.map _).foldl_eq' ?_ _
  exact fun first _ second _ summary => Summary.record_right_comm summary first second

end Entries

end Batch

namespace Pipeline

/-- Each request of a list has the result that it has alone: the same request has the same result at
each place, no request changes what another one gives, and if requests change places their results
do likewise. So it is for the outcomes of a batch, whose counts do not depend on the order at all.
-/
theorem results_stand_alone (pipeline : Pipeline) (tree : FileTree) (here : List Text) :
    (∀ requests : List Request,
      pipeline.results tree here {} requests = requests.map (pipeline.alone tree here)) ∧
    (∀ (requests : List Request) (first second : ℕ),
      requests[first]? = requests[second]? →
      (pipeline.results tree here {} requests)[first]? =
        (pipeline.results tree here {} requests)[second]?) ∧
    (∀ (before rest : List Request) (request : Request),
      pipeline.results tree here {} (before ++ request :: rest) =
        pipeline.results tree here {} before ++
          pipeline.alone tree here request :: pipeline.results tree here {} rest) ∧
    (∀ (requests others : List Request) (moved : ℕ → ℕ),
      (∀ index, others[index]? = requests[moved index]?) →
      ∀ index, (pipeline.results tree here {} others)[index]? =
        (pipeline.results tree here {} requests)[moved index]?) ∧
    (∀ entries : List BatchEntry,
      ({} : Batch).outcomes pipeline tree here entries =
        entries.map (Batch.alone pipeline tree here)) ∧
    ∀ entries others : List BatchEntry, entries.Perm others →
      (({} : Batch).outcomes pipeline tree here entries).Perm
          (({} : Batch).outcomes pipeline tree here others) ∧
        (({} : Batch).after pipeline tree here entries).summary =
          (({} : Batch).after pipeline tree here others).summary := by
  have hempty := SchemaStore.faithful_empty pipeline tree here
  have hresults : ∀ requests, pipeline.results tree here {} requests =
      requests.map (pipeline.alone tree here) := results_eq_map hempty
  have houtcomes : ∀ entries, ({} : Batch).outcomes pipeline tree here entries =
      entries.map (Batch.alone pipeline tree here) :=
    fun entries => Batch.outcomes_eq_map hempty entries
  refine ⟨hresults, ?_, ?_, ?_, houtcomes, ?_⟩
  · intro requests first second hsame
    rw [hresults, List.getElem?_map, List.getElem?_map, hsame]
  · intro before rest request
    rw [hresults, hresults, hresults, List.map_append, List.map_cons]
  · intro requests others moved hmoved index
    rw [hresults, hresults, List.getElem?_map, List.getElem?_map, hmoved]
  · intro entries others hperm
    refine ⟨?_, Batch.summary_after_perm hperm⟩
    rw [houtcomes, houtcomes]
    exact hperm.map _

/-- A malformed content and a document without schema may change places. -/
theorem results_malformed_beside_undeclared :
    let pipeline : Pipeline := { resolver := ⟨[], [], []⟩ }
    let broken : Request := { displayName := "a".toList, content := some [60] }
    let plain : Request := { displayName := "b".toList, content := some [60, 97, 47, 62] }
    (pipeline.results {} [] {} [broken, plain])[1]? =
        (pipeline.results {} [] {} [plain, broken])[0]? ∧
      (({} : Batch).after pipeline {} [] [.request broken, .request plain]).summary =
        (({} : Batch).after pipeline {} [] [.request plain, .request broken]).summary := by
  intro pipeline broken plain
  obtain ⟨_, _, _, hmoved, _, hperm⟩ := results_stand_alone pipeline {} []
  let swapped : ℕ → ℕ := fun | 0 => 1 | 1 => 0 | index + 2 => index + 2
  have hswapped : ∀ index, [broken, plain][index]? = [plain, broken][swapped index]? := by
    rintro (_ | _ | index) <;> rfl
  exact ⟨hmoved _ _ swapped hswapped 1, (hperm _ _ (List.Perm.swap _ _ [])).2⟩

end Pipeline

end XmlCheck
