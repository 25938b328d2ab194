import XmlCheck.Proofs.Stages
import XmlCheck.Proofs.StoreHistory

/-!
# Runs are histories

Loading a schema is one use of the store, and a run is two of them at most: the search for its
identifier, and the compilation of the schema at the place that was found.
-/

namespace XmlCheck

open Schema

def StoreUse.onFiles (tree : FileTree) (here : List Text) (uses : List StoreUse) : History :=
  uses.map fun use => (tree, here, use)

def FileTree.loadUses (tree : FileTree) (here : List Text) (path : FilePath) : List StoreUse :=
  match tree.canonical here path with
  | .error _ => []
  | .ok place => [.compile place]

theorem SchemaStore.snd_load (pipeline : Pipeline) (tree : FileTree) (store : SchemaStore)
    (here : List Text) (path : FilePath) :
    (store.load pipeline.aid tree here path).2 =
      store.after pipeline (StoreUse.onFiles tree here (tree.loadUses here path)) := by
  unfold load FileTree.loadUses
  cases tree.canonical here path <;> rfl

namespace Pipeline

theorem reference_eq_ok {pipeline : Pipeline} {tree : FileTree} {identifier : Text}
    {place : List Text} {reference : SchemaReference} :
    pipeline.reference tree identifier place = .ok reference ↔
      ∃ found, tree.canonical [] (.ofParts place) = .ok found ∧
        reference = ⟨identifier, some (.ofParts place), pipeline.resolver.shownPlace found⟩ := by
  unfold Pipeline.reference Resolver.displayPath
  cases tree.canonical [] (.ofParts place) with
  | error cause => simp [Except.map]
  | ok found => simp [Except.map, eq_comm]

theorem reference_eq_error {pipeline : Pipeline} {tree : FileTree} {identifier : Text}
    {place : List Text} {cause : FileError} :
    pipeline.reference tree identifier place = .error cause ↔
      tree.canonical [] (.ofParts place) = .error cause := by
  unfold Pipeline.reference Resolver.displayPath
  cases tree.canonical [] (.ofParts place) <;> simp [Except.map]

/-- The uses that a document makes of the store once its identifier is known. -/
def usesOf (pipeline : Pipeline) (tree : FileTree) (store : SchemaStore) (identifier : Text) :
    List StoreUse :=
  .find identifier ::
    match store.place? pipeline.resolver tree identifier with
    | .error _ => []
    | .ok place => tree.loadUses [] (.ofParts place)

def uses (pipeline : Pipeline) (tree : FileTree) (here : List Text) (store : SchemaStore)
    (request : Request) : List StoreUse :=
  match request.load tree here with
  | .error _ => []
  | .ok content =>
    match checkForm content request.displayName with
    | .broken _ _ => []
    | .document document =>
      match identifier? content document with
      | none => []
      | some identifier => pipeline.usesOf tree store identifier

section Uses

variable {pipeline : Pipeline} {tree : FileTree} {here : List Text} {store after : SchemaStore}
  {request : Request} {result : Except RunFailure Outcome} {stages : List Stage}

theorem Declares.uses_eq {content : List UInt8} {document : Xml.Document} {identifier : Text}
    (hdeclares : Declares tree here request content document identifier) :
    pipeline.uses tree here store request = pipeline.usesOf tree store identifier := by
  simp only [uses, hdeclares.load, hdeclares.form, hdeclares.found]

theorem usesOf_of_error {identifier : Text} {failure : ResolveFailure}
    (hresolve : (store.resolve pipeline.resolver tree identifier).1 = .error failure) :
    pipeline.usesOf tree store identifier = [.find identifier] := by
  have hplace : store.place? pipeline.resolver tree identifier = .error failure := hresolve
  rw [usesOf, hplace]

theorem usesOf_of_ok {identifier : Text} {place : List Text}
    (hresolve : (store.resolve pipeline.resolver tree identifier).1 = .ok place) :
    pipeline.usesOf tree store identifier =
      .find identifier :: tree.loadUses [] (.ofParts place) := by
  have hplace : store.place? pipeline.resolver tree identifier = .ok place := hresolve
  rw [usesOf, hplace]

theorem RunsAgainst.after_eq {document : Xml.Document} {reference : SchemaReference}
    {place : List Text}
    (hruns : RunsAgainst pipeline tree here store request document reference place result after
      stages) : after = afterLoad pipeline tree here store place := by
  cases hruns <;> rfl

theorem RunsDeclared.after_eq {document : Xml.Document} {identifier : Text}
    (hruns : RunsDeclared pipeline tree here store request document identifier result after
      stages) :
    after = store.after pipeline
      (StoreUse.onFiles tree here (pipeline.usesOf tree store identifier)) := by
  cases hruns with
  | unreadable hresolve =>
      rw [usesOf_of_error hresolve]
      rfl
  | unresolved hresolve =>
      rw [usesOf_of_error hresolve]
      rfl
  | unreferred hresolve hrefer =>
      rw [usesOf_of_ok hresolve, FileTree.loadUses, reference_eq_error.mp hrefer]
      rfl
  | against hresolve _ hrest =>
      rw [usesOf_of_ok hresolve, hrest.after_eq, afterLoad, SchemaStore.snd_load]
      rfl

theorem Runs.after_eq (hruns : Runs pipeline tree here store request result after stages) :
    after =
      store.after pipeline
        (StoreUse.onFiles tree here (pipeline.uses tree here store request)) := by
  cases hruns with
  | contentless hload =>
      rw [uses, hload]
      rfl
  | malformed hload hform =>
      simp only [uses, hload, hform]
      rfl
  | undeclared hload hform hfound =>
      simp only [uses, hload, hform, hfound]
      rfl
  | declared hdeclares hrest => rw [hdeclares.uses_eq, hrest.after_eq]

/-- The store that a run leaves behind is the one after its uses. -/
theorem snd_run (pipeline : Pipeline) (tree : FileTree) (here : List Text) (store : SchemaStore)
    (request : Request) :
    (pipeline.run tree here store request).2 =
      store.after pipeline
        (StoreUse.onFiles tree here (pipeline.uses tree here store request)) :=
  (runs_run store request).after_eq

/-- Every run leaves a store that has grown. -/
theorem grown_run (hgrown : SchemaStore.Grown pipeline store) :
    SchemaStore.Grown pipeline (pipeline.run tree here store request).2 := by
  rw [snd_run]
  exact hgrown.after _

variable (here) in
theorem lookup_afterLoad {identifier : Text} {place : List Text}
    (hresolve : (store.resolve pipeline.resolver tree identifier).1 = .ok place) :
    (afterLoad pipeline tree here (afterResolve pipeline tree store identifier) place).places.lookup
      identifier = some place := by
  rw [afterLoad, SchemaStore.snd_load]
  exact SchemaStore.lookup_places_after (SchemaStore.lookup_resolve_of_ok hresolve) _

variable (pipeline tree store) in
theorem schemas_afterResolve (identifier : Text) :
    (afterResolve pipeline tree store identifier).schemas = store.schemas :=
  SchemaStore.schemas_rememberPlace store pipeline.resolver tree identifier

end Uses

end Pipeline

end XmlCheck
