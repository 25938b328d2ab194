import XmlCheck.Pipeline

/-!
# The stages of a run

A run is a program over its stages, and the stages may be any functions with an effect on a state
(`Stages.run`). Over the stages of a pipeline, with a note taken at each call, that program gives
what the pipeline gives and lists the stages that were called (`noted_run`), so that a stage which
is not listed was not run. `Runs` says once and for all what a run can do: one rule for each way through
the stages, with what each stage gave, the outcome, the store left behind and the calls made.
-/

namespace XmlCheck.Pipeline

open Schema

inductive Stage
  | scan
  | form
  | root
  | resolve
  | refer
  | load
  | validate
  deriving DecidableEq, Repr

/-- The stages as functions with an effect on a state. -/
structure Stages (σ : Type) where
  scan : List UInt8 → StateM σ (Option Text)
  form : List UInt8 → Text → StateM σ FormCheck
  root : Xml.Document → StateM σ (Option Text)
  resolve : Text → StateM σ (Except ResolveFailure (List Text))
  refer : Text → List Text → StateM σ (Except FileError SchemaReference)
  load : List Text → StateM σ (Except LoadFailure Schema)
  validate : Schema → Xml.Document → Text → StateM σ (Except CheckFailure (List Diagnostic))

namespace Stages

variable {σ : Type}

/-- The identifier that the text shows, or else the one that the root has, which is asked for only
then. -/
def declared (stages : Stages σ) (document : Xml.Document) :
    Option Text → StateM σ (Option Text)
  | some identifier => return some identifier
  | none => stages.root document

def checkAgainst (stages : Stages σ) (request : Request) (document : Xml.Document)
    (reference : SchemaReference) (place : List Text) : StateM σ (Except RunFailure Outcome) := do
  match ← stages.load place with
  | .error (.unreadable cause) => return .error (.files cause)
  | .error (.schema error) =>
    return .ok (.failed request.displayName request.source error.message (some reference))
  | .ok schema =>
    match ← stages.validate schema document request.displayName with
    | .error cause => return .error (.check cause)
    | .ok diagnostics => return .ok (checkedOutcome request.displayName reference diagnostics)

def checkDeclared (stages : Stages σ) (request : Request) (document : Xml.Document)
    (identifier : Text) : StateM σ (Except RunFailure Outcome) := do
  match ← stages.resolve identifier with
  | .error (.unreadable cause) => return .error (.files cause)
  | .error (.unresolved error) =>
    return .ok (.failed request.displayName request.source error.message (some { identifier }))
  | .ok place =>
    match ← stages.refer identifier place with
    | .error cause => return .error (.files cause)
    | .ok reference => stages.checkAgainst request document reference place

def run (stages : Stages σ) (policy : NoSchemaPolicy) (request : Request) (content : List UInt8) :
    StateM σ (Except RunFailure Outcome) := do
  let scanned ← stages.scan content
  match ← stages.form content request.displayName with
  | .broken first more =>
    return .ok { file := request.displayName, isValid := false, diagnostics := first :: more }
  | .document document =>
    match ← stages.declared document scanned with
    | none => return .ok (.withoutSchema policy request.displayName)
    | some identifier => stages.checkDeclared request document identifier

def noting {α : Type} (stage : Stage) (call : StateM σ α) : StateM (σ × List Stage) α :=
  fun s => ((call s.1).1, (call s.1).2, s.2 ++ [stage])

def noted (stages : Stages σ) : Stages (σ × List Stage) where
  scan content := noting .scan (stages.scan content)
  form content file := noting .form (stages.form content file)
  root document := noting .root (stages.root document)
  resolve identifier := noting .resolve (stages.resolve identifier)
  refer identifier place := noting .refer (stages.refer identifier place)
  load place := noting .load (stages.load place)
  validate schema document file := noting .validate (stages.validate schema document file)

end Stages

/-- The stages of a pipeline; the state is what is remembered. -/
def stages (pipeline : Pipeline) (tree : FileTree) (here : List Text) : Stages SchemaStore where
  scan content := return Declaration.scanOctets? content
  form content file := return checkForm content file
  root document := return document.declaredSchema?
  resolve identifier := fun store => store.resolve pipeline.resolver tree identifier
  refer identifier place := return pipeline.reference tree identifier place
  load place := fun store => store.load pipeline.aid tree here (.ofParts place)
  validate schema document file := return schema.diagnostics document file

def stagesRun (pipeline : Pipeline) (tree : FileTree) (here : List Text) (store : SchemaStore)
    (request : Request) : List Stage :=
  match request.load tree here with
  | .error _ => []
  | .ok content =>
    ((pipeline.stages tree here).noted.run pipeline.policy request content (store, [])).2.2

/-- The stages up to the identifier that a content declares: the root is asked only if the text
shows none. -/
def stagesToIdentifier (content : List UInt8) : List Stage :=
  if (Declaration.scanOctets? content).isSome then [.scan, .form] else [.scan, .form, .root]

/-- A request whose content is a document that declares an identifier. -/
structure Declares (tree : FileTree) (here : List Text) (request : Request)
    (content : List UInt8) (document : Xml.Document) (identifier : Text) : Prop where
  load : request.load tree here = .ok content
  form : checkForm content request.displayName = .document document
  found : identifier? content document = some identifier

section Ways

variable (pipeline : Pipeline) (tree : FileTree) (here : List Text) (store : SchemaStore)
  (request : Request)

abbrev afterResolve (identifier : Text) : SchemaStore :=
  (store.resolve pipeline.resolver tree identifier).2

abbrev afterLoad (place : List Text) : SchemaStore :=
  (store.load pipeline.aid tree here (.ofParts place)).2

/-- What can become of a document whose schema has a place. -/
inductive RunsAgainst (document : Xml.Document) (reference : SchemaReference) (place : List Text) :
    Except RunFailure Outcome → SchemaStore → List Stage → Prop
  | unreadable {cause : FileError}
    (load : (store.load pipeline.aid tree here (.ofParts place)).1 = .error (.unreadable cause)) :
    RunsAgainst document reference place (.error (.files cause))
      (afterLoad pipeline tree here store place) [.load]
  | unloadable {error : SchemaLoadError}
    (load : (store.load pipeline.aid tree here (.ofParts place)).1 = .error (.schema error)) :
    RunsAgainst document reference place
      (.ok (.failed request.displayName request.source error.message (some reference)))
      (afterLoad pipeline tree here store place) [.load]
  | unchecked {schema : XmlCheck.Schema} {cause : CheckFailure}
    (load : (store.load pipeline.aid tree here (.ofParts place)).1 = .ok schema)
    (validate : schema.diagnostics document request.displayName = .error cause) :
    RunsAgainst document reference place (.error (.check cause))
      (afterLoad pipeline tree here store place) [.load, .validate]
  | checked {schema : XmlCheck.Schema} {diagnostics : List Diagnostic}
    (load : (store.load pipeline.aid tree here (.ofParts place)).1 = .ok schema)
    (validate : schema.diagnostics document request.displayName = .ok diagnostics) :
    RunsAgainst document reference place
      (.ok (checkedOutcome request.displayName reference diagnostics))
      (afterLoad pipeline tree here store place) [.load, .validate]

/-- What can become of a document that declares an identifier. -/
inductive RunsDeclared (document : Xml.Document) (identifier : Text) :
    Except RunFailure Outcome → SchemaStore → List Stage → Prop
  | unreadable {cause : FileError}
    (resolve : (store.resolve pipeline.resolver tree identifier).1 = .error (.unreadable cause)) :
    RunsDeclared document identifier (.error (.files cause))
      (afterResolve pipeline tree store identifier) [.resolve]
  | unresolved {error : ResolutionError}
    (resolve : (store.resolve pipeline.resolver tree identifier).1 = .error (.unresolved error)) :
    RunsDeclared document identifier
      (.ok (.failed request.displayName request.source error.message (some { identifier })))
      (afterResolve pipeline tree store identifier) [.resolve]
  | unreferred {place : List Text} {cause : FileError}
    (resolve : (store.resolve pipeline.resolver tree identifier).1 = .ok place)
    (refer : pipeline.reference tree identifier place = .error cause) :
    RunsDeclared document identifier (.error (.files cause))
      (afterResolve pipeline tree store identifier) [.resolve, .refer]
  | against {place : List Text} {reference : SchemaReference}
    {result : Except RunFailure Outcome} {after : SchemaStore} {stages : List Stage}
    (resolve : (store.resolve pipeline.resolver tree identifier).1 = .ok place)
    (refer : pipeline.reference tree identifier place = .ok reference)
    (rest : RunsAgainst pipeline tree here (afterResolve pipeline tree store identifier) request
      document reference place result after stages) :
    RunsDeclared document identifier result after (.resolve :: .refer :: stages)

/-- What a run can do: what it gives, the store that it leaves and the stages that it calls. -/
inductive Runs : Except RunFailure Outcome → SchemaStore → List Stage → Prop
  | contentless {cause : LoadError} (load : request.load tree here = .error cause) :
    Runs (.error (.content cause)) store []
  | malformed {content : List UInt8} {first : Diagnostic} {more : List Diagnostic}
    (load : request.load tree here = .ok content)
    (form : checkForm content request.displayName = .broken first more) :
    Runs (.ok { file := request.displayName, isValid := false, diagnostics := first :: more }) store
      [.scan, .form]
  | undeclared {content : List UInt8} {document : Xml.Document}
    (load : request.load tree here = .ok content)
    (form : checkForm content request.displayName = .document document)
    (found : identifier? content document = none) :
    Runs (.ok (.withoutSchema pipeline.policy request.displayName)) store [.scan, .form, .root]
  | declared {content : List UInt8} {document : Xml.Document} {identifier : Text}
    {result : Except RunFailure Outcome} {after : SchemaStore} {stages : List Stage}
    (declares : Declares tree here request content document identifier)
    (rest : RunsDeclared pipeline tree here store request document identifier result after stages) :
    Runs result after (stagesToIdentifier content ++ stages)

end Ways

section Inversion

variable {pipeline : Pipeline} {tree : FileTree} {here : List Text}

/-- A call over noted stages has a given result, and adds given notes to those before it. -/
def Notes (call : StateM (SchemaStore × List Stage) (Except RunFailure Outcome))
    (store : SchemaStore) (result : Except RunFailure Outcome × SchemaStore)
    (stages : List Stage) : Prop :=
  ∀ notes, call (store, notes) = (result.1, result.2, notes ++ stages)

variable (pipeline tree here) in
theorem runsAgainst_checkAgainst (store : SchemaStore) (request : Request)
    (document : Xml.Document) (reference : SchemaReference) (place : List Text) :
    ∃ stages,
      RunsAgainst pipeline tree here store request document reference place
        (pipeline.checkAgainst tree here store request document reference place).1
        (pipeline.checkAgainst tree here store request document reference place).2 stages ∧
      Notes ((pipeline.stages tree here).noted.checkAgainst request document reference place) store
        (pipeline.checkAgainst tree here store request document reference place) stages := by
  unfold Pipeline.checkAgainst Notes Stages.checkAgainst
  simp only [Stages.noted, Stages.noting, Pipeline.stages, bind, StateT.bind]
  rcases hload : store.load pipeline.aid tree here (.ofParts place) with ⟨loaded, after⟩
  obtain rfl : after = afterLoad pipeline tree here store place := by rw [afterLoad, hload]
  have hloaded := congrArg Prod.fst hload
  cases loaded with
  | error failure =>
      cases failure with
      | unreadable cause => exact ⟨_, .unreadable hloaded, fun _ => rfl⟩
      | schema error => exact ⟨_, .unloadable hloaded, fun _ => rfl⟩
  | ok schema =>
      dsimp only
      cases hvalidate : schema.diagnostics document request.displayName with
      | error cause =>
          refine ⟨_, .unchecked hloaded hvalidate, fun notes => ?_⟩
          -- each call has put its own note behind those before it
          rw [List.append_cons notes Stage.load [Stage.validate]]
          rfl
      | ok diagnostics =>
          refine ⟨_, .checked hloaded hvalidate, fun notes => ?_⟩
          rw [List.append_cons notes Stage.load [Stage.validate]]
          rfl

variable (pipeline tree here) in
theorem runsDeclared_checkDeclared (store : SchemaStore) (request : Request)
    (document : Xml.Document) (identifier : Text) :
    ∃ stages,
      RunsDeclared pipeline tree here store request document identifier
        (pipeline.checkDeclared tree here store request document identifier).1
        (pipeline.checkDeclared tree here store request document identifier).2 stages ∧
      Notes ((pipeline.stages tree here).noted.checkDeclared request document identifier) store
        (pipeline.checkDeclared tree here store request document identifier) stages := by
  unfold Pipeline.checkDeclared Notes Stages.checkDeclared
  simp only [bind, StateT.bind]
  rcases hresolve : store.resolve pipeline.resolver tree identifier with ⟨resolved, after⟩
  obtain rfl : after = afterResolve pipeline tree store identifier := by
    rw [afterResolve, hresolve]
  have hresolved := congrArg Prod.fst hresolve
  have hcall : ∀ notes, (pipeline.stages tree here).noted.resolve identifier (store, notes) =
      (resolved, afterResolve pipeline tree store identifier, notes ++ [.resolve]) := by
    intro notes
    simp only [Stages.noted, Stages.noting, Pipeline.stages, hresolve]
  simp only [hcall]
  cases resolved with
  | error failure =>
      cases failure with
      | unreadable cause => exact ⟨_, .unreadable hresolved, fun _ => rfl⟩
      | unresolved error => exact ⟨_, .unresolved hresolved, fun _ => rfl⟩
  | ok place =>
      dsimp only
      have hrefer : ∀ notes, (pipeline.stages tree here).noted.refer identifier place
            (afterResolve pipeline tree store identifier, notes) =
          (pipeline.reference tree identifier place, afterResolve pipeline tree store identifier,
            notes ++ [.refer]) := fun _ => rfl
      simp only [StateT.bind, hrefer]
      cases hreference : pipeline.reference tree identifier place with
      | error cause =>
          refine ⟨_, .unreferred hresolved hreference, fun notes => ?_⟩
          rw [List.append_cons notes Stage.resolve [Stage.refer]]
          rfl
      | ok reference =>
          obtain ⟨stages, hruns, hnotes⟩ := runsAgainst_checkAgainst pipeline tree here
            (afterResolve pipeline tree store identifier) request document reference place
          refine ⟨_, .against hresolved hreference hruns, fun notes => ?_⟩
          rw [List.append_cons notes Stage.resolve (Stage.refer :: stages),
            List.append_cons (notes ++ [Stage.resolve]) Stage.refer stages]
          exact hnotes _

variable (pipeline) in
theorem runs_checkContent (store : SchemaStore) {request : Request} {content : List UInt8}
    (hload : request.load tree here = .ok content) :
    ∃ stages,
      Runs pipeline tree here store request
        (pipeline.checkContent tree here store request content).1
        (pipeline.checkContent tree here store request content).2 stages ∧
      (pipeline.stages tree here).noted.run pipeline.policy request content (store, []) =
        ((pipeline.checkContent tree here store request content).1,
          (pipeline.checkContent tree here store request content).2, stages) := by
  simp only [checkContent, Stages.run, bind, StateT.bind]
  have hscan : (pipeline.stages tree here).noted.scan content (store, []) =
      (Declaration.scanOctets? content, store, [.scan]) := rfl
  have hcheck :
      (pipeline.stages tree here).noted.form content request.displayName (store, [.scan]) =
        (checkForm content request.displayName, store, [.scan, .form]) := rfl
  simp only [hscan, hcheck]
  cases hform : checkForm content request.displayName with
  | broken first more => exact ⟨_, .malformed hload hform, rfl⟩
  | document document =>
      dsimp only
      have hdeclared : (pipeline.stages tree here).noted.declared document
            (Declaration.scanOctets? content) (store, [.scan, .form]) =
          (identifier? content document, store, stagesToIdentifier content) := by
        unfold identifier? stagesToIdentifier
        cases Declaration.scanOctets? content <;> rfl
      simp only [StateT.bind, hdeclared]
      cases hfound : identifier? content document with
      | none =>
          have hscanned : Declaration.scanOctets? content = none :=
            (Option.or_eq_none_iff.mp hfound).1
          have hstages : stagesToIdentifier content = [.scan, .form, .root] := by
            simp [stagesToIdentifier, hscanned]
          rw [hstages]
          exact ⟨_, .undeclared hload hform hfound, rfl⟩
      | some identifier =>
          obtain ⟨stages, hruns, hnotes⟩ := runsDeclared_checkDeclared pipeline tree here store
            request document identifier
          exact ⟨_, .declared ⟨hload, hform, hfound⟩ hruns, hnotes _⟩

/-- The pipeline is the program over its own stages: a note taken at each call changes neither what
a run gives nor the store that it leaves. -/
theorem noted_run {store : SchemaStore} {request : Request} {content : List UInt8}
    (hload : request.load tree here = .ok content) :
    (pipeline.stages tree here).noted.run pipeline.policy request content (store, []) =
      ((pipeline.run tree here store request).1, (pipeline.run tree here store request).2,
        pipeline.stagesRun tree here store request) := by
  obtain ⟨stages, _, hnotes⟩ := runs_checkContent pipeline store hload
  simp only [run, stagesRun, hload, hnotes]

/-- Each run goes one of the ways that `Runs` lists. -/
theorem runs_run (store : SchemaStore) (request : Request) :
    Runs pipeline tree here store request (pipeline.run tree here store request).1
      (pipeline.run tree here store request).2
      (pipeline.stagesRun tree here store request) := by
  cases hload : request.load tree here with
  | error cause =>
      simp only [run, stagesRun, hload]
      exact .contentless hload
  | ok content =>
      obtain ⟨stages, hruns, hnotes⟩ := runs_checkContent pipeline store hload
      simp only [run, stagesRun, hload, hnotes]
      exact hruns

theorem Runs.file_eq {store after : SchemaStore} {request : Request}
    {result : Except RunFailure Outcome} {stages : List Stage} {outcome : Outcome}
    (hruns : Runs pipeline tree here store request result after stages)
    (hresult : result = .ok outcome) : outcome.file = request.displayName := by
  subst hresult
  cases hruns with
  | malformed => rfl
  | undeclared => rfl
  | declared _ hrest =>
      cases hrest with
      | unresolved => rfl
      | against _ _ hagainst => cases hagainst <;> rfl

/-- Every outcome of a run is that of the file it was asked for. -/
theorem file_of_run {store : SchemaStore} {request : Request} {outcome : Outcome}
    (hrun : (pipeline.run tree here store request).1 = .ok outcome) :
    outcome.file = request.displayName :=
  (runs_run store request).file_eq hrun

end Inversion

end XmlCheck.Pipeline
