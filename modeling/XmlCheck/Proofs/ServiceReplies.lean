import XmlCheck.Proofs.Ending
import XmlCheck.Proofs.PastLoading
import XmlCheck.Proofs.SettledRoot
import XmlCheck.Proofs.Transparency
import XmlCheck.Service

/-!
# Replies of a started service

What a service remembers from one request to the next is faithful to its files, so as long as those
stay as they are each reply is the one that the service gives when it has just been started. A reply
to documents tells of each of them, in their order, what becomes of it alone; the counts, which are
kept beside, are those of what is told. The path of a schema is told exactly if the identifier of
the document leads to a file and the run does not break off afterwards.
-/

namespace XmlCheck

namespace Service

variable {around : Surroundings} {service : Service}

theorem pipeline_of_start (hstart : Service.start around = .ok service) :
    ∃ settings, Settings.load around none = .ok settings ∧
      settings.pipeline around.files = .ok service.pipeline ∧ service.store = {} := by
  unfold Service.start at hstart
  split at hstart
  · cases hstart
  · rename_i settings hload
    split at hstart
    · cases hstart
    · rename_i pipeline hpipeline
      cases hstart
      exact ⟨settings, hload, hpipeline, rfl⟩

theorem named_of_start (hhere : HasNames around.here)
    (hstart : Service.start around = .ok service) : service.pipeline.resolver.Named := by
  obtain ⟨settings, hload, hpipeline, -⟩ := pipeline_of_start hstart
  cases hresolver : settings.resolver around.files with
  | error cause =>
      rw [Settings.pipeline, hresolver] at hpipeline
      cases hpipeline
  | ok resolver =>
      rw [Settings.pipeline, hresolver] at hpipeline
      rw [← Except.ok.inj hpipeline]
      exact Resolver.Made.named ⟨around.files, [], .ofParts settings.root, settings.components,
        settings.modules, hasNames_nil, Settings.hasNames_load hhere hload, hresolver⟩

theorem faithful_of_start (hstart : Service.start around = .ok service) :
    service.store.Faithful service.pipeline around.files around.here := by
  obtain ⟨_, -, -, hstore⟩ := pipeline_of_start hstart
  rw [hstore]
  exact SchemaStore.faithful_empty service.pipeline around.files around.here

end Service

namespace Batch

variable {pipeline : Pipeline} {tree : FileTree} {here : List Text}

theorem faithful_after {batch : Batch} (hfaithful : batch.store.Faithful pipeline tree here)
    (entries : List BatchEntry) :
    (batch.after pipeline tree here entries).store.Faithful pipeline tree here := by
  induction entries generalizing batch with
  | nil => exact hfaithful
  | cons entry entries ih => exact ih (faithful_settle hfaithful entry)

theorem heard_silent (steps : List (ReportEvent × Batch)) : heard .silent steps = steps := by
  induction steps with
  | nil => rfl
  | cons step steps ih =>
      have hnone : (Reporter.silent.write step.1).fault = none := rfl
      rw [heard, hnone]
      exact congrArg (step :: ·) ih

theorem outcomesOf_told (outcomes : List Outcome) (summary : Summary) :
    outcomesOf (.start :: (outcomes.map .outcome ++ [.finish summary])) = outcomes := by
  simp [outcomesOf, List.filterMap_map]

end Batch

namespace PostedDocument

def toRequest (document : PostedDocument) : Request :=
  { displayName := document.displayName, content := some (Utf8.encode document.content) }

end PostedDocument

namespace Service

variable {around : Surroundings} {service : Service}

def fresh (service : Service) : Service :=
  { service with store := {} }

theorem fresh_of_start (hstart : Service.start around = .ok service) : service.fresh = service := by
  obtain ⟨_, -, -, hstore⟩ := pipeline_of_start hstart
  rw [fresh, ← hstore]

theorem faithful_fresh (service : Service) (around : Surroundings) :
    service.fresh.store.Faithful service.pipeline around.files around.here :=
  SchemaStore.faithful_empty service.pipeline around.files around.here

def outcomeOf (service : Service) (around : Surroundings) (document : PostedDocument) : Outcome :=
  Batch.alone service.pipeline around.files around.here document.toEntry

def itemOf (service : Service) (around : Surroundings) (document : PostedDocument) :
    DocumentReport :=
  .ofOutcome (service.outcomeOf around document)

/-- What a service tells of documents that it is asked for. -/
def reportOf (service : Service) (around : Surroundings) (documents : List PostedDocument) :
    BatchReport :=
  { summary := .ofSummary ((documents.map (service.outcomeOf around)).foldl Summary.record {})
    documents := documents.map (service.itemOf around) }

/-- Checking documents tells of each what becomes of it alone, and leaves the store faithful. -/
theorem check_eq (service : Service)
    (hfaithful : service.store.Faithful service.pipeline around.files around.here)
    (documents : List PostedDocument) :
    ∃ store : SchemaStore, store.Faithful service.pipeline around.files around.here ∧
      service.check around documents =
        (service.reportOf around documents, { service with store }) := by
  let batch : Batch := { store := service.store }
  let entries := documents.map PostedDocument.toEntry
  let last := batch.after service.pipeline around.files around.here entries
  have houtcomes : batch.outcomes service.pipeline around.files around.here entries =
      documents.map (service.outcomeOf around) := by
    rw [Batch.outcomes_eq_map hfaithful, List.map_map]
    rfl
  have hlast : (Batch.tell .silent {} (batch.process service.pipeline around.files around.here
      entries)).2 = last := by
    rw [Batch.tell_snd, Batch.heard_silent]
    exact Batch.standing_steps _ _ _ batch entries
  have hsummary : last.summary =
      (documents.map (service.outcomeOf around)).foldl Summary.record {} := by
    rw [← houtcomes]
    exact Batch.summary_after batch entries
  have htold : Batch.outcomesOf ((batch.process service.pipeline around.files around.here
      entries).map Prod.fst) = documents.map (service.outcomeOf around) := by
    rw [Batch.map_fst_process, Batch.outcomesOf_told, houtcomes]
  refine ⟨last.store, Batch.faithful_after hfaithful entries, ?_⟩
  simp only [check, reportOf]
  rw [← hsummary, ← hlast]
  congr 2
  exact (congrArg (List.map DocumentReport.ofOutcome) htold).trans List.map_map

/-- A reply does not depend on what is remembered, and leaves the store faithful. -/
theorem answer_eq (hfaithful : service.store.Faithful service.pipeline around.files around.here)
    (request : ServiceRequest) :
    ∃ store : SchemaStore, store.Faithful service.pipeline around.files around.here ∧
      service.answer around request =
        ((service.fresh.answer around request).1, { service with store }) := by
  have hkept : ∃ store : SchemaStore, store.Faithful service.pipeline around.files around.here ∧
      service = { service with store } := ⟨service.store, hfaithful, rfl⟩
  unfold answer
  split
  · exact hkept.imp fun store h => ⟨h.1, congrArg (Prod.mk _) h.2⟩
  · split_ifs
    · exact hkept.imp fun store h => ⟨h.1, congrArg (Prod.mk _) h.2⟩
    · split
      · exact hkept.imp fun store h => ⟨h.1, congrArg (Prod.mk _) h.2⟩
      · split
        · exact hkept.imp fun store h => ⟨h.1, congrArg (Prod.mk _) h.2⟩
        · rename_i documents _
          rcases PostedDocument.encodable documents with ⟨documents, failure?⟩
          obtain ⟨store, hstore, hcheck⟩ := check_eq service hfaithful documents
          obtain ⟨_, _, hfresh⟩ :=
            check_eq service.fresh (service.faithful_fresh around) documents
          simp only [hcheck, hfresh]
          refine ⟨store, hstore, ?_⟩
          cases failure? <;> rfl

/-- As long as the files stay as they are, each reply of a service is the one that it gives when it
has just been started. -/
theorem answerAll_eq_map
    (hfaithful : service.store.Faithful service.pipeline around.files around.here)
    (requests : List ServiceRequest) :
    service.answerAll around requests =
      requests.map fun request => (service.fresh.answer around request).1 := by
  induction requests generalizing service with
  | nil => rfl
  | cons request requests ih =>
      obtain ⟨store, hstore, hanswer⟩ := answer_eq hfaithful request
      have hrest : ({ service with store } : Service).answerAll around requests =
          requests.map fun request => (service.fresh.answer around request).1 := ih hstore
      rw [answerAll, hanswer, List.map_cons]
      exact congrArg _ hrest

/-! ### Paths of schemas -/

/-- A document that is a tree, and whose identifier leads to a place. -/
def Finds (service : Service) (around : Surroundings) (document : PostedDocument)
    (place : List Text) : Prop :=
  ∃ (tree : Xml.Document) (identifier : Text),
    Pipeline.Declares around.files around.here document.toRequest (Utf8.encode document.content)
      tree identifier ∧
    service.pipeline.resolver.locate around.files identifier = .ok place

/-- A document that cannot be held against its schema at all, so that the batch says why in place of
the run. -/
def BreaksOff (service : Service) (around : Surroundings) (document : PostedDocument) : Prop :=
  ∃ cause : Schema.CheckFailure,
    service.pipeline.alone around.files around.here document.toRequest = .error (.check cause)

/-- A document declares one identifier only, so it finds what that one leads to. -/
theorem finds_iff {document : PostedDocument} {tree : Xml.Document} {identifier : Text}
    (hdeclares : Pipeline.Declares around.files around.here document.toRequest
      (Utf8.encode document.content) tree identifier) (place : List Text) :
    service.Finds around document place ↔
      service.pipeline.resolver.locate around.files identifier = .ok place := by
  refine ⟨?_, fun hlocate => ⟨tree, identifier, hdeclares, hlocate⟩⟩
  rintro ⟨other, name, hother, hlocate⟩
  cases hother.form.symm.trans hdeclares.form
  cases hother.found.symm.trans hdeclares.found
  exact hlocate

section Located

variable {pipeline : Pipeline} {files : FileTree} {identifier : Text} {place : List Text}

/-- A place that an identifier leads to is its own canonical place. -/
theorem canonical_of_locate (hlocate : pipeline.resolver.locate files identifier = .ok place)
    (here : List Text) : files.canonical here (.ofParts place) = .ok place := by
  have hresolve :
      (({} : SchemaStore).resolve pipeline.resolver files identifier).1 = .ok place := hlocate
  exact ((SchemaStore.anchored_empty files).use [] (.find identifier)).canonical_eq
    (SchemaStore.lookup_resolve_of_ok hresolve) here

theorem reference_of_locate (hlocate : pipeline.resolver.locate files identifier = .ok place) :
    pipeline.reference files identifier place = .ok
      ⟨identifier, some (.ofParts place), pipeline.resolver.shownPlace place⟩ :=
  Pipeline.reference_eq_ok.mpr ⟨place, canonical_of_locate hlocate [], rfl⟩

/-- Nothing but the schema itself can be the reason why it is not loaded from such a place. -/
theorem load_ne_unreadable (hlocate : pipeline.resolver.locate files identifier = .ok place)
    (store : SchemaStore) (here : List Text) (cause : FileError) :
    (store.load pipeline.aid files here (.ofParts place)).1 ≠ .error (.unreadable cause) := by
  intro hload
  simp only [SchemaStore.load, canonical_of_locate hlocate here] at hload
  cases hloaded : (store.loadPlace pipeline.aid files here place).1 with
  | error error =>
      rw [hloaded] at hload
      cases hload
  | ok schema =>
      rw [hloaded] at hload
      cases hload

theorem schemaPath_ofOutcome_iff (hnamed : pipeline.resolver.Named)
    (hlocate : pipeline.resolver.locate files identifier = .ok place) {outcome : Outcome}
    (hschema : outcome.schema =
      some ⟨identifier, some (.ofParts place), pipeline.resolver.shownPlace place⟩)
    (shown : Text) :
    (DocumentReport.ofOutcome outcome).schemaPath = some shown ↔
      (∃ other, pipeline.resolver.locate files identifier = .ok other ∧
        pipeline.resolver.shownPlace other = shown) ∧
      ¬ ∃ cause, Except.ok outcome = .error (RunFailure.check cause) := by
  have hshown := pipeline.resolver.shownPlace_ne_nil (hnamed.locate hlocate)
  have hpath : (DocumentReport.ofOutcome outcome).schemaPath =
      some (pipeline.resolver.shownPlace place) := by
    simp [DocumentReport.ofOutcome, hschema, hshown]
  rw [hpath, Option.some.injEq]
  refine ⟨fun heq => ⟨⟨place, hlocate, heq⟩, fun ⟨_, hfailure⟩ => nomatch hfailure⟩, ?_⟩
  rintro ⟨⟨other, hother, heq⟩, -⟩
  cases hother.symm.trans hlocate
  exact heq

end Located

/-- The path of a schema is told exactly if the identifier of the document leads to a place, and the
run does not break off when the document is held against the schema. -/
theorem schemaPath_eq_some_iff (hnamed : service.pipeline.resolver.Named)
    (document : PostedDocument) (shown : Text) :
    (service.itemOf around document).schemaPath = some shown ↔
      (∃ place, service.Finds around document place ∧
        service.pipeline.resolver.shownPlace place = shown) ∧
      ¬ service.BreaksOff around document := by
  obtain ⟨after, stages, hruns⟩ : ∃ after stages, Pipeline.Runs service.pipeline around.files
      around.here {} document.toRequest
      (service.pipeline.alone around.files around.here document.toRequest) after stages :=
    ⟨_, _, Pipeline.runs_run {} document.toRequest⟩
  have hitem : service.itemOf around document = .ofOutcome (Batch.outcomeOf document.toRequest
      (service.pipeline.alone around.files around.here document.toRequest)) := rfl
  rw [hitem]
  unfold BreaksOff
  generalize service.pipeline.alone around.files around.here document.toRequest = result
    at hruns
  cases hruns with
  | contentless hload => cases hload
  | malformed hload hform =>
      cases hload
      refine ⟨nofun, ?_⟩
      rintro ⟨⟨place, ⟨tree, identifier, hdeclares, -⟩, -⟩, -⟩
      cases hdeclares.form.symm.trans hform
  | undeclared hload hform hfound =>
      cases hload
      refine ⟨nofun, ?_⟩
      rintro ⟨⟨place, ⟨tree, identifier, hdeclares, -⟩, -⟩, -⟩
      cases hdeclares.form.symm.trans hform
      cases hdeclares.found.symm.trans hfound
  | declared hdeclares hrest =>
      cases hdeclares.load
      simp only [finds_iff hdeclares]
      cases hrest with
      | unreadable hresolve =>
          refine ⟨nofun, ?_⟩
          rintro ⟨⟨place, hlocate, -⟩, -⟩
          cases hresolve.symm.trans hlocate
      | unresolved hresolve =>
          refine ⟨nofun, ?_⟩
          rintro ⟨⟨place, hlocate, -⟩, -⟩
          cases hresolve.symm.trans hlocate
      | unreferred hresolve hrefer =>
          cases hrefer.symm.trans (reference_of_locate hresolve)
      | against hresolve hrefer hagainst =>
          cases hrefer.symm.trans (reference_of_locate hresolve)
          cases hagainst with
          | unreadable hload => exact absurd hload (load_ne_unreadable hresolve _ _ _)
          | unchecked hload hvalidate => exact ⟨nofun, fun h => absurd ⟨_, rfl⟩ h.2⟩
          | unloadable hload => exact schemaPath_ofOutcome_iff hnamed hresolve rfl shown
          | checked hload hvalidate => exact schemaPath_ofOutcome_iff hnamed hresolve rfl shown

/-! ### Accounts -/

/-- A report that tells all of the documents of a request, and agrees with itself. -/
structure Accounts (service : Service) (around : Surroundings) (documents : List PostedDocument)
    (report : BatchReport) : Prop where
  number : 1 ≤ documents.length ∧ documents.length ≤ PostedDocument.limit
  items : report.documents = documents.map (service.itemOf around)
  files : report.documents.map (·.file) = documents.map (·.displayName)
  total : report.summary.total = report.documents.countP (·.counted)
  valid : report.summary.valid = report.documents.countP fun item => item.counted && item.isValid
  exitCode : report.summary.exitCode =
    if report.summary.valid = report.summary.total then 0 else 1
  text : report.summary.text = Summary.text ⟨report.summary.total, report.summary.valid⟩
  schemaPath : ∀ document ∈ documents, ∀ shown,
    (service.itemOf around document).schemaPath = some shown ↔
      (∃ place, service.Finds around document place ∧
        service.pipeline.resolver.shownPlace place = shown) ∧
      ¬ service.BreaksOff around document

theorem file_itemOf (document : PostedDocument) :
    (service.itemOf around document).file = document.displayName :=
  Batch.file_settle service.pipeline around.files around.here {} document.toEntry

theorem accounts_reportOf (hnamed : service.pipeline.resolver.Named)
    {documents : List PostedDocument}
    (hnumber : 1 ≤ documents.length ∧ documents.length ≤ PostedDocument.limit) :
    service.Accounts around documents (service.reportOf around documents) := by
  have hcounts : Batch.Counts
      ((documents.map (service.outcomeOf around)).foldl Summary.record {})
      (documents.map (service.outcomeOf around)) := by
    have hall := Batch.counts_empty.foldl (documents.map (service.outcomeOf around))
    rwa [List.nil_append] at hall
  refine ⟨hnumber, rfl, ?_, ?_, ?_, Batch.exitCode_eq_ite _, rfl, fun document _ =>
    schemaPath_eq_some_iff hnamed document⟩
  · rw [reportOf, List.map_map]
    exact List.map_congr_left fun document _ => file_itemOf document
  · have htotal := hcounts.total
    rw [List.countP_map] at htotal
    rw [reportOf, List.countP_map]
    exact htotal
  · have hvalid := hcounts.valid
    rw [List.countP_map] at hvalid
    rw [reportOf, List.countP_map]
    exact hvalid

end Service

namespace Reading

variable {α : Type}

theorem under_eq_ok {key : Text} {reading : Reading α} {value : α} :
    under key reading = .ok value ↔ reading = .ok value := by
  cases reading <;> simp [under]

theorem length_of_eachFrom {read : Datum → Reading α} {index : Nat}
    {items : List Datum} {values : List α}
    (hread : eachFrom read index items = .ok values) : values.length = items.length := by
  induction items generalizing index values with
  | nil =>
      cases hread
      rfl
  | cons item items ih =>
      obtain ⟨value, rest, -, hrest, rfl⟩ := combine_eq_ok.mp hread
      rw [List.length_cons, List.length_cons, ih hrest]

end Reading

namespace PostedDocument

theorem length_of_listOfDatum {datum : Datum}
    {documents : List (Except Utf8.EncodeFailure PostedDocument)}
    (hread : listOfDatum datum = .ok documents) :
    1 ≤ documents.length ∧ documents.length ≤ limit := by
  unfold listOfDatum at hread
  split at hread
  · rename_i items
    split_ifs at hread with hmany hnone
    · cases hread
    · cases hread
    · have hpositive : 0 < items.length := List.length_pos_iff.mpr (mt List.isEmpty_iff.mpr hnone)
      rw [Reading.length_of_eachFrom hread]
      omega
  · cases hread

theorem length_of_listOfBody {body : RequestBody}
    {documents : List (Except Utf8.EncodeFailure PostedDocument)}
    (hread : listOfBody body = .ok documents) :
    1 ≤ documents.length ∧ documents.length ≤ limit := by
  have hinner := Reading.under_eq_ok.mp hread
  split at hinner
  · cases hinner
  · cases hinner
  · cases Reading.under_eq_ok.mp hinner
  · have hfield := Reading.under_eq_ok.mp hinner
    split at hfield
    · exact length_of_listOfDatum hfield
    · cases hfield
  · cases hinner

theorem encodable_map_ok (documents : List PostedDocument) :
    encodable (documents.map .ok) = (documents, none) := by
  induction documents with
  | nil => rfl
  | cons document documents ih => simp [encodable, ih]

end PostedDocument

namespace Service

variable {around : Surroundings} {service : Service}

theorem answer_of_documents {request : ServiceRequest} {documents : List PostedDocument}
    (htarget : Resource.ofTarget? request.target = some .documents)
    (hmethod : request.method = Resource.documents.method)
    (hbody : PostedDocument.listOfBody request.body = .ok (documents.map .ok)) :
    (service.answer around request).1 = .report (service.check around documents).1 := by
  simp [answer, htarget, hmethod, hbody, PostedDocument.encodable_map_ok]

/-- On files that stay as they are, a started service gives each request of a sequence the reply
that it gives to that request alone. The reply to documents that can be encoded tells of each of them
in its place, under its name and as what becomes of it alone, and its counts, exit status and words
are those of what it tells; a path of a schema is told exactly if the identifier of the document
leads to a file and the run does not break off. -/
theorem replies_account_for_documents (hhere : HasNames around.here)
    (hstart : Service.start around = .ok service) :
    (∀ requests : List ServiceRequest, service.answerAll around requests =
      requests.map fun request => (service.answer around request).1) ∧
    ∀ (request : ServiceRequest) (documents : List PostedDocument),
      Resource.ofTarget? request.target = some .documents →
      request.method = Resource.documents.method →
      PostedDocument.listOfBody request.body = .ok (documents.map .ok) →
      ∃ report, (service.answer around request).1 = .report report ∧
        service.Accounts around documents report := by
  have hfaithful := faithful_of_start hstart
  refine ⟨fun requests => ?_, fun request documents htarget hmethod hbody => ?_⟩
  · have hreplies := answerAll_eq_map hfaithful requests
    rwa [fresh_of_start hstart] at hreplies
  · obtain ⟨store, -, hcheck⟩ := check_eq service hfaithful documents
    have hlength := PostedDocument.length_of_listOfBody hbody
    rw [List.length_map] at hlength
    refine ⟨service.reportOf around documents, ?_,
      accounts_reportOf (named_of_start hhere hstart) hlength⟩
    rw [answer_of_documents htarget hmethod hbody, hcheck]

/-! ### One request -/

def requestFor (document : PostedDocument) : ServiceRequest :=
  { method := "POST", target := "/api/validate"
    body := .data (.mapping [(.text "documents", .list [.mapping
      [(.text "display_name", .text document.displayName),
        (.text "content", .text document.content)]])]) }

theorem listOfBody_requestFor {document : PostedDocument} (hname : document.displayName ≠ []) :
    PostedDocument.listOfBody (requestFor document).body = .ok ([document].map .ok) := by
  obtain ⟨_ | ⟨c, name⟩, content⟩ := document
  · exact absurd rfl hname
  · rfl

/-- An element without content, checked in a directory without files. -/
theorem replies_account_for_element :
    ∃ service report, Service.start {} = .ok service ∧
      service.answerAll {} [requestFor ⟨"a", "<a/>"⟩] = [.report report] ∧
      service.Accounts {} [⟨"a", "<a/>"⟩] report := by
  have hstart : ∃ service, Service.start {} = .ok service := ⟨_, rfl⟩
  obtain ⟨service, hservice⟩ := hstart
  obtain ⟨hall, hone⟩ := replies_account_for_documents hasNames_nil hservice
  obtain ⟨report, hreport, haccounts⟩ := hone (requestFor ⟨"a", "<a/>"⟩) [⟨"a", "<a/>"⟩] rfl rfl
    (listOfBody_requestFor (List.cons_ne_nil _ _))
  refine ⟨service, report, hservice, ?_, haccounts⟩
  rw [hall, List.map_singleton, hreport]

/-! ### A run that breaks off -/

/-- Whether the walk over an element stops if its content begins with a reference. -/
def stopsAtReference (schema : XmlCheck.Schema) (tag : Xml.Tag) (name : Text) : Bool :=
  match Schema.element? schema tag.name with
  | none => false
  | some rule =>
    match (Schema.checkElement schema [] [] (.declared rule) tag fun _ _ _ _ =>
      throw (.entityReference name)).run {} with
    | .error _ => true
    | .ok _ => false

theorem exists_diagnostics_error {schema : XmlCheck.Schema} {tag : Xml.Tag} {name : Text}
    (hstops : stopsAtReference schema tag name = true) (rest : List Xml.Node) (file : Text) :
    ∃ cause, schema.diagnostics ⟨⟨tag, .reference name :: rest⟩⟩ file = .error cause := by
  unfold stopsAtReference at hstops
  unfold Schema.diagnostics Schema.violations Schema.checkRoot
  cases hrule : Schema.element? schema tag.name with
  | none =>
      rw [hrule] at hstops
      cases hstops
  | some rule =>
      have hcontent : (fun scope watches opening inside => Schema.checkContent schema scope watches
            opening (.ofTag tag) (.reference name :: rest) inside) =
          fun _ _ _ _ => throw (.entityReference name) := by
        funext scope watches opening inside
        rw [Schema.checkContent]
      rw [hrule] at hstops
      dsimp only at hstops ⊢
      rw [hcontent]
      cases hwalk : (Schema.checkElement schema [] [] (.declared rule) tag fun _ _ _ _ =>
          throw (.entityReference name)).run {} with
      | ok result =>
          rw [hwalk] at hstops
          cases hstops
      | error cause =>
          refine ⟨cause, ?_⟩
          rw [StateT.run_bind, hwalk]
          rfl

theorem breaksOff_of_diagnostics {document : PostedDocument} {tree : Xml.Document}
    {identifier : Text} {place : List Text} {schema : XmlCheck.Schema} {cause : Schema.CheckFailure}
    (hdeclares : Pipeline.Declares around.files around.here document.toRequest
      (Utf8.encode document.content) tree identifier)
    (hlocate : service.pipeline.resolver.locate around.files identifier = .ok place)
    (hload : ((Pipeline.afterResolve service.pipeline around.files {} identifier).load
      service.pipeline.aid around.files around.here (.ofParts place)).1 = .ok schema)
    (hstops : schema.diagnostics tree document.displayName = .error cause) :
    service.BreaksOff around document := by
  have hloaded : Pipeline.HasLoaded service.pipeline around.files around.here {}
      document.toRequest (Utf8.encode document.content) tree identifier place
      ⟨identifier, some (.ofParts place), service.pipeline.resolver.shownPlace place⟩ schema :=
    ⟨hdeclares, hlocate, reference_of_locate hlocate, hload⟩
  refine ⟨cause, ?_⟩
  have hname : document.toRequest.displayName = document.displayName := rfl
  rw [Pipeline.alone, hloaded.run_eq, Pipeline.heldAgainst, hname, hstops]

def stringElement : Surroundings :=
  { files := ⟨[([".xmlvalidator.yaml"], .file (Utf8.encode "components: \x7b\"a:b\": lib\x7d\n")),
      (["lib"], .directory),
      (["lib", "x.xsd"], .file (Utf8.encode (("<xs:schema xmlns:xs=" : Text) ++
        "\"http://www.w3.org/2001/XMLSchema\"><xs:element name=\"r\" type=\"xs:string\"/>" ++
        "</xs:schema>")))]⟩ }

/-- A document whose root has a reference that is not expanded. -/
def unexpanded : PostedDocument :=
  { displayName := "a"
    content := ("<!DOCTYPE r [<!ENTITY e \"v\">]><r xmlns:xsi=" : Text) ++
      "\"http://www.w3.org/2001/XMLSchema-instance\" " ++
      "xsi:noNamespaceSchemaLocation=\"urn:a:b:x.xsd\">&e;</r>" }

/-- Whether a document goes through all stages up to the walk over its root, where it stops. -/
def stops (service : Service) (around : Surroundings) (document : PostedDocument)
    (identifier : Text) : Bool :=
  match checkForm (Utf8.encode document.content) document.displayName with
  | .document ⟨⟨tag, .reference name :: rest⟩⟩ =>
    Pipeline.identifier? (Utf8.encode document.content) ⟨⟨tag, .reference name :: rest⟩⟩ =
        some identifier &&
      match service.pipeline.resolver.locate around.files identifier with
      | .ok place =>
        match ((Pipeline.afterResolve service.pipeline around.files {} identifier).load
          service.pipeline.aid around.files around.here (.ofParts place)).1 with
        | .ok schema => stopsAtReference schema tag name
        | .error _ => false
      | .error _ => false
  | _ => false

theorem breaksOff_of_stops {document : PostedDocument} {identifier : Text}
    (hstops : service.stops around document identifier = true) :
    (∃ place, service.Finds around document place) ∧ service.BreaksOff around document := by
  unfold stops at hstops
  split at hstops
  · rename_i tag name rest hform
    obtain ⟨hfound, hrest⟩ := Bool.and_eq_true_iff.mp hstops
    have hdeclares : Pipeline.Declares around.files around.here document.toRequest
        (Utf8.encode document.content) ⟨⟨tag, .reference name :: rest⟩⟩ identifier :=
      ⟨rfl, hform, of_decide_eq_true hfound⟩
    split at hrest
    · rename_i place hlocate
      split at hrest
      · rename_i schema hload
        obtain ⟨cause, hcause⟩ := exists_diagnostics_error hrest rest document.displayName
        exact ⟨⟨place, _, _, hdeclares, hlocate⟩,
          breaksOff_of_diagnostics hdeclares hlocate hload hcause⟩
      · cases hrest
    · cases hrest
  · cases hstops

/-- The identifier of a document leads to a file, but the reply tells no path for it. -/
theorem no_schemaPath_though_found :
    ∃ service report, Service.start stringElement = .ok service ∧
      (service.answer stringElement (requestFor unexpanded)).1 = .report report ∧
      (∃ place, service.Finds stringElement unexpanded place) ∧
      report.documents.map (·.schemaPath) = [none] := by
  have hruns : (match Service.start stringElement with
      | .ok service => service.stops stringElement unexpanded "urn:a:b:x.xsd"
      | .error _ => false) = true := by
    decide +kernel
  cases hstart : Service.start stringElement with
  | error failure =>
      rw [hstart] at hruns
      cases hruns
  | ok service =>
      rw [hstart] at hruns
      obtain ⟨hfound, hbreaks⟩ := breaksOff_of_stops hruns
      have hnamed := named_of_start hasNames_nil hstart
      obtain ⟨_, -, hcheck⟩ := check_eq service (faithful_of_start hstart) [unexpanded]
      have hname : unexpanded.displayName ≠ [] := List.cons_ne_nil _ _
      refine ⟨service, service.reportOf stringElement [unexpanded], rfl, ?_, hfound, ?_⟩
      · rw [answer_of_documents rfl rfl (listOfBody_requestFor hname), hcheck]
      · cases hpath : (service.itemOf stringElement unexpanded).schemaPath with
        | none => exact congrArg (fun path => [path]) hpath
        | some shown =>
            exact absurd hbreaks ((schemaPath_eq_some_iff hnamed unexpanded shown).mp hpath).2

end Service

end XmlCheck
