import XmlCheck.Batch
import XmlCheck.Form.Json
import XmlCheck.Settings

/-!
The service: it is started once, and then checks the documents that requests bring along. Schemas
are remembered from one request to the next; each request has its own counts.
-/

namespace XmlCheck

inductive RequestBody
  | absent
  | data (datum : Datum)
  | broken (offset : Nat)

def withoutMark : Text → Text
  | '\ufeff' :: rest => rest
  | text => text

def RequestBody.ofText (text : Text) : RequestBody :=
  if text.isEmpty then .absent
  else
    match Json.read (withoutMark text) with
    | .ok datum => .data datum
    | .error offset => .broken offset

structure ServiceRequest where
  method : Text
  target : Text
  body : RequestBody := .absent

/-- A document that a request brings along, with a content that can be encoded. -/
structure PostedDocument where
  displayName : Text
  content : Text
  deriving DecidableEq, Repr

structure DocumentReport where
  file : Text
  status : Status
  isValid : Bool
  counted : Bool
  schemaIdentifier : Option Text
  schemaPath : Option Text
  diagnostics : List Diagnostic
  deriving DecidableEq, Repr

structure SummaryReport where
  total : Int
  valid : Int
  exitCode : Nat
  text : Text
  deriving DecidableEq, Repr

structure BatchReport where
  summary : SummaryReport
  documents : List DocumentReport
  deriving DecidableEq, Repr

inductive Reply
  | health (root : FilePath)
  | report (report : BatchReport)
  | refused (faults : List Fault)
  /-- A document could not be encoded. -/
  | broken (failure : Utf8.EncodeFailure)
  | notFound
  | wrongMethod
  deriving DecidableEq, Repr

def Reply.status : Reply → Nat
  | .health _ => 200
  | .report _ => 200
  | .refused _ => 422
  | .broken _ => 500
  | .notFound => 404
  | .wrongMethod => 405

def DocumentReport.ofOutcome (outcome : Outcome) : DocumentReport :=
  { file := outcome.file
    status := outcome.status
    isValid := outcome.isValid
    counted := outcome.counted
    schemaIdentifier := outcome.schema.map (·.identifier)
    schemaPath := (outcome.schema.map (·.displayPath)).filter fun path => !path.isEmpty
    diagnostics := outcome.diagnostics }

def SummaryReport.ofSummary (summary : Summary) : SummaryReport :=
  { total := summary.total, valid := summary.valid, exitCode := summary.exitCode
    text := summary.text }

namespace PostedDocument

def limit : Nat := 500

def filledText (datum : Datum) : Reading Text :=
  match datum.toText with
  | .ok [] => Reading.fault .textTooShort
  | reading => reading

/-- A content: any text is accepted as one, but it may have code points that cannot be encoded. -/
def contentOf : Datum → Reading (Except Utf8.EncodeFailure Text)
  | .loose codes => .ok (.error ⟨(codes.takeWhile fun code => code.isValidChar).length⟩)
  | datum => datum.toText.map .ok

def ofDatum : Datum → Reading (Except Utf8.EncodeFailure PostedDocument)
  | .mapping fields =>
    Reading.record (fun name content => content.map (PostedDocument.mk name))
      |> Reading.andField (Reading.required "display_name" filledText fields)
      |> Reading.andField (Reading.required "content" contentOf fields)
  | _ => Reading.fault .notRecordBody

/-- Between one document and the greatest number of them. -/
def listOfDatum : Datum → Reading (List (Except Utf8.EncodeFailure PostedDocument))
  | .list items =>
    if limit < items.length then Reading.fault .listTooLong
    else if items.isEmpty then Reading.fault .listTooShort
    else Reading.eachFrom ofDatum 0 items
  | _ => Reading.fault .notList

def listOfBody (body : RequestBody) : Reading (List (Except Utf8.EncodeFailure PostedDocument)) :=
  Reading.under "body" <|
    match body with
    | .absent | .data .null => Reading.fault .missing
    | .broken offset => Reading.under (Text.ofNat offset) (Reading.fault .brokenJson)
    | .data (.mapping fields) => Reading.required "documents" listOfDatum fields
    | .data _ => Reading.fault .notRecordBody

/-- The documents up to the first one that cannot be encoded, and why this one cannot. -/
def encodable : List (Except Utf8.EncodeFailure PostedDocument) →
    List PostedDocument × Option Utf8.EncodeFailure
  | [] => ([], none)
  | .error failure :: _ => ([], some failure)
  | .ok document :: rest => (document :: (encodable rest).1, (encodable rest).2)

def toEntry (document : PostedDocument) : BatchEntry :=
  .request { displayName := document.displayName, content := some (Utf8.encode document.content) }

end PostedDocument

inductive Resource
  | health
  | documents
  deriving DecidableEq, Repr

namespace Resource

def paths : List (Text × Resource) :=
  [("/api/health".toList, .health), ("/api/validate".toList, .documents)]

/-- The resource of a target. A query does not count, nor do slashes at the end. -/
def ofTarget? (target : Text) : Option Resource :=
  paths.lookup (Text.dropWhileEnd (· == '/') (target.takeWhile fun c => c != '?' && c != '#'))

def method : Resource → Text
  | .health => "GET"
  | .documents => "POST"

end Resource

/-- A started service: its project root, what documents are checked with and what is remembered. -/
structure Service where
  root : FilePath
  pipeline : Pipeline
  store : SchemaStore := {}

inductive StartFailure
  | settings (failure : SettingsFailure)
  | files (cause : FileError)
  deriving DecidableEq, Repr

namespace Service

def start (around : Surroundings) : Except StartFailure Service :=
  match Settings.load around none with
  | .error failure => .error (.settings failure)
  | .ok settings =>
    match settings.pipeline around.files with
    | .error cause => .error (.files cause)
    | .ok pipeline => .ok { root := .ofParts settings.root, pipeline }

def check (service : Service) (around : Surroundings) (documents : List PostedDocument) :
    BatchReport × Service :=
  let steps := ({ store := service.store } : Batch).process service.pipeline around.files
    around.here (documents.map PostedDocument.toEntry)
  let last := (Batch.tell .silent {} steps).2
  ({ summary := .ofSummary last.summary
     documents := (Batch.outcomesOf (steps.map (·.1))).map DocumentReport.ofOutcome },
    { service with store := last.store })

def answer (service : Service) (around : Surroundings) (request : ServiceRequest) :
    Reply × Service :=
  match Resource.ofTarget? request.target with
  | none => (.notFound, service)
  | some resource =>
    if request.method != resource.method then (.wrongMethod, service)
    else
      match resource with
      | .health => (.health service.root, service)
      | .documents =>
        match PostedDocument.listOfBody request.body with
        | .error faults => (.refused faults, service)
        | .ok documents =>
          let (documents, failure?) := PostedDocument.encodable documents
          let (report, service) := service.check around documents
          match failure? with
          | none => (.report report, service)
          | some failure => (.broken failure, service)

def answerAll (service : Service) (around : Surroundings) : List ServiceRequest → List Reply
  | [] => []
  | request :: requests =>
    let (reply, service) := service.answer around request
    reply :: service.answerAll around requests

end Service

end XmlCheck
