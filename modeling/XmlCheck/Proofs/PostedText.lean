import Mathlib.Data.List.Forall2
import XmlCheck.Proofs.OctetsOfText
import XmlCheck.Proofs.ServiceReplies

/-!
# Texts that are posted and files

A text that is posted is checked as the octets that UTF-8 writes for it, whatever encoding it
declares. So it is told of as a file that holds these octets is, but for the source that the words
for a document that could not be processed name: a file in UTF-8, or one in ASCII under an encoding
of one octet for each character. With other characters such an encoding reads the octets of UTF-8 as
another text.
-/

namespace XmlCheck

/-! ### One content from two sources -/

/-- The outcomes of one content that two sources bring along under one name: they are the same, or
each says that its own source could not be processed. -/
inductive Outcome.Alike (name first second : Text) : Outcome → Outcome → Prop
  | same (outcome : Outcome) : Alike name first second outcome outcome
  | failed (error : Text) (schema : Option SchemaReference) :
    Alike name first second (.failed name first error schema) (.failed name second error schema)

namespace Pipeline

variable {pipeline : Pipeline} {tree : FileTree} {here : List Text} {store : SchemaStore}
  {first second : Request}

def Alike (first second : Request) (former latter : Except RunFailure Outcome) : Prop :=
  Outcome.Alike first.displayName first.source second.source (Batch.outcomeOf first former)
    (Batch.outcomeOf second latter)

theorem alike_ok (outcome : Outcome) : Alike first second (.ok outcome) (.ok outcome) :=
  .same outcome

theorem alike_error (hname : first.displayName = second.displayName) (failure : RunFailure) :
    Alike first second (.error failure) (.error failure) := by
  unfold Alike Batch.outcomeOf
  rw [← hname]
  exact .failed failure.message none

theorem alike_failed (error : Text) (schema : Option SchemaReference) :
    Alike first second (.ok (.failed first.displayName first.source error schema))
      (.ok (.failed first.displayName second.source error schema)) :=
  .failed error schema

theorem alike_checkAgainst (hname : first.displayName = second.displayName)
    (document : Xml.Document) (reference : SchemaReference) (place : List Text) :
    Alike first second (pipeline.checkAgainst tree here store first document reference place).1
      (pipeline.checkAgainst tree here store second document reference place).1 := by
  unfold checkAgainst
  rw [← hname]
  rcases store.load pipeline.aid tree here (.ofParts place) with ⟨loaded, after⟩
  cases loaded with
  | error failure =>
      cases failure with
      | unreadable cause => exact alike_error hname (.files cause)
      | schema error => exact alike_failed error.message (some reference)
  | ok schema =>
      dsimp only
      cases schema.diagnostics document first.displayName with
      | error cause => exact alike_error hname (.check cause)
      | ok diagnostics => exact alike_ok _

theorem alike_checkDeclared (hname : first.displayName = second.displayName)
    (document : Xml.Document) (identifier : Text) :
    Alike first second (pipeline.checkDeclared tree here store first document identifier).1
      (pipeline.checkDeclared tree here store second document identifier).1 := by
  unfold checkDeclared
  rw [← hname]
  rcases store.resolve pipeline.resolver tree identifier with ⟨resolved, after⟩
  cases resolved with
  | error failure =>
      cases failure with
      | unreadable cause => exact alike_error hname (.files cause)
      | unresolved error => exact alike_failed error.message (some { identifier })
  | ok place =>
      dsimp only
      cases pipeline.reference tree identifier place with
      | error cause => exact alike_error hname (.files cause)
      | ok reference => exact alike_checkAgainst hname document reference place

theorem alike_checkContent (hname : first.displayName = second.displayName)
    (content : List UInt8) :
    Alike first second (pipeline.checkContent tree here store first content).1
      (pipeline.checkContent tree here store second content).1 := by
  unfold checkContent
  rw [← hname]
  dsimp only
  cases checkForm content first.displayName with
  | broken diagnostic more => exact alike_ok _
  | document document =>
      dsimp only
      cases identifier? content document with
      | none => exact alike_ok _
      | some identifier => exact alike_checkDeclared hname document identifier

/-- Two requests of one name that bring along one content differ in their sources only. -/
theorem alike_run (hname : first.displayName = second.displayName) {content : List UInt8}
    (hfirst : first.load tree here = .ok content) (hsecond : second.load tree here = .ok content) :
    Alike first second (pipeline.run tree here store first).1
      (pipeline.run tree here store second).1 := by
  simp only [run, hfirst, hsecond]
  exact alike_checkContent hname content

end Pipeline

/-! ### Replies -/

/-- What a reply says of a document is what the outcome of a file of that name says. Only where the
file could not be processed its path is named, and the document is named instead. -/
structure DocumentReport.TellsOf (item : DocumentReport) (name path : Text) (outcome : Outcome) :
    Prop where
  file : item.file = outcome.file
  status : item.status = outcome.status
  isValid : item.isValid = outcome.isValid
  counted : item.counted = outcome.counted
  schemaIdentifier : item.schemaIdentifier = outcome.schema.map (·.identifier)
  schemaPath : item.schemaPath = (outcome.schema.map (·.displayPath)).filter fun path =>
    !path.isEmpty
  diagnostics : item.diagnostics = outcome.diagnostics ∨
    ∃ error, item.diagnostics = [.couldNotProcess name name error] ∧
      outcome.diagnostics = [.couldNotProcess name path error]

theorem DocumentReport.tellsOf_of_alike {name path : Text} {posted outcome : Outcome}
    (halike : Outcome.Alike name name path posted outcome) :
    (DocumentReport.ofOutcome posted).TellsOf name path outcome := by
  cases halike with
  | same => exact ⟨rfl, rfl, rfl, rfl, rfl, rfl, Or.inl rfl⟩
  | failed error schema =>
      exact ⟨rfl, rfl, rfl, rfl, rfl, rfl, Or.inr ⟨error, rfl, rfl⟩⟩

def Request.ofFile (name : Text) (path : FilePath) : Request :=
  { displayName := name, path := some path }

namespace Service

variable {around : Surroundings} {service : Service}

/-- A posted text is told of as a file with the octets that are written for it. -/
theorem itemOf_tellsOf {document : PostedDocument} {path : FilePath}
    (hread : around.files.read around.here path = .ok (Utf8.encode document.content)) :
    (service.itemOf around document).TellsOf document.displayName path.toText
      (Batch.alone service.pipeline around.files around.here
        (.request (.ofFile document.displayName path))) := by
  have hname : document.toRequest.displayName =
      (Request.ofFile document.displayName path).displayName := rfl
  have hfile : (Request.ofFile document.displayName path).load around.files around.here =
      .ok (Utf8.encode document.content) := by
    simp only [Request.load, Request.ofFile, hread]
    rfl
  exact DocumentReport.tellsOf_of_alike (Pipeline.alike_run hname rfl hfile)

/-- What a reply tells of a document is what becomes of each file with the octets that UTF-8 writes
for its text. Those are the files that hold the text in an encoding that keeps it: UTF-8, or one
of one octet for each character if the text is ASCII. -/
structure TellsOfFiles (service : Service) (around : Surroundings) (document : PostedDocument)
    (item : DocumentReport) : Prop where
  octets : ∀ path : FilePath,
    around.files.read around.here path = .ok (Utf8.encode document.content) →
    item.TellsOf document.displayName path.toText
      (Batch.alone service.pipeline around.files around.here
        (.request (.ofFile document.displayName path)))
  encoded : ∀ (path : FilePath) (encoding : Xml.Encoding) (octets : List UInt8),
    around.files.read around.here path = .ok octets →
    encoding.Encodes document.content octets →
    encoding.Keeps document.content →
    item.TellsOf document.displayName path.toText
      (Batch.alone service.pipeline around.files around.here
        (.request (.ofFile document.displayName path)))

theorem tellsOfFiles_itemOf (document : PostedDocument) :
    service.TellsOfFiles around document (service.itemOf around document) where
  octets _ := itemOf_tellsOf
  encoded path encoding octets hread hencodes hkeeps := by
    rw [hencodes.eq_encode hkeeps] at hread
    exact itemOf_tellsOf hread

/-- Whatever a started service was asked for before, it tells of each text that is posted what
becomes of a file that holds the text, if this is in UTF-8 or all of it in ASCII. -/
theorem posted_told_as_file (hstart : Service.start around = .ok service)
    (earlier : List ServiceRequest) {request : ServiceRequest} {documents : List PostedDocument}
    (htarget : Resource.ofTarget? request.target = some .documents)
    (hmethod : request.method = Resource.documents.method)
    (hbody : PostedDocument.listOfBody request.body = .ok (documents.map .ok)) :
    ∃ report, (service.answerAll around (earlier ++ [request])).getLast? = some (.report report) ∧
      List.Forall₂ (service.TellsOfFiles around) documents report.documents := by
  have hfaithful := faithful_of_start hstart
  obtain ⟨store, -, hcheck⟩ := check_eq service hfaithful documents
  refine ⟨service.reportOf around documents, ?_, ?_⟩
  · rw [answerAll_eq_map hfaithful, fresh_of_start hstart, List.map_append, List.map_singleton,
      List.getLast?_concat, answer_of_documents htarget hmethod hbody, hcheck]
  · rw [reportOf, List.forall₂_map_right_iff, List.forall₂_same]
    intro document _
    exact tellsOfFiles_itemOf document

/-! ### A text in Latin 1 -/

end Service

def latin1Octets (text : Text) : List UInt8 :=
  text.map fun c => UInt8.ofNat c.toNat

theorem encodes_latin1Octets {text : Text} (hlatin1 : ∀ c ∈ text, c.toNat < 256) :
    Xml.Encoding.latin1.Encodes text (latin1Octets text) := by
  change Xml.Encoding.latin1.decodeSingle (latin1Octets text) = _
  induction text with
  | nil => rfl
  | cons c text ih =>
      have hc := Utf8.toNat_ofNat_of_lt (hlatin1 c List.mem_cons_self)
      have hrest := ih fun d hd => hlatin1 d (List.mem_cons_of_mem _ hd)
      have hsingle : Xml.Encoding.latin1.single? (UInt8.ofNat c.toNat) = some c := by
        change some (Char.ofNat (UInt8.ofNat c.toNat).toNat) = some c
        rw [hc, Char.ofNat_toNat]
      rw [latin1Octets, List.map_cons, Xml.Encoding.decodeSingle, hsingle]
      dsimp only
      rw [← latin1Octets, hrest]

/-- A document that declares Latin 1, and a schema with a name. -/
def latin1Document (schema : Text) : PostedDocument :=
  { displayName := "a.xml"
    content := ("<?xml version=\"1.0\" encoding=\"ISO-8859-1\"?><r xmlns:xsi=" : Text) ++
      "'http://www.w3.org/2001/XMLSchema-instance' xsi:noNamespaceSchemaLocation='urn:a:b:" ++
      schema ++ "'/>" }

def latin1File (schema : Text) : Surroundings :=
  { files := ⟨[(["a.xml"], .file (latin1Octets (latin1Document schema).content))]⟩ }

namespace Service

theorem posted_told_as_ascii_file :
    ∃ service report item, Service.start (latin1File "e.xsd") = .ok service ∧
      service.answerAll (latin1File "e.xsd") [requestFor (latin1Document "e.xsd")] =
        [.report report] ∧ report.documents = [item] ∧
      item.TellsOf "a.xml" "a.xml" (Batch.alone service.pipeline (latin1File "e.xsd").files []
        (.request (.ofFile "a.xml" (.ofText "a.xml")))) := by
  have hstart : ∃ service, Service.start (latin1File "e.xsd") = .ok service := ⟨_, rfl⟩
  obtain ⟨service, hservice⟩ := hstart
  have hname : (latin1Document "e.xsd").displayName ≠ [] := List.cons_ne_nil _ _
  obtain ⟨report, hlast, hitems⟩ := posted_told_as_file hservice [] rfl rfl
    (listOfBody_requestFor hname)
  obtain ⟨item, rest, htells, hrest, hdocuments⟩ := List.forall₂_cons_left_iff.mp hitems
  rw [List.forall₂_nil_left_iff.mp hrest] at hdocuments
  have hall : ((latin1Document "e.xsd").content.all fun c => c.toNat < 128) = true := by
    decide +kernel
  have hascii : ∀ c ∈ (latin1Document "e.xsd").content, c.toNat < 128 := by
    simpa only [List.all_eq_true, decide_eq_true_eq] using hall
  refine ⟨service, report, item, hservice, ?_, hdocuments, ?_⟩
  · exact congrArg (fun reply => [reply]) (Option.some.inj hlast)
  · exact htells.encoded (.ofText "a.xml") .latin1
      (latin1Octets (latin1Document "e.xsd").content) rfl
      (encodes_latin1Octets fun c hc => (hascii c hc).trans (by decide))
      (Or.inr ⟨Or.inl rfl, hascii⟩)

/-- With another character a text that declares Latin 1 is read as another text, so that another
schema is looked for than for a file in Latin 1. -/
theorem posted_not_told_as_latin1_file :
    Xml.Encoding.ofName? "ISO-8859-1" = some .latin1 ∧
    Xml.Encoding.latin1.Encodes (latin1Document "é.xsd").content
      (latin1Octets (latin1Document "é.xsd").content) ∧
    ∃ service report, Service.start (latin1File "é.xsd") = .ok service ∧
      (service.answer (latin1File "é.xsd") (requestFor (latin1Document "é.xsd"))).1 =
        .report report ∧
      report.documents.map (·.schemaIdentifier) = [some ("urn:a:b:Ã©.xsd" : Text)] ∧
      (Batch.alone service.pipeline (latin1File "é.xsd").files []
        (.request (.ofFile "a.xml" (.ofText "a.xml")))).schema.map (·.identifier) =
        some "urn:a:b:é.xsd" := by
  have hall : ((latin1Document "é.xsd").content.all fun c => c.toNat < 256) = true := by
    decide +kernel
  have hlatin1 : ∀ c ∈ (latin1Document "é.xsd").content, c.toNat < 256 := by
    simpa only [List.all_eq_true, decide_eq_true_eq] using hall
  refine ⟨by decide +kernel, encodes_latin1Octets hlatin1, ?_⟩
  have hruns : (match Service.start (latin1File "é.xsd") with
      | .ok service =>
        decide ((service.check (latin1File "é.xsd") [latin1Document "é.xsd"]).1.documents.map
            (·.schemaIdentifier) = [some ("urn:a:b:Ã©.xsd" : Text)]) &&
          decide ((Batch.alone service.pipeline (latin1File "é.xsd").files []
            (.request (.ofFile "a.xml" (.ofText "a.xml")))).schema.map (·.identifier) =
            some "urn:a:b:é.xsd")
      | .error _ => false) = true := by
    decide +kernel
  cases hstart : Service.start (latin1File "é.xsd") with
  | error failure =>
      rw [hstart] at hruns
      cases hruns
  | ok service =>
      rw [hstart] at hruns
      obtain ⟨hposted, hfile⟩ := Bool.and_eq_true_iff.mp hruns
      have hname : (latin1Document "é.xsd").displayName ≠ [] := List.cons_ne_nil _ _
      exact ⟨service, _, rfl, answer_of_documents rfl rfl (listOfBody_requestFor hname),
        of_decide_eq_true hposted, of_decide_eq_true hfile⟩

end Service

end XmlCheck
