import XmlCheck.Diagnostic
import XmlCheck.Declaration
import XmlCheck.Xml.Reply

/-!
The check of form: a content is a document, or there are diagnostics that say why not. It is never
both and never neither.
-/

namespace XmlCheck

/-- What the check of form gives: a document exactly if there are no diagnostics. -/
inductive FormCheck
  | document (document : Xml.Document)
  | broken (first : Diagnostic) (more : List Diagnostic)

namespace FormCheck

def diagnostics : FormCheck → List Diagnostic
  | .document _ => []
  | .broken first more => first :: more

def document? : FormCheck → Option Xml.Document
  | .document d => some d
  | .broken _ _ => none

def ok (c : FormCheck) : Bool :=
  c.document?.isSome && c.diagnostics.isEmpty

def ofEntry (file : Text) (entry : Xml.LogEntry) : Diagnostic :=
  .reported file (some entry.line) entry.message

/-- Weighs what a parser answers: a single error in its log gives up the document, and a fault counts
where the log tells of no error. -/
def ofReply (file : Text) (reply : Xml.Reply) : FormCheck :=
  match reply.errors, reply.result with
  | first :: more, _ => .broken (ofEntry file first) (more.map (ofEntry file))
  | [], .ok tree => .document tree
  | [], .error fault => .broken (.reported file fault.line fault.text) []

end FormCheck

def isBlankContent (content : List UInt8) : Bool :=
  content.all fun b => Text.isAsciiBlank (Char.ofNat b.toNat)

/-- The check of form by means of a parser, which is not asked about a blank content. -/
def checkFormBy (parse : List UInt8 → Xml.Reply) (content : List UInt8) (file : Text) :
    FormCheck :=
  if isBlankContent content then .broken (.reported file (some 0) "Document is empty") []
  else .ofReply file (parse content)

def checkForm : (content : List UInt8) → (file : Text) → FormCheck :=
  checkFormBy fun content => (Xml.parse false content).reply

def instanceSpace : Text := "http://www.w3.org/2001/XMLSchema-instance"

def Xml.Document.declaredSchema? (document : Xml.Document) : Option Text :=
  match document.root.tag.attribute? ⟨some instanceSpace, "noNamespaceSchemaLocation"⟩ with
  | some value => Declaration.ofValue? value
  | none => none

namespace FormCheck

theorem document?_isSome_iff (c : FormCheck) :
    c.document?.isSome ↔ c.diagnostics = [] := by
  cases c <;> simp [document?, diagnostics]

theorem ok_iff (c : FormCheck) : c.ok = true ↔ c.diagnostics = [] := by
  cases c <;> simp [ok, document?, diagnostics]

theorem exists_eq_reported_of_ofReply {file : Text} {reply : Xml.Reply} {d : Diagnostic}
    (hmem : d ∈ (ofReply file reply).diagnostics) :
    ∃ line message, d = .reported file line message := by
  unfold ofReply at hmem
  split at hmem
  · rename_i first more _
    change d ∈ (first :: more).map (ofEntry file) at hmem
    obtain ⟨entry, _, rfl⟩ := List.mem_map.mp hmem
    exact ⟨_, _, rfl⟩
  · cases hmem
  · exact ⟨_, _, List.mem_singleton.mp hmem⟩

theorem ofReply_eq_document_iff {file : Text} {reply : Xml.Reply} {document : Xml.Document} :
    ofReply file reply = .document document ↔ reply.errors = [] ∧ reply.result = .ok document := by
  unfold ofReply
  split <;> simp_all

end FormCheck

theorem exists_eq_reported_of_checkFormBy {parse : List UInt8 → Xml.Reply} {content : List UInt8}
    {file : Text} {d : Diagnostic} (hmem : d ∈ (checkFormBy parse content file).diagnostics) :
    ∃ line message, d = .reported file line message := by
  unfold checkFormBy at hmem
  split at hmem
  · exact ⟨_, _, List.mem_singleton.mp hmem⟩
  · exact FormCheck.exists_eq_reported_of_ofReply hmem

end XmlCheck
