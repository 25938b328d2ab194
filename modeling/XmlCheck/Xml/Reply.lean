import XmlCheck.Xml.Parse

/-!
What a parser answers: a document or the fault that it ended with, and a log of what it had to say
on the way. The two are not tied to each other: a document may come with a log of errors, and a
fault with a log that has none.
-/

namespace XmlCheck.Xml

inductive LogLevel
  | none
  | warning
  | error
  | fatal
  deriving DecidableEq, Repr

def LogLevel.isError : LogLevel → Bool
  | .none | .warning => false
  | .error | .fatal => true

structure LogEntry where
  level : LogLevel
  line : Int
  message : Text
  deriving DecidableEq, Repr

/-- The fault that a parser ended with. It may have no line and no message of its own; it can always
be shown. -/
structure ParseFault where
  line : Option Int
  message : Option Text
  shown : Text
  deriving DecidableEq, Repr

/-- What a fault says: its message, unless that is missing or empty. -/
def ParseFault.text (fault : ParseFault) : Text :=
  match fault.message with
  | some (c :: rest) => c :: rest
  | _ => fault.shown

structure Reply where
  result : Except ParseFault Document
  log : List LogEntry

def Reply.errors (reply : Reply) : List LogEntry :=
  reply.log.filter fun entry => entry.level.isError

def Finding.entry (finding : Finding) : LogEntry :=
  ⟨if finding.problem.isMild then .error else .fatal, finding.line, finding.problem.message⟩

/-- The fault of a document that could not be read: that of its first finding. -/
def Parsed.fault (parsed : Parsed) : ParseFault :=
  match parsed.findings with
  | [] => ⟨some 0, some "Document is not well formed", "Document is not well formed"⟩
  | first :: _ =>
    let message := first.problem.message ++ ", line " ++ Text.ofNat first.line ++ ", column " ++
      Text.ofNat first.column
    ⟨some first.line, some message, message⟩

def Parsed.reply (parsed : Parsed) : Reply where
  result :=
    match parsed.root with
    | some root =>
      if parsed.findings.all fun finding => finding.problem.isMild then .ok ⟨root⟩
      else .error parsed.fault
    | none => .error parsed.fault
  log := parsed.findings.map Finding.entry

theorem Parsed.root_of_reply {parsed : Parsed} {document : Document}
    (hresult : parsed.reply.result = .ok document) : parsed.root = some document.root := by
  unfold reply at hresult
  cases hroot : parsed.root with
  | none => simp [hroot] at hresult
  | some root =>
      simp only [hroot] at hresult
      split at hresult
      · cases hresult
        rfl
      · cases hresult

end XmlCheck.Xml
