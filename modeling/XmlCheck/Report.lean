import XmlCheck.Console.Screen
import XmlCheck.Outcome

/-!
Reports on a batch: it begins, each outcome is told, and at the end the counts. One reporter writes
an annotation for each diagnostic; the other one writes blocks of lines for a reader.
-/

namespace XmlCheck

open Console

inductive ReportEvent
  | start
  | outcome (outcome : Outcome)
  | finish (summary : Summary)
  deriving DecidableEq, Repr

inductive Reporter
  | silent
  | annotations
  | console (inColour : Bool) (pictures : Console.Pictures := .usual)

structure Written where
  text : Text := []
  fault : Option MarkupFault := none
  deriving DecidableEq, Repr

namespace Written

def andThen (first second : Written) : Written :=
  match first.fault with
  | some _ => first
  | none => { second with text := first.text ++ second.text }

theorem andThen_of_fault {first : Written} (hfault : first.fault ≠ none) (second : Written) :
    first.andThen second = first := by
  unfold andThen
  split
  · rfl
  · contradiction

theorem andThen_of_fault_eq_none {first : Written} (hfault : first.fault = none)
    (second : Written) :
    first.andThen second = { second with text := first.text ++ second.text } := by
  simp only [andThen, hfault]

theorem andThen_assoc (first second third : Written) :
    (first.andThen second).andThen third = first.andThen (second.andThen third) := by
  cases hfirst : first.fault with
  | some fault =>
      have hne : first.fault ≠ none := hfirst ▸ Option.some_ne_none fault
      rw [andThen_of_fault hne, andThen_of_fault hne, andThen_of_fault hne]
  | none =>
      rw [andThen_of_fault_eq_none hfirst, andThen_of_fault_eq_none hfirst]
      unfold andThen
      cases hsecond : second.fault <;> simp [hsecond]

end Written

namespace ConsoleReport

def title : Text := "XML Validator"

def marked (style : Style) (content : Text) : Text :=
  bracketed style.word ++ content ++ bracketed ('/' :: style.word)

def head : List Text :=
  [marked .title (escape title), marked .good (List.replicate title.length '='), []]

def blockLabel (label : Text) : Text :=
  (" [" : Text) ++ label ++ "] "

/-- A block of lines, the later ones indented as far as the first one's label, and an empty line. -/
def block (label : Text) (style : Style) (first : Text) (more : List Text) : List Text :=
  let start := blockLabel label
  marked style (escape start ++ escape first) ::
    more.map (fun line => marked style (List.replicate start.length ' ' ++ escape line)) ++ [[]]

def opening (outcome : Outcome) : List Text :=
  match outcome.schema with
  | some reference =>
    if reference.displayPath.isEmpty then []
    else
      [(" Validating " : Text) ++ escape outcome.file ++ " against " ++
        escape reference.displayPath ++ "...", []]
  | none => []

def warningBlock (outcome : Outcome) : List Text :=
  match outcome.warnings.map Diagnostic.message with
  | [] => []
  | first :: more => block "WARNING" .caution first more

def errorBlock (outcome : Outcome) : List Text :=
  match outcome.errors.map Diagnostic.message with
  | [] => []
  | messages => block "ERROR" .bad "Invalid XML. Errors:" messages

def goodBlock (outcome : Outcome) : List Text :=
  if outcome.errors.isEmpty && outcome.warnings.isEmpty && outcome.isValid then
    block "OK" .good "XML is valid." []
  else []

def lines : ReportEvent → List Text
  | .start => head
  | .outcome o => opening o ++ warningBlock o ++ errorBlock o ++ goodBlock o
  | .finish s => [escape s.text]

def printAll (pictures : Pictures) (inColour : Bool) : List Text → Written
  | [] => {}
  | line :: lines =>
    match print pictures inColour line with
    | .ok text => ({ text } : Written).andThen (printAll pictures inColour lines)
    | .error fault => { fault := some fault }

end ConsoleReport

namespace AnnotationReport

def lines : ReportEvent → List Text
  | .start => []
  | .outcome o => o.diagnostics.map Diagnostic.annotation
  | .finish s => [s.text]

def text (event : ReportEvent) : Text :=
  (lines event).flatMap fun line => line ++ ['\n']

end AnnotationReport

namespace Reporter

def write (reporter : Reporter) (event : ReportEvent) : Written :=
  match reporter with
  | silent => {}
  | annotations => { text := AnnotationReport.text event }
  | console inColour pictures =>
    ConsoleReport.printAll pictures inColour (ConsoleReport.lines event)

def writeAll (reporter : Reporter) : List ReportEvent → Written
  | [] => {}
  | event :: events => (reporter.write event).andThen (writeAll reporter events)

end Reporter

end XmlCheck
