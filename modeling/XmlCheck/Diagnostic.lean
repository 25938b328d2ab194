import XmlCheck.Text.Blank
import XmlCheck.Text.Quoted

/-!
Diagnostics: one problem of one file. A message may carry a line label such as `Line 3: `, and an
annotation is one line of text whose message has its percent signs and line ends encoded.
-/

namespace XmlCheck

inductive Severity
  | error
  | warning
  deriving DecidableEq, Repr

def Severity.name : Severity → Text
  | .error => "error"
  | .warning => "warning"

def Severity.ofName? (name : Text) : Option Severity :=
  [Severity.error, .warning].find? fun severity => severity.name = name

/-- A single problem found in one file. Line 0 is the file as a whole. -/
structure Diagnostic where
  file : Text
  line : Nat
  message : Text
  severity : Severity
  deriving DecidableEq, Repr

namespace Message

def isLineEnd (c : Char) : Bool :=
  c == '\r' || c == '\n'

def dropLineEnds (message : Text) : Text :=
  Text.dropWhileEnd isLineEnd message

def afterLabel? (message : Text) : Option Text :=
  match Text.after? ("Line " : Text) message with
  | none => none
  | some rest =>
    match rest.takeWhile Text.isDecimalDigit, rest.dropWhile Text.isDecimalDigit with
    | _ :: _, ':' :: c :: body => if Text.isBlank c then some body else none
    | _, _ => none

def dropLabel (message : Text) : Text :=
  (afterLabel? message).getD message

/-- Takes off line labels, `bound` of them at most. -/
def dropLabelsFrom : (bound : Nat) → Text → Text
  | 0, message => message
  | bound + 1, message =>
    match afterLabel? message with
    | some rest => dropLabelsFrom bound rest
    | none => message

def dropLabels (message : Text) : Text :=
  dropLabelsFrom message.length message

/-- A line number that may be missing or negative, as a count from zero. -/
def lineNumber (line : Option Int) : Nat :=
  (line.getD 0).toNat

def label (line : Nat) : Text :=
  ("Line " : Text) ++ Text.ofNat line ++ ": "

/-- The message with exactly one line label, that of `line`, and no line end after it. -/
def withLabel (line : Option Int) (message : Text) : Text :=
  label (lineNumber line) ++ dropLabels (dropLineEnds message)

def encodeChar (c : Char) : Text :=
  if c = '%' then "%25" else if c = '\r' then "%0D" else if c = '\n' then "%0A" else [c]

def encode (message : Text) : Text :=
  message.flatMap encodeChar

def decode : Text → Text
  | '%' :: '2' :: '5' :: rest => '%' :: decode rest
  | '%' :: '0' :: 'D' :: rest => '\r' :: decode rest
  | '%' :: '0' :: 'A' :: rest => '\n' :: decode rest
  | c :: rest => c :: decode rest
  | [] => []

end Message

namespace Diagnostic

/-- A diagnostic whose line is a count and whose message has no line end after it. -/
def make (file message : Text) (line : Option Int) (severity : Severity) : Diagnostic :=
  ⟨file, Message.lineNumber line, Message.dropLineEnds message, severity⟩

/-- A diagnostic of what a library reports, with a line that may be anything: its message gets the
label of the line. -/
def reported (file : Text) (line : Option Int) (message : Text) : Diagnostic :=
  make file (Message.withLabel line message) line .error

def labelled (file : Text) (line : Nat) (message : Text) : Diagnostic :=
  reported file (some line) message

/-- The one error of a file that could not be taken through all stages. -/
def couldNotProcess (file source error : Text) : Diagnostic :=
  make file (("Could not process " : Text) ++ source ++ ". Error: " ++ error) (some 0) .error

/-- The annotation of a diagnostic: its severity, file and line, and its encoded message without
line label, ended by an encoded line end. -/
def annotation (d : Diagnostic) : Text :=
  ("::" : Text) ++ d.severity.name ++ " file=" ++ d.file ++ ",line=" ++ Text.ofNat d.line ++
    ",col=0::" ++ Message.encode (Message.dropLabel d.message ++ ['\n'])

end Diagnostic

example : Message.withLabel (some 7) "Line 3: Line 4: x\n".toList = "Line 7: x".toList := by
  decide

end XmlCheck
