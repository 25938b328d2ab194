import XmlCheck.Xml.Encoding
import XmlCheck.Xml.Node
import XmlCheck.Xml.Problem

/-!
The state of the reading of a document: what is left of the text, the place in it, the problems
found so far, the entities declared so far and the elements that are open. A violation does not end
the reading; only a few stop it.
-/

namespace XmlCheck.Xml

inductive EntityKind
  | internal (value : Text)
  | external
  | unparsed
  deriving DecidableEq, Repr

structure DefaultValue where
  element : Text
  key : Text
  value : Text
  bare : Text
  deriving DecidableEq, Repr

/-- An element whose end tag is not yet read. Only a live one becomes part of the tree. -/
structure OpenElement where
  binder : Option Text
  tag : Tag
  startLine : Nat
  scope : Scope
  live : Bool
  /-- What stands in the element, the last first. -/
  children : List Node

structure Progress where
  rest : Text
  left : Nat
  line : Nat := 1
  column : Nat := 1
  /-- The place that problems are given while the text of an entity is read. -/
  shownAt : Option (Nat × Nat) := none
  /-- How much is left where the first broken character stands. -/
  brokenAt : Option Nat := none
  truncated : Bool := false
  /-- The octets of the document while its encoding may still be declared. -/
  octets : Option (List UInt8) := none
  /-- The problems found, the last first. -/
  findings : List Finding := []
  /-- Whether no problem is worse than one of namespaces. -/
  intact : Bool := true
  stopped : Bool := false
  standalone : Bool := false
  hasOuterSubset : Bool := false
  hasParameterReference : Bool := false
  entities : List (Text × EntityKind) := []
  parameters : List (Text × EntityKind) := []
  defaults : List DefaultValue := []
  /-- The attributes whose values are lists of tokens, each with its element. -/
  tokenLists : List (Text × Text) := []
  readEntities : List Text := []
  /-- Whether the text of an entity takes the place of its references. -/
  expands : Bool := false
  openElements : List OpenElement := []
  root : Option Element := none

abbrev Reader := StateM Progress

def findingLimit : Nat := 100

namespace Progress

def withFinding (s : Progress) (problem : Problem) : Progress :=
  if s.stopped then s
  else
    let place := s.shownAt.getD (s.line, s.column)
    let noted := s.findings.length < findingLimit || (s.intact && !problem.isMild)
    { s with
      intact := s.intact && problem.isMild
      findings := if noted then ⟨problem, place.1, place.2⟩ :: s.findings else s.findings }

def step (s : Progress) : Progress :=
  match s.rest with
  | [] => s
  | c :: rest =>
    let s :=
      if s.brokenAt = some s.left then { s with brokenAt := none }.withFinding .badEncodingBytes
      else s
    if c = '\n' then { s with rest, left := s.left - 1, line := s.line + 1, column := 1 }
    else { s with rest, left := s.left - 1, column := s.column + 1 }

def steps : Nat → Progress → Progress
  | 0, s => s
  | n + 1, s => steps n s.step

end Progress

namespace Reader

def report (problem : Problem) : Reader Unit :=
  modify fun s => s.withFinding problem

/-- Ends the reading: nothing is noted from here on. -/
def stop : Reader Unit :=
  modify fun s => { s with stopped := true }

def reportLast (problem : Problem) : Reader Unit := do
  report problem
  stop

def rest : Reader Text := do
  return (← get).rest

def next? : Reader (Option Char) := do
  return (← get).rest.head?

def startsWith (word : Text) : Reader Bool := do
  return word.isPrefixOf (← get).rest

def skip (n : Nat) : Reader Unit :=
  modify fun s => s.steps n

def run (p : Char → Bool) : Reader Text := do
  let found := (← get).rest.takeWhile p
  skip found.length
  return found

def skipSpaces : Reader Bool := do
  return !(← run isSpace).isEmpty

def accept (word : Text) : Reader Bool := do
  if ← startsWith word then
    skip word.length
    return true
  else
    return false

def requireSpaces (problem : Problem) : Reader Unit := do
  unless ← skipSpaces do report problem

def plainName? : Reader (Option Text) := do
  match ← next? with
  | some c => if isNameStart c then return some (← run isNameChar) else return none
  | none => return none

def fullName? : Reader (Option Text) := do
  match ← next? with
  | some c =>
    if isNameStart c || c == ':' then
      return some (← run fun c => isNameChar c || c == ':')
    else return none
  | none => return none

/-- Reads a name with more colons than a name may have, from its start. -/
def badQName? (start : Progress) : Reader (Option (Option Text × Text)) := do
  set start
  match ← fullName? with
  | some name =>
    report (.badQName name)
    return some (none, name)
  | none => return none

def qName? : Reader (Option (Option Text × Text)) := do
  let start ← get
  match ← plainName? with
  | none => if (← next?) = some ':' then badQName? start else return none
  | some first =>
    if (← next?) = some ':' then
      skip 1
      match ← plainName? with
      | some second =>
        if (← next?) = some ':' then badQName? start else return some (some first, second)
      | none => badQName? start
    else return some (none, first)

end Reader

end XmlCheck.Xml
