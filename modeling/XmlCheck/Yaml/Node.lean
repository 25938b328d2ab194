import XmlCheck.Yaml.Layout
import XmlCheck.Yaml.Tag

/-!
From tokens to the tree of a document. What is left out counts as an empty scalar. An alias stands
for the node that has the name as its anchor.
-/

namespace XmlCheck.Yaml

/-- A node of a document. The entries of a mapping may have been joined with those of others. An
alias for a collection that it stands in itself is kept as such. -/
inductive Node
  | scalar (tag : Tag) (text : Text)
  | sequence (tag : Tag) (items : List Node)
  | mapping (tag : Tag) (isJoined : Bool) (entries : List (Node × Node))
  | enclosing

namespace Node

def absent : Node :=
  .scalar (.ofPlain []) []

structure Reader where
  tokens : List Token
  anchors : List (Text × Node) := []
  handles : List (Text × Text) := []

abbrev Reading := StateT Reader (Except YamlFault)

def peek : Reading (Option Token) :=
  return (← get).tokens.head?

def pass : Reading Unit :=
  modify fun r => { r with tokens := r.tokens.drop 1 }

/-- Whether one of some tokens comes next, or no token at all. -/
def isNext (tokens : List Token) : Reading Bool := do
  match ← peek with
  | some token => return tokens.contains token
  | none => return false

def passIf (token : Token) : Reading Bool := do
  let found ← isNext [token]
  if found then pass
  return found

structure Properties where
  anchor : Option Text := none
  tag : Option WrittenTag := none
  deriving DecidableEq, Repr

def anchor? : Reading (Option Text) := do
  match ← peek with
  | some (.anchor name) => do
    pass
    return some name
  | _ => return none

def tag? : Reading (Option WrittenTag) := do
  match ← peek with
  | some (.tag tag) => do
    pass
    return some tag
  | _ => return none

def properties : Reading Properties := do
  match ← anchor? with
  | some anchor => return ⟨some anchor, ← tag?⟩
  | none =>
    match ← tag? with
    | some tag => return ⟨← anchor?, some tag⟩
    | none => return {}

def tagName? (tag : WrittenTag) : Reading (Option Text) := do
  match tag.handle with
  | none => return if tag.rest == ['!'] then none else some tag.rest
  | some handle =>
    match (← get).handles.lookup handle with
    | some beginning => return some (beginning ++ tag.rest)
    | none => throw (.unknownHandle handle)

def name (anchor : Option Text) (node : Node) : Reading Unit :=
  match anchor with
  | some anchor => modify fun r => { r with anchors := (anchor, node) :: r.anchors }
  | none => return ()

def Properties.absent (properties : Properties) (tag : Option Text) : Reading Node :=
  if properties.anchor.isSome || properties.tag.isSome then
    return .scalar (Tag.ofScalar tag true []) []
  else throw .badNode

mutual

/-- Reads a node. In a block there may be block collections, and below a key also a sequence that is
not indented. -/
def node (inBlock notIndented : Bool) : (bound : Nat) → Reading Node
  | 0 => throw .badNode
  | bound + 1 => do
    match ← peek with
    | some (.alias name) =>
      pass
      match (← get).anchors.lookup name with
      | some node => return node
      | none => throw (.unknownAnchor name)
    | _ =>
      let properties ← properties
      let tag ← match properties.tag with
        | some tag => tagName? tag
        | none => pure none
      name properties.anchor .enclosing
      let node ← content inBlock notIndented properties tag bound
      name properties.anchor node
      return node

def content (inBlock notIndented : Bool) (properties : Properties) (tag : Option Text) :
    (bound : Nat) → Reading Node
  | 0 => throw .badNode
  | bound + 1 => do
    match ← peek with
    | some (.scalar text isPlain) =>
      pass
      return .scalar (Tag.ofScalar tag (isPlain || properties.tag.isSome) text) text
    | some .flowSequence =>
      pass
      return .sequence (Tag.ofSequence tag) (← flowItems true bound)
    | some .flowMapping =>
      pass
      return .mapping (Tag.ofMapping tag) false (← flowEntries true bound)
    | some .blockEntry =>
      if inBlock && notIndented then return .sequence (Tag.ofSequence tag) (← looseItems bound)
      else properties.absent tag
    | some .blockSequence =>
      if inBlock then
        pass
        return .sequence (Tag.ofSequence tag) (← blockItems bound)
      else properties.absent tag
    | some .blockMapping =>
      if inBlock then
        pass
        return .mapping (Tag.ofMapping tag) false (← blockEntries bound)
      else properties.absent tag
    | _ => properties.absent tag

def nodeUnless (ends : List Token) (inBlock notIndented : Bool) : (bound : Nat) → Reading Node
  | 0 => throw .badNode
  | bound + 1 => do
    if ← isNext ends then return absent else node inBlock notIndented bound

def blockItems : (bound : Nat) → Reading (List Node)
  | 0 => throw .badNode
  | bound + 1 => do
    if ← passIf .blockEntry then
      let item ← nodeUnless [.blockEntry, .blockEnd] true false bound
      return item :: (← blockItems bound)
    else if ← passIf .blockEnd then return []
    else throw .openCollection

/-- Reads the items of a sequence that is not indented. -/
def looseItems : (bound : Nat) → Reading (List Node)
  | 0 => throw .badNode
  | bound + 1 => do
    if ← passIf .blockEntry then
      let item ← nodeUnless [.blockEntry, .key, .value, .blockEnd] true false bound
      return item :: (← looseItems bound)
    else return []

def blockValue : (bound : Nat) → Reading Node
  | 0 => throw .badNode
  | bound + 1 => do
    if ← passIf .value then nodeUnless [.key, .value, .blockEnd] true true bound
    else return absent

def blockEntries : (bound : Nat) → Reading (List (Node × Node))
  | 0 => throw .badNode
  | bound + 1 => do
    if ← passIf .key then
      let key ← nodeUnless [.key, .value, .blockEnd] true true bound
      let value ← blockValue bound
      return (key, value) :: (← blockEntries bound)
    else if ← isNext [.value] then
      let value ← blockValue bound
      return (absent, value) :: (← blockEntries bound)
    else if ← passIf .blockEnd then return []
    else throw .openCollection

def flowValue (ending : Token) : (bound : Nat) → Reading Node
  | 0 => throw .badNode
  | bound + 1 => do
    if ← passIf .value then nodeUnless [.flowEntry, ending] false false bound
    else return absent

/-- Reads the items of a sequence in brackets. A key among them begins a mapping of one entry. -/
def flowItems (isFirst : Bool) : (bound : Nat) → Reading (List Node)
  | 0 => throw .badNode
  | bound + 1 => do
    if ← passIf .flowSequenceEnd then return []
    if !isFirst then
      if !(← passIf .flowEntry) then throw .openCollection
    if ← passIf .flowSequenceEnd then return []
    let item ←
      if ← passIf .key then
        let key ← nodeUnless [.value, .flowEntry, .flowSequenceEnd] false false bound
        let value ← flowValue .flowSequenceEnd bound
        pure (Node.mapping .mapping false [(key, value)])
      else node false false bound
    return item :: (← flowItems false bound)

def flowEntries (isFirst : Bool) : (bound : Nat) → Reading (List (Node × Node))
  | 0 => throw .badNode
  | bound + 1 => do
    if ← passIf .flowMappingEnd then return []
    if !isFirst then
      if !(← passIf .flowEntry) then throw .openCollection
    if ← passIf .flowMappingEnd then return []
    let entry ←
      if ← passIf .key then
        let key ← nodeUnless [.value, .flowEntry, .flowMappingEnd] false false bound
        pure (key, ← flowValue .flowMappingEnd bound)
      else if ← isNext [.value] then pure (absent, ← flowValue .flowMappingEnd bound)
      else pure (← node false false bound, absent)
    return entry :: (← flowEntries false bound)

end

def usualHandles : List (Text × Text) :=
  [("!".toList, "!".toList), ("!!".toList, Tag.standardTags)]

def directives : (bound : Nat) → (hasVersion : Bool) → (handles : List (Text × Text)) →
    Reading (List (Text × Text))
  | 0, _, _ => throw .badDirective
  | bound + 1, hasVersion, handles => do
    match ← peek with
    | some (.directive directive) =>
      pass
      match directive with
      | .version major =>
        if hasVersion || major != 1 then throw .badDirective
        directives bound true handles
      | .handle handle beginning =>
        if (handles.lookup handle).isSome then throw .badDirective
        directives bound hasVersion ((handle, beginning) :: handles)
      | .other => directives bound hasVersion handles
    | _ => return handles

def markedDocument (bound : Nat) : Reading Node := do
  let handles ← directives bound false []
  modify fun r => { r with handles := handles ++ usualHandles }
  if !(← passIf .documentStart) then throw .badNode
  match ← peek with
  | none | some .documentStart | some .documentEnd | some (.directive _) => return absent
  | _ => node true false bound

def document (bound : Nat) : Reading (Option Node) := do
  let document ←
    match ← peek with
    | none => return none
    | some .documentStart | some (.directive _) => markedDocument bound
    | _ => do
      modify fun r => { r with handles := usualHandles }
      node true false bound
  let _ ← passIf .documentEnd
  match ← peek with
  | none => return some document
  | some _ => throw .severalDocuments

def ofTokens (tokens : List Token) : Except YamlFault (Option Node) :=
  ((document (8 * tokens.length + 8)).run { tokens }).map (·.1)

end Node

end XmlCheck.Yaml
