import XmlCheck.Xml.Reader.Tags

/-!
The content of elements. The text of an entity is read as content once, at its first reference; the
reference itself stays in the tree, unless the text is to take its place.
-/

namespace XmlCheck.Xml.Reader

/-- Character data up to markup; the end mark of a character data section may not occur. -/
def characters : (bound : Nat) → (found : Text) → Reader Text
  | 0, found => return found
  | bound + 1, found => do
    let stopHere (text : Text) : Bool :=
      match text with
      | '<' :: _ | '&' :: _ => true
      | ']' :: ']' :: '>' :: _ => true
      | _ => false
    let part := allowedUntil stopHere (← rest)
    skip part.length
    match ← rest with
    | ']' :: _ =>
      report .cdataEndInContent
      skip 1
      characters bound (found ++ part ++ [']'])
    | _ => return found ++ part

def text : Reader Unit := do
  let found ← characters ((← get).left + 1) []
  addText (withLineFeeds found)
  if let c :: _ ← rest then
    if !isAllowed c then
      if c = '\x00' then report .nullChar
      report (.badChar c.toNat)
      skip 1

/-- Closes the elements that are open above a number of others, and takes what stands directly in
the next one. -/
def unwound (floor : Nat) : (bound : Nat) → Progress → Progress
  | 0, s => s
  | bound + 1, s => if floor < s.openElements.length then unwound floor bound (closed s) else s

def withNodes (nodes : List Node) (s : Progress) : Progress :=
  match s.openElements with
  | e :: rest =>
    { s with openElements := { e with children := nodes.reverse ++ e.children } :: rest }
  | [] => s

/-- The place that holds the content of an entity while it is read. -/
def entityPlace (s : Progress) : OpenElement :=
  { binder := none
    tag := { name := ⟨none, []⟩, namespaces := [], attributes := [], line := s.line }
    startLine := s.line
    scope := outerScope s
    live := s.intact
    children := [] }

/-- Notes that the data end within an element, unless the form is violated already. -/
def checkClosed (floor : Nat) : Reader Unit := do
  let s ← get
  if floor < s.openElements.length ∧ s.intact then
    if let e :: _ := s.openElements then
      report (.dataEnds e.tag.name.localName e.startLine)

/-- Content up to the end of the text, or to the end tag of what is open at the start. `floor`
counts the elements that were open, and `opened` names the entities that are being read. -/
def content : (bound : Nat) → (floor : Nat) → (opened : List Text) → Reader Unit
  | 0, _, _ => return
  | bound + 1, floor, opened => do
    let s ← get
    if s.stopped || s.openElements.isEmpty then return
    match s.rest with
    | [] => checkClosed floor
    | '<' :: '?' :: _ =>
      instruction
      addNode .instruction
      content bound floor opened
    | '<' :: '/' :: _ =>
      if s.openElements.length ≤ floor then return
      endElement
      content bound floor opened
    | '<' :: _ =>
      if ← startsWith "<![CDATA[" then
        if let some data ← characterData? then addCharacterData data
      else if ← startsWith "<!--" then
        comment
        addNode .comment
      else startElement
      content bound floor opened
    | '&' :: '#' :: _ =>
      if let some c ← charReference? then addText [c]
      content bound floor opened
    | '&' :: _ =>
      if let some name ← entityName? then
        match ← entityMeaning? name false with
        | none => addNode (.reference name)
        | some (.char c) => addText [c]
        | some (.entity (.internal value)) =>
          let s ← get
          if s.intact then
            if opened.contains name then reportLast .entityLoop
            else if s.expands || !s.readEntities.contains name then
              let place := entityPlace s
              set { s with
                rest := value
                left := value.length
                line := 1
                column := 1
                brokenAt := none
                shownAt := some (s.shownAt.getD (s.line, s.column))
                readEntities := name :: s.readEntities
                openElements := place :: s.openElements }
              let inside := s.openElements.length + 1
              content bound inside (name :: opened)
              let t ← get
              if !t.rest.isEmpty && t.intact then report .notBalanced
              modify fun t =>
                let t := unwound inside t.openElements.length t
                let nodes := match t.openElements with
                  | e :: _ => e.children.reverse
                  | [] => []
                let t :=
                  { t with
                    rest := s.rest
                    left := s.left
                    line := s.line
                    column := s.column
                    brokenAt := s.brokenAt
                    shownAt := s.shownAt
                    openElements := s.openElements }
                if s.expands && t.intact then withNodes nodes t else t
            if !s.expands then addNode (.reference name)
        | some (.entity _) => addNode (.reference name)
      content bound floor opened
    | _ =>
      text
      content bound floor opened

end XmlCheck.Xml.Reader
