import XmlCheck.Xml.Reader.Lexeme

/-!
Attribute values. White space becomes spaces, references become what they stand for. Of a value the
bare form is kept too, which leaves out what declared entities stand for.
-/

namespace XmlCheck.Xml.Reader

/-- A value in both its forms, each with its last character first. -/
structure Gathered where
  value : Text := []
  bare : Text := []

def Gathered.add (g : Gathered) (c : Char) : Gathered :=
  { value := c :: g.value, bare := c :: g.bare }

def entityDepthLimit : Nat := 40

inductive Piece
  | char (c : Char) (rest : Text)
  | code (digits : CodeDigits) (hex : Bool) (rest : Text)
  | name (name rest : Text)
  | noName
  | noSemicolon
  | done

def pieceOf : Text → Piece
  | [] => .done
  | '&' :: '#' :: 'x' :: rest => .code (codeDigits 16 0 0 rest) true rest
  | '&' :: '#' :: rest => .code (codeDigits 10 0 0 rest) false rest
  | '&' :: rest =>
    let isChar (c : Char) : Bool := isNameChar c || c == ':'
    match rest.takeWhile isChar, rest.dropWhile isChar with
    | [], _ => .noName
    | name, ';' :: rest => if isName name then .name name rest else .noName
    | _, _ => .noSemicolon
  | c :: rest => .char c rest

/-- The text that an entity stands for in an attribute value. `opened` names the entities that are
being read. -/
def entityText : (bound : Nat) → (opened : List Text) → (name text : Text) → Reader Text
  | 0, _, _, _ => return []
  | bound + 1, opened, name, text => do
    if (← get).stopped then return []
    match pieceOf text with
    | .done => return []
    | .noName =>
      report .entityNameMissing
      return []
    | .noSemicolon =>
      report .entitySemicolonMissing
      return []
    | .code (.code value width) _ rest =>
      match ← charOfCode value with
      | some c => return c :: (← entityText bound opened name (rest.drop (width + 1)))
      | none => return []
    | .code (.broken _) hex _ =>
      report (if hex then .badHexCode else .badDecimalCode)
      return []
    | .char c rest =>
      if c = '<' then
        report (.lessInEntity name)
        return []
      else
        return (if isSpace c then ' ' else c) :: (← entityText bound opened name rest)
    | .name inner rest =>
      match ← entityMeaning? inner true with
      | none => entityText bound opened name rest
      | some (.char c) => return c :: (← entityText bound opened name rest)
      | some (.entity (.internal value)) =>
        if opened.contains inner then
          reportLast .entityLoop
          return []
        else if entityDepthLimit < opened.length then
          reportLast .entityTooDeep
          return []
        else
          let front ← entityText bound (inner :: opened) inner value
          return front ++ (← entityText bound opened name rest)
      | some (.entity _) => entityText bound opened name rest

/-- How many steps the reading of entities may take at most on one path. -/
def entityBound (s : Progress) : Nat :=
  let sizes := s.entities.map fun e =>
    match e.2 with
    | .internal value => value.length + 1
    | _ => 1
  sizes.foldl (· + ·) (s.left + 2)

/-- The characters of a value up to its closing quote, the last first; none if there is no end. -/
def valueBody (quote : Char) : (bound : Nat) → Gathered → Reader (Option Gathered)
  | 0, _ => return none
  | bound + 1, found => do
    if (← get).stopped then return none
    match ← rest with
    | [] =>
      report .valueOpen
      return none
    | '&' :: '#' :: _ =>
      match ← charReference? with
      | some c => valueBody quote bound (found.add c)
      | none => valueBody quote bound found
    | '&' :: _ =>
      match ← entityName? with
      | none => valueBody quote bound found
      | some name =>
        match ← entityMeaning? name true with
        | some (.char c) => valueBody quote bound (found.add c)
        | some (.entity (.internal value)) =>
          let s ← get
          let text ← entityText (entityBound s) [name] name value
          valueBody quote bound { found with value := text.reverse ++ found.value }
        | _ => valueBody quote bound found
    | '\r' :: '\n' :: _ =>
      skip 2
      valueBody quote bound (found.add ' ')
    | c :: _ =>
      if c = quote then
        skip 1
        return some found
      else
        if c = '<' then report .lessInValue
        else if !isAllowed c then report .badCharInValue
        skip 1
        valueBody quote bound (found.add (if isSpace c then ' ' else c))

/-- The text with single spaces only, and none at the ends. -/
def singleSpaced (text : Text) : Text :=
  Text.join [' '] ((Text.splitOn ' ' text).filter fun part => !part.isEmpty)

/-- A quoted value in both its forms. Where `tokens` holds it is a list of tokens. -/
def attributeValue? (tokens : Bool) : Reader (Option (Text × Text)) := do
  match ← next? with
  | some quote =>
    if quote = '"' ∨ quote = '\x27' then
      skip 1
      match ← valueBody quote ((← get).left + 1) {} with
      | some found =>
        let clean (text : Text) : Text := if tokens then singleSpaced text else text
        return some (clean found.value.reverse, clean found.bare.reverse)
      | none => return none
    else
      report .valueNotQuoted
      return none
  | none =>
    report .valueNotQuoted
    return none

end XmlCheck.Xml.Reader
