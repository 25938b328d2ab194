import XmlCheck.Text.Blank

/-!
Texts with marks for their style: a mark is a word in square brackets that starts with a small
letter, a hash, a slash or an at sign. Backslashes before a mark halve, and an odd one takes the
mark for text. `escape` puts backslashes so that a text has no marks; it looks at one text at a time
and so does not see a mark that begins in one text and ends in the next.
-/

namespace XmlCheck.Console

inductive Style
  | title
  | good
  | caution
  | bad
  deriving DecidableEq, Repr

def Style.word : Style → Text
  | title => "bold green"
  | good => "green"
  | caution => "yellow"
  | bad => "red"

def Style.ofWord? (word : Text) : Option Style :=
  [title, good, caution, bad].find? fun style => style.word = word

/-- What a marked text is read as: single characters, and marks with the backslashes before them. -/
inductive Token
  | char (c : Char)
  | mark (backslashes : Nat) (word : Text)
  deriving DecidableEq, Repr

def startsMark (c : Char) : Bool :=
  c.isLower || c == '#' || c == '/' || c == '@'

def markAt? (text : Text) : Option (Text × Text) :=
  match text with
  | '[' :: c :: rest =>
    if startsMark c then
      match rest.dropWhile fun d => d != ']' && d != '[' with
      | ']' :: after => some (c :: rest.takeWhile fun d => d != ']' && d != '[', after)
      | _ => none
    else none
  | _ => none

theorem length_dropWhile_le {α : Type} (p : α → Bool) (l : List α) :
    (l.dropWhile p).length ≤ l.length := by
  induction l with
  | nil => simp
  | cons a l ih =>
    by_cases h : p a
    · simp only [List.dropWhile_cons, h, if_true, List.length_cons]
      omega
    · simp [h]

theorem length_of_markAt? {text word rest : Text} (h : markAt? text = some (word, rest)) :
    rest.length + 2 < text.length := by
  unfold markAt? at h
  split at h
  · rename_i c tail
    split at h
    · split at h
      · rename_i after hafter
        have hle := length_dropWhile_le (fun d => d != ']' && d != '[') tail
        rw [hafter] at hle
        simp only [Option.some.injEq, Prod.mk.injEq] at h
        obtain ⟨-, rfl⟩ := h
        simp only [List.length_cons] at *
        omega
      · simp at h
    · simp at h
  · simp at h

/-- Reads a text. Backslashes that no mark follows are characters. -/
def tokens : Text → List Token
  | [] => []
  | c :: rest =>
    match h : markAt? ((c :: rest).dropWhile (· == '\\')) with
    | some (word, after) =>
      .mark ((c :: rest).takeWhile (· == '\\')).length word :: tokens after
    | none =>
      if c == '\\' then
        ((c :: rest).takeWhile (· == '\\')).map .char ++ tokens (rest.dropWhile (· == '\\'))
      else .char c :: tokens rest
  termination_by text => text.length
  decreasing_by
    · have hmark := length_of_markAt? h
      have hle := length_dropWhile_le (· == '\\') (c :: rest)
      simp only [List.length_cons] at *
      omega
    · have hle := length_dropWhile_le (· == '\\') rest
      simp only [List.length_cons]
      omega
    · simp

def bracketed (word : Text) : Text :=
  '[' :: word ++ [']']

def Token.escaped : Token → Text
  | char c => [c]
  | mark backslashes word => List.replicate (2 * backslashes + 1) '\\' ++ bracketed word

/-- Doubles a single backslash at the end of a text. -/
def closedOff (text : Text) : Text :=
  match text.reverse with
  | '\\' :: '\\' :: _ => text
  | '\\' :: _ => text ++ ['\\']
  | _ => text

def escape (text : Text) : Text :=
  closedOff ((tokens text).flatMap Token.escaped)

inductive Stretch
  | plain (content : Text)
  | mark (word : Text) (position : Nat)
  deriving DecidableEq, Repr

def markStretches (backslashes : Nat) (word : Text) (position : Nat) : List Stretch :=
  let kept := List.replicate (backslashes / 2) '\\'
  (if kept.isEmpty then [] else [.plain kept]) ++
    if backslashes % 2 = 1 then [.plain (bracketed word)]
    else [.mark word (position + backslashes)]

/-- Gathers the characters between marks; `content` holds those since the last mark, backwards. -/
def gather : (content : Text) → (position : Nat) → List Token → List Stretch
  | content, _, [] => if content.isEmpty then [] else [.plain content.reverse]
  | content, position, .char c :: rest => gather (c :: content) (position + 1) rest
  | content, position, .mark backslashes word :: rest =>
    (if content.isEmpty then [] else [.plain content.reverse]) ++
      markStretches backslashes word position ++
      gather [] (position + backslashes + word.length + 2) rest

def stretches (text : Text) : List Stretch :=
  gather [] 0 (tokens text)

/-- A mark that ends a style which was not begun. -/
structure MarkupFault where
  word : Text
  position : Nat
  deriving DecidableEq, Repr

def MarkupFault.message (fault : MarkupFault) : Text :=
  let place := ("closing tag '" : Text) ++ bracketed fault.word ++ "' at position " ++
    Text.ofNat fault.position
  if fault.word = ['/'] then place ++ " has nothing to close"
  else place ++ " doesn't match any open tag"

/-- The word of a mark without its parameters. -/
def markName (word : Text) : Text :=
  word.takeWhile (· != '=')

/-- The word of a mark that begins a style, as it is kept: known names as they are, others without
blanks around them and in lower case. -/
def settledWord (word : Text) : Text :=
  let name := markName word
  (if (Style.ofWord? name).isSome then name else Text.lower (Text.trim name)) ++
    word.drop name.length

abbrev Styled := List (Char × Option Style)

/-- The style of text where some marks are open, the last one in front. -/
def styleOf (openWords : List Text) : Option Style :=
  openWords.findSome? Style.ofWord?

def close? (openWords : List Text) (name : Text) : Option (List Text) :=
  if openWords.any (markName · == name) then some (openWords.eraseP (markName · == name)) else none

/-- Gives the characters of the stretches their styles; `display` turns the text of a stretch into
what is shown of it. -/
def styled (display : Text → Text) :
    (openWords : List Text) → List Stretch → Except MarkupFault Styled
  | _, [] => .ok []
  | openWords, .plain content :: rest =>
    (styled display openWords rest).map fun more =>
      (display content).map (fun c => (c, styleOf openWords)) ++ more
  | openWords, .mark word position :: rest =>
    match markName word with
    | '/' :: ended =>
      match Text.trim ended, openWords with
      | [], [] => .error ⟨['/'], position⟩
      | [], _ :: openWords => styled display openWords rest
      | name, openWords =>
        match close? openWords (settledWord name) with
        | some openWords => styled display openWords rest
        | none => .error ⟨word, position⟩
    | _ => styled display (settledWord word :: openWords) rest

end XmlCheck.Console
