import XmlCheck.Console.Markup
import XmlCheck.Text.Width

/-!
Lines on a terminal: codes for pictures become the pictures, some control characters are dropped,
tabs are filled up, and styles are written as escape sequences if the terminal has colours.
-/

namespace XmlCheck.Console

/-- The pictures that names stand for. -/
abbrev Pictures := Text → Option Text

def Pictures.ofTable (table : List (Text × Text)) : Pictures :=
  fun name => table.lookup (Text.lower name)

def Pictures.usual : Pictures :=
  .ofTable [("smile".toList, ['😄']), ("warning".toList, ['⚠']), ("x".toList, ['❌'])]

/-- The ends of a code that choose how its picture is drawn. -/
def variants : List (Text × Text) :=
  [("-text".toList, ['\uFE0E']), ("-emoji".toList, ['\uFE0F'])]

def before? (ending text : Text) : Option Text :=
  (Text.after? ending.reverse text.reverse).map List.reverse

def picture? (pictures : Pictures) (code : Text) : Option Text :=
  let variant? := variants.findSome? fun v => (before? v.1 code).map fun name => (name, v.2)
  let (name, variant) := variant?.getD (code, [])
  (pictures name).map fun picture => picture ++ variant

/-- Puts pictures for codes between colons. `pending` holds what stands since a colon that may begin
a code, backwards; a code has no white space, and a colon that ends one code begins no other. -/
def withPictures (pictures : Pictures) : (pending : Option Text) → Text → Text
  | none, [] => []
  | some code, [] => ':' :: code.reverse
  | none, c :: rest =>
    if c = ':' then withPictures pictures (some []) rest
    else c :: withPictures pictures none rest
  | some code, c :: rest =>
    if c = ':' then
      (picture? pictures code.reverse).getD (':' :: code.reverse ++ [':']) ++
        withPictures pictures none rest
    else if Text.isBlank c then ':' :: code.reverse ++ c :: withPictures pictures none rest
    else withPictures pictures (some (c :: code)) rest

/-- Whether a terminal is not sent a character: bell, backspace, vertical tab, form feed and
carriage return. -/
def isDropped (c : Char) : Bool :=
  [7, 8, 11, 12, 13].contains c.toNat

/-- A text with the backslash taken from brackets that belong to no mark. -/
def withoutGuards : Text → Text
  | '\\' :: '[' :: rest => '[' :: withoutGuards rest
  | c :: rest => c :: withoutGuards rest
  | [] => []

def display (pictures : Pictures) (content : Text) : Text :=
  (withPictures pictures none (withoutGuards content)).filter fun c => !isDropped c

def tabWidth : Nat := 8

abbrev Pieces := List (Option Style × Text)

def consPiece (style : Option Style) (content : Text) : Pieces → Pieces
  | (other, more) :: rest =>
    if style = other then (style, content ++ more) :: rest
    else (style, content) :: (other, more) :: rest
  | [] => [(style, content)]

/-- The pieces of a line from a column on. A tab is filled up to the next stop, and what follows it
is a piece of its own. -/
def pieces : (column : Nat) → Styled → Pieces
  | _, [] => []
  | column, (c, style) :: rest =>
    if c = '\t' then
      let filled := tabWidth - column % tabWidth
      (style, List.replicate filled ' ') :: pieces (column + filled) rest
    else consPiece style [c] (pieces (column + Text.charWidth c) rest)

def Style.code : Style → Text
  | title => "1;32"
  | good => "32"
  | caution => "33"
  | bad => "31"

def writtenPiece (inColour : Bool) : Option Style × Text → Text
  | (some style, content) =>
    if inColour then ("\x1b[" : Text) ++ style.code ++ "m" ++ content ++ "\x1b[0m" else content
  | (none, content) => content

def writtenLine (inColour : Bool) (line : Styled) : Text :=
  (pieces 0 line).flatMap (writtenPiece inColour)

def linesOf : Styled → List Styled
  | [] => [[]]
  | (c, style) :: rest =>
    match linesOf rest with
    | [] => [[(c, style)]]
    | line :: lines =>
      if c = '\n' then [] :: line :: lines else ((c, style) :: line) :: lines

def print (pictures : Pictures) (inColour : Bool) (text : Text) : Except MarkupFault Text :=
  (styled (display pictures) [] (stretches text)).map fun row =>
    Text.join ['\n'] ((linesOf row).map (writtenLine inColour)) ++ ['\n']

end XmlCheck.Console
