import XmlCheck.Text.Basic

/-!
References to resources: an absolute one has a scheme; both kinds have an optional authority, a path
and optional query and fragment parts. Only the form is checked.
-/

namespace XmlCheck.Uri

def isUnreserved (c : Char) : Bool :=
  c.isAlphanum || c == '-' || c == '.' || c == '_' || c == '~'

def isDelimiter (c : Char) : Bool :=
  List.contains ['!', '$', '&', '\x27', '(', ')', '*', '+', ',', ';', '='] c

/-- Whether a text consists of characters of a class and of percent codes. -/
def consistsOf (p : Char → Bool) : Text → Bool
  | [] => true
  | '%' :: a :: b :: rest => a.isHexDigit && b.isHexDigit && consistsOf p rest
  | c :: rest => p c && consistsOf p rest

def isSegmentChar (c : Char) : Bool :=
  isUnreserved c || isDelimiter c || c == ':' || c == '@'

def isPath (text : Text) : Bool :=
  consistsOf (fun c => isSegmentChar c || c == '/') text

def isTail (text : Text) : Bool :=
  consistsOf (fun c => isSegmentChar c || c == '/' || c == '?') text

/-- Whether a text is a host and perhaps a number after a colon, which may be empty. -/
def isHost (text : Text) : Bool :=
  match text with
  | '[' :: rest =>
    match rest.dropWhile (· != ']') with
    | [] => false
    | _ :: [] => true
    | _ :: ':' :: number => number.all Char.isDigit
    | _ => false
  | _ =>
    consistsOf (fun c => isUnreserved c || isDelimiter c) (text.takeWhile (· != ':')) &&
      ((text.dropWhile (· != ':')).drop 1).all Char.isDigit

def isAuthority (text : Text) : Bool :=
  let user := text.takeWhile (· != '@')
  if user.length < text.length then
    consistsOf (fun c => isUnreserved c || isDelimiter c || c == ':') user &&
      isHost (text.drop (user.length + 1))
  else isHost text

/-- Whether a text is an authority and a path after two slashes, or a path alone. -/
def isHierarchy (text : Text) : Bool :=
  match text with
  | '/' :: '/' :: rest =>
    isAuthority (rest.takeWhile (· != '/')) && isPath (rest.dropWhile (· != '/'))
  | _ => isPath text

/-- Whether the part of a reference before query and fragment has a given form, and these theirs. -/
def hasParts (p : Text → Bool) (text : Text) : Bool :=
  let whole := text.takeWhile (· != '#')
  let front := whole.takeWhile (· != '?')
  p front && isTail (whole.drop (front.length + 1)) && isTail (text.drop (whole.length + 1))

def scheme? (text : Text) : Option (Text × Text) :=
  let run := text.takeWhile fun c => c.isAlphanum || c == '+' || c == '-' || c == '.'
  match run, text.drop run.length with
  | c :: _, ':' :: rest => if c.isAlpha then some (run, rest) else none
  | _, _ => none

def isAbsolute (text : Text) : Bool :=
  match scheme? text with
  | some (_, rest) => hasParts isHierarchy rest
  | none => false

def isRelative (text : Text) : Bool :=
  hasParts (fun front =>
    isHierarchy front && !(front.takeWhile (· != '/')).contains ':') text

def isReference (text : Text) : Bool :=
  isAbsolute text || isRelative text

end XmlCheck.Uri
