import XmlCheck.Text.Basic

/-!
The characters of XML: which may stand in a document, and which may start or continue a name.
-/

namespace XmlCheck.Xml

def isSpace (c : Char) : Bool :=
  c == ' ' || c == '\t' || c == '\n' || c == '\r'

def isAllowedCode (n : Nat) : Bool :=
  n == 9 || n == 10 || n == 13 || (0x20 ≤ n && n ≤ 0xD7FF) || (0xE000 ≤ n && n ≤ 0xFFFD) ||
    (0x10000 ≤ n && n ≤ 0x10FFFF)

def isAllowed (c : Char) : Bool :=
  isAllowedCode c.toNat

/-- The runs of characters beyond ASCII that may start a name. -/
def nameStartRuns : List (Nat × Nat) :=
  [(0xC0, 0xD6), (0xD8, 0xF6), (0xF8, 0x2FF), (0x370, 0x37D), (0x37F, 0x1FFF), (0x200C, 0x200D),
    (0x2070, 0x218F), (0x2C00, 0x2FEF), (0x3001, 0xD7FF), (0xF900, 0xFDCF), (0xFDF0, 0xFFFD),
    (0x10000, 0xEFFFF)]

def nameRuns : List (Nat × Nat) :=
  [(0xB7, 0xB7), (0x300, 0x36F), (0x203F, 0x2040)]

def inRuns (runs : List (Nat × Nat)) (n : Nat) : Bool :=
  runs.any fun run => run.1 ≤ n && n ≤ run.2

def isNameStart (c : Char) : Bool :=
  ('a' ≤ c && c ≤ 'z') || ('A' ≤ c && c ≤ 'Z') || c == '_' || inRuns nameStartRuns c.toNat

def isNameChar (c : Char) : Bool :=
  isNameStart c || c.isDigit || c == '-' || c == '.' || inRuns nameRuns c.toNat

def isPlainName : Text → Bool
  | [] => false
  | c :: rest => isNameStart c && rest.all isNameChar

/-- Whether a text consists of name characters and colons. -/
def isNameToken (text : Text) : Bool :=
  !text.isEmpty && text.all fun c => isNameChar c || c == ':'

/-- Whether a text is a name, colons included. -/
def isName : Text → Bool
  | [] => false
  | c :: rest => (isNameStart c || c == ':') && rest.all fun c => isNameChar c || c == ':'

end XmlCheck.Xml
