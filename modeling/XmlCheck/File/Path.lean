import XmlCheck.Text.Basic
import XmlCheck.Text.Utf8

/-!
Paths as lists of names. Reading a path collapses repeated slashes and single dots and keeps double
dots, since what lies above a name depends on the links of a file tree.
-/

namespace XmlCheck

/-- Where a path starts: at the place where it is used, at the top, or at the top written with
exactly two slashes. -/
inductive Anchor
  | here
  | top
  | doubleTop
  deriving DecidableEq, Repr

structure FilePath where
  anchor : Anchor
  parts : List Text
  deriving DecidableEq, Repr

namespace FilePath

def anchorOf : Text → Anchor
  | '/' :: '/' :: '/' :: _ => .top
  | '/' :: '/' :: _ => .doubleTop
  | '/' :: _ => .top
  | _ => .here

/-- The names between the slashes of a text, without the empty ones and the single dots. -/
def partsOf (text : Text) : List Text :=
  (Text.splitOn '/' text).filter fun part => part != [] && part != ['.']

def ofText (text : Text) : FilePath :=
  ⟨anchorOf text, partsOf text⟩

def ofParts (parts : List Text) : FilePath :=
  ⟨.top, parts⟩

def isAbsolute (path : FilePath) : Bool :=
  path.anchor != .here

/-- The text of a path: a single dot for the path without names. -/
def toText (path : FilePath) : Text :=
  let names := Text.join ['/'] path.parts
  match path.anchor with
  | .here => if path.parts.isEmpty then ['.'] else names
  | .top => '/' :: names
  | .doubleTop => '/' :: '/' :: names

def name (path : FilePath) : Text :=
  path.parts.getLastD []

def parent (path : FilePath) : FilePath :=
  { path with parts := path.parts.dropLast }

def extend (path : FilePath) (names : List Text) : FilePath :=
  { path with parts := path.parts ++ names }

def join (base path : FilePath) : FilePath :=
  if path.isAbsolute then path else { base with parts := base.parts ++ path.parts }

/-- The names that follow `base` in `parts`, if `parts` begins with `base`. -/
def below? (base parts : List Text) : Option (List Text) :=
  Text.after? base parts

def isAddressChar (b : UInt8) : Bool :=
  let n := b.toNat
  (48 ≤ n && n ≤ 57) || (65 ≤ n && n ≤ 90) || (97 ≤ n && n ≤ 122) || n == 45 || n == 46 ||
    n == 47 || n == 95 || n == 126

def percentOctet (b : UInt8) : Text :=
  ['%', (Nat.digitChar (b.toNat / 16)).toUpper, (Nat.digitChar (b.toNat % 16)).toUpper]

def toAddress (path : FilePath) : Text :=
  ("file://" : Text) ++ (Utf8.encode path.toText).flatMap fun b =>
    if isAddressChar b then [Char.ofNat b.toNat] else percentOctet b

example : (ofText "a//./b/../c/".toList).toText = "a/b/../c".toList := by decide

end FilePath

end XmlCheck
