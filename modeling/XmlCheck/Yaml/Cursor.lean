import XmlCheck.Text.Basic

/-!
Classes of characters in settings texts, what may be wrong with such a text, and the place of a
reader in it.
-/

namespace XmlCheck.Yaml

inductive YamlFault
  | unprintable (c : Char)
  | unexpected (c : Char)
  | misplacedEntry
  | misplacedKey
  | misplacedValue
  | keyWithoutValue
  | openQuote
  | markInQuote
  | badEscape
  | badBlockHeader
  | badBlockIndent
  | badDirective
  | badTag
  | badAnchor
  | badNode
  | openCollection
  | unknownAnchor (name : Text)
  | unknownHandle (handle : Text)
  | unknownTag (tag : Text)
  | severalDocuments
  | wrongKind
  | wrongMerge
  | doubleKey
  | mappingAsKey
  deriving DecidableEq, Repr

def isBreak (c : Char) : Bool :=
  c == '\n' || c == '\u0085' || c == '\u2028' || c == '\u2029'

def isBlank (c : Char) : Bool :=
  c == ' ' || c == '\t'

def keptBreak (c : Char) : Char :=
  if c == '\u0085' then '\n' else c

/-- Whether a word would end here: at a blank, at a line end or at the end of the text. -/
def endsWord : Text → Bool
  | [] => true
  | c :: _ => isBlank c || isBreak c

def endsLine : Text → Bool
  | [] => true
  | c :: _ => isBreak c

def startsWithWord (mark text : Text) : Bool :=
  match Text.after? mark text with
  | some rest => endsWord rest
  | none => false

def isDocumentStart (text : Text) : Bool :=
  startsWithWord "---" text

def isDocumentEnd (text : Text) : Bool :=
  startsWithWord "..." text

def isDocumentMark (text : Text) : Bool :=
  isDocumentStart text || isDocumentEnd text

def isPrintable (c : Char) : Bool :=
  c == '\t' || c == '\n' || (' ' ≤ c && c ≤ '~') || c == '\u0085' ||
    ('\u00a0' ≤ c && c ≤ '\ufffd') || 0x10000 ≤ c.toNat

/-- Whether a character has a meaning of its own inside brackets. -/
def isFlowMark (c : Char) : Bool :=
  c == ',' || c == '[' || c == ']' || c == '{' || c == '}'

structure Cursor where
  rest : Text
  index : Nat := 0
  line : Nat := 0
  column : Nat := 0
  deriving DecidableEq, Repr

namespace Cursor

/-- The place after the next character. A byte order mark takes no column. -/
def next (cursor : Cursor) : Cursor :=
  match cursor.rest with
  | [] => cursor
  | c :: rest =>
    if isBreak c then ⟨rest, cursor.index + 1, cursor.line + 1, 0⟩
    else
      ⟨rest, cursor.index + 1, cursor.line,
        if c = '\ufeff' then cursor.column else cursor.column + 1⟩

def skip : Nat → Cursor → Cursor
  | 0, cursor => cursor
  | count + 1, cursor => skip count cursor.next

/-- The place where `rest` follows, which is an ending of what follows here. -/
def upTo (cursor : Cursor) (rest : Text) : Cursor :=
  cursor.skip (cursor.rest.length - rest.length)

end Cursor

end XmlCheck.Yaml
