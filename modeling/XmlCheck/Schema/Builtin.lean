import XmlCheck.Text.Basic

/-!
The simple types that every schema knows, the types they are derived from and what they do with
white space.
-/

namespace XmlCheck.Schema

inductive Builtin
  | anySimpleType
  | string
  | normalizedString
  | token
  | language
  | nmToken
  | name
  | ncName
  | id
  | idRef
  | entity
  | boolean
  | decimal
  | integer
  | nonPositiveInteger
  | negativeInteger
  | long
  | int
  | short
  | byte
  | nonNegativeInteger
  | unsignedLong
  | unsignedInt
  | unsignedShort
  | unsignedByte
  | positiveInteger
  | float
  | double
  | duration
  | dateTime
  | time
  | date
  | gYearMonth
  | gYear
  | gMonthDay
  | gDay
  | gMonth
  | hexBinary
  | base64Binary
  | anyUri
  | qName
  | notationName
  | nmTokens
  | idRefs
  | entities
  deriving DecidableEq, Repr

inductive WhiteSpace
  | preserve
  | replace
  | collapse
  deriving DecidableEq, Repr

namespace WhiteSpace

def isSpace (c : Char) : Bool :=
  c == ' ' || c == '\t' || c == '\n' || c == '\r'

def words (text : Text) : List Text :=
  (Text.splitOn ' ' (text.map fun c => if isSpace c then ' ' else c)).filter fun w => !w.isEmpty

def apply : WhiteSpace → Text → Text
  | .preserve, text => text
  | .replace, text => text.map fun c => if isSpace c then ' ' else c
  | .collapse, text => Text.join [' '] (words text)

def ofText? (word : Text) : Option WhiteSpace :=
  if word = ("preserve" : Text) then some .preserve
  else if word = ("replace" : Text) then some .replace
  else if word = ("collapse" : Text) then some .collapse
  else none

end WhiteSpace

namespace Builtin

def table : List (Builtin × String × Builtin) :=
  [(.anySimpleType, "anySimpleType", .anySimpleType), (.string, "string", .anySimpleType),
    (.normalizedString, "normalizedString", .string), (.token, "token", .normalizedString),
    (.language, "language", .token), (.nmToken, "NMTOKEN", .token), (.name, "Name", .token),
    (.ncName, "NCName", .name), (.id, "ID", .ncName), (.idRef, "IDREF", .ncName),
    (.entity, "ENTITY", .ncName), (.boolean, "boolean", .anySimpleType),
    (.decimal, "decimal", .anySimpleType), (.integer, "integer", .decimal),
    (.nonPositiveInteger, "nonPositiveInteger", .integer),
    (.negativeInteger, "negativeInteger", .nonPositiveInteger), (.long, "long", .integer),
    (.int, "int", .long), (.short, "short", .int), (.byte, "byte", .short),
    (.nonNegativeInteger, "nonNegativeInteger", .integer),
    (.unsignedLong, "unsignedLong", .nonNegativeInteger),
    (.unsignedInt, "unsignedInt", .unsignedLong), (.unsignedShort, "unsignedShort", .unsignedInt),
    (.unsignedByte, "unsignedByte", .unsignedShort),
    (.positiveInteger, "positiveInteger", .nonNegativeInteger), (.float, "float", .anySimpleType),
    (.double, "double", .anySimpleType), (.duration, "duration", .anySimpleType),
    (.dateTime, "dateTime", .anySimpleType), (.time, "time", .anySimpleType),
    (.date, "date", .anySimpleType), (.gYearMonth, "gYearMonth", .anySimpleType),
    (.gYear, "gYear", .anySimpleType), (.gMonthDay, "gMonthDay", .anySimpleType),
    (.gDay, "gDay", .anySimpleType), (.gMonth, "gMonth", .anySimpleType),
    (.hexBinary, "hexBinary", .anySimpleType), (.base64Binary, "base64Binary", .anySimpleType),
    (.anyUri, "anyURI", .anySimpleType), (.qName, "QName", .anySimpleType),
    (.notationName, "NOTATION", .anySimpleType), (.nmTokens, "NMTOKENS", .anySimpleType),
    (.idRefs, "IDREFS", .anySimpleType), (.entities, "ENTITIES", .anySimpleType)]

def toText (kind : Builtin) : Text :=
  ((table.lookup kind).map fun entry => entry.1.toList).getD []

def ofText? (name : Text) : Option Builtin :=
  (table.find? fun entry => entry.2.1.toList = name).map (·.1)

def base (kind : Builtin) : Builtin :=
  ((table.lookup kind).map (·.2)).getD .anySimpleType

/-- Whether a type is another one or derived from it, in so many steps at most. -/
def isWithin (ancestor : Builtin) : (bound : Nat) → Builtin → Bool
  | 0, kind => kind = ancestor
  | bound + 1, kind => kind = ancestor || isWithin ancestor bound kind.base

def derivesFrom (kind ancestor : Builtin) : Bool :=
  isWithin ancestor table.length kind

def item? : Builtin → Option Builtin
  | .nmTokens => some .nmToken
  | .idRefs => some .idRef
  | .entities => some .entity
  | _ => none

def whiteSpace : Builtin → WhiteSpace
  | .anySimpleType => .preserve
  | .string => .preserve
  | .normalizedString => .replace
  | _ => .collapse

example : derivesFrom .unsignedByte .decimal = true ∧ derivesFrom .string .token = false := by
  decide

example : (table.map (·.1)).Nodup := by decide

end Builtin

end XmlCheck.Schema
