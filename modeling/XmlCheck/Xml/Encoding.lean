import XmlCheck.Text.Utf8
import XmlCheck.Text.Blank

/-!
The character encodings of documents. The first octets settle the encoding or leave UTF-8, which a
declaration in the document may replace. Broken UTF-8 is read on with a replacement character; in
the other encodings the text ends where it is broken.
-/

namespace XmlCheck.Xml

inductive Encoding
  | utf8
  | utf16 (bigEndian : Bool)
  | latin1
  | latin9
  | ascii
  | windows1252
  deriving DecidableEq, Repr

structure Decoded where
  text : Text
  /-- How many characters precede the first broken one that is replaced. -/
  brokenAfter : Option Nat := none
  /-- Whether the text ends at a broken character. -/
  cutOff : Bool := false
  /-- Whether the text ends within a character. -/
  truncated : Bool := false

namespace Encoding

/-- Walks over UTF-8 and replaces each octet that starts no character. -/
def decodeUtf8From : Nat → List UInt8 → Text
  | _, [] => []
  | skip + 1, _ :: rest => decodeUtf8From skip rest
  | 0, b :: rest =>
    match Utf8.head b rest with
    | .scalar c width => c :: decodeUtf8From (width - 1) rest
    | .broken _ _ => '\ufffd' :: decodeUtf8From 0 rest

/-- How many characters of UTF-8 precede the first broken one. -/
def soundLength : Nat → List UInt8 → Option Nat
  | _, [] => none
  | skip + 1, _ :: rest => soundLength skip rest
  | 0, b :: rest =>
    match Utf8.head b rest with
    | .scalar _ width => (soundLength (width - 1) rest).map (· + 1)
    | .broken _ _ => some 0

def decodeUtf16 (bigEndian : Bool) : List UInt8 → Decoded
  | a :: b :: c :: d :: rest =>
    let unit (x y : UInt8) : Nat :=
      if bigEndian then x.toNat * 256 + y.toNat else y.toNat * 256 + x.toNat
    let first := unit a b
    if 0xD800 ≤ first ∧ first ≤ 0xDBFF then
      let second := unit c d
      if 0xDC00 ≤ second ∧ second ≤ 0xDFFF then
        let more := decodeUtf16 bigEndian rest
        let code := 0x10000 + (first - 0xD800) * 0x400 + (second - 0xDC00)
        { more with text := Char.ofNat code :: more.text }
      else { text := [], cutOff := true }
    else if 0xDC00 ≤ first ∧ first ≤ 0xDFFF then { text := [], cutOff := true }
    else
      let more := decodeUtf16 bigEndian (c :: d :: rest)
      { more with text := Char.ofNat first :: more.text }
  | a :: b :: rest =>
    let first := if bigEndian then a.toNat * 256 + b.toNat else b.toNat * 256 + a.toNat
    if 0xD800 ≤ first ∧ first ≤ 0xDFFF then
      { text := [], cutOff := 0xDC00 ≤ first, truncated := first < 0xDC00 }
    else { text := [Char.ofNat first], truncated := !rest.isEmpty }
  | [_] => { text := [], truncated := true }
  | [] => { text := [] }

def latin9Changes : List (Nat × Nat) :=
  [(0xA4, 0x20AC), (0xA6, 0x160), (0xA8, 0x161), (0xB4, 0x17D), (0xB8, 0x17E), (0xBC, 0x152),
    (0xBD, 0x153), (0xBE, 0x178)]

/-- What the octets from 80 to 9F stand for in Windows-1252; zero where they stand for nothing. -/
def windows1252Codes : List Nat :=
  [0x20AC, 0, 0x201A, 0x192, 0x201E, 0x2026, 0x2020, 0x2021, 0x2C6, 0x2030, 0x160, 0x2039, 0x152, 0,
    0x17D, 0, 0, 0x2018, 0x2019, 0x201C, 0x201D, 0x2022, 0x2013, 0x2014, 0x2DC, 0x2122, 0x161,
    0x203A, 0x153, 0, 0x17E, 0x178]

def single? (encoding : Encoding) (b : UInt8) : Option Char :=
  let n := b.toNat
  match encoding with
  | .ascii => if n < 128 then some (Char.ofNat n) else none
  | .latin9 => some (Char.ofNat ((latin9Changes.lookup n).getD n))
  | .windows1252 =>
    if 0x80 ≤ n ∧ n ≤ 0x9F then
      match windows1252Codes[n - 0x80]? with
      | some 0 | none => none
      | some code => some (Char.ofNat code)
    else some (Char.ofNat n)
  | _ => some (Char.ofNat n)

def decodeSingle (encoding : Encoding) : List UInt8 → Decoded
  | [] => { text := [] }
  | b :: rest =>
    match encoding.single? b with
    | some c =>
      let more := decodeSingle encoding rest
      { more with text := c :: more.text }
    | none => { text := [], cutOff := true }

def decode (encoding : Encoding) (octets : List UInt8) : Decoded :=
  match encoding with
  | .utf8 => { text := decodeUtf8From 0 octets, brokenAfter := soundLength 0 octets }
  | .utf16 bigEndian => decodeUtf16 bigEndian octets
  | _ => encoding.decodeSingle octets

def detect? : List UInt8 → Option (Encoding × List UInt8)
  | 0xEF :: 0xBB :: 0xBF :: rest => some (.utf8, rest)
  | 0xFE :: 0xFF :: rest => some (.utf16 true, rest)
  | 0xFF :: 0xFE :: rest => some (.utf16 false, rest)
  | 0x3C :: 0 :: 0x3F :: 0 :: rest => some (.utf16 false, 0x3C :: 0 :: 0x3F :: 0 :: rest)
  | 0 :: 0x3C :: 0 :: 0x3F :: rest => some (.utf16 true, 0 :: 0x3C :: 0 :: 0x3F :: rest)
  | _ => none

def names : List (Text × Encoding) :=
  [("utf-8", .utf8), ("utf8", .utf8), ("utf-16", .utf16 false), ("utf16", .utf16 false),
    ("utf-16le", .utf16 false), ("utf-16be", .utf16 true), ("iso-8859-1", .latin1),
    ("iso8859-1", .latin1), ("iso_8859-1", .latin1), ("iso-latin-1", .latin1), ("latin1", .latin1),
    ("latin-1", .latin1), ("l1", .latin1), ("cp819", .latin1), ("iso-8859-15", .latin9),
    ("iso8859-15", .latin9), ("iso_8859-15", .latin9), ("latin-9", .latin9), ("us-ascii", .ascii),
    ("ascii", .ascii), ("ansi_x3.4-1968", .ascii), ("windows-1252", .windows1252),
    ("cp1252", .windows1252)]

def ofName? (name : Text) : Option Encoding :=
  names.lookup (Text.lower name)

end Encoding

end XmlCheck.Xml
