import XmlCheck.Text.Basic

/-!
UTF-8, read in two ways: a lenient reader puts one replacement character where a broken sequence
stands, a strict one stops there and says what is wrong. Both take a broken sequence to be the
longest beginning of a character that the octets have.
-/

namespace XmlCheck.Utf8

inductive Flaw
  | invalidStart
  | invalidContinuation
  | endOfData
  deriving DecidableEq, Repr

inductive Head
  | scalar (c : Char) (width : Nat)
  | broken (flaw : Flaw) (width : Nat)
  deriving DecidableEq, Repr

def shape (first : Nat) : Option (Nat × Nat × Nat) :=
  if 0xC2 ≤ first ∧ first ≤ 0xDF then some (0x80, 0xBF, 1)
  else if first = 0xE0 then some (0xA0, 0xBF, 2)
  else if first = 0xED then some (0x80, 0x9F, 2)
  else if 0xE1 ≤ first ∧ first ≤ 0xEF then some (0x80, 0xBF, 2)
  else if first = 0xF0 then some (0x90, 0xBF, 3)
  else if 0xF1 ≤ first ∧ first ≤ 0xF3 then some (0x80, 0xBF, 3)
  else if first = 0xF4 then some (0x80, 0x8F, 3)
  else none

/-- Reads the octets after the first: `missing` are still to come, the next one lies between the
bounds, `value` is what the earlier ones make, `width` counts them. -/
def tail : (missing low high value width : Nat) → List UInt8 → Head
  | 0, _, _, value, width, _ => .scalar (Char.ofNat value) width
  | _ + 1, _, _, _, width, [] => .broken .endOfData width
  | missing + 1, low, high, value, width, b :: rest =>
    if low ≤ b.toNat ∧ b.toNat ≤ high then
      tail missing 0x80 0xBF (value * 64 + (b.toNat - 0x80)) (width + 1) rest
    else
      .broken .invalidContinuation width

def head (first : UInt8) (rest : List UInt8) : Head :=
  if first.toNat < 0x80 then .scalar (Char.ofNat first.toNat) 1
  else
    match shape first.toNat with
    | none => .broken .invalidStart 1
    | some (low, high, missing) =>
      let bits :=
        if missing = 1 then first.toNat - 0xC0
        else if missing = 2 then first.toNat - 0xE0
        else first.toNat - 0xF0
      tail missing low high bits 1 rest

/-- Walks over octets; the counter holds how many of the last sequence are still to be passed. -/
def decodeLenientFrom : Nat → List UInt8 → Text
  | _, [] => []
  | skip + 1, _ :: rest => decodeLenientFrom skip rest
  | 0, b :: rest =>
    match head b rest with
    | .scalar c width => c :: decodeLenientFrom (width - 1) rest
    | .broken _ width => '\ufffd' :: decodeLenientFrom (width - 1) rest

/-- The text of a sequence of octets, with U+FFFD for each broken sequence. -/
def decodeLenient (octets : List UInt8) : Text :=
  decodeLenientFrom 0 octets

structure Failure where
  position : Nat
  width : Nat
  first : UInt8
  flaw : Flaw
  deriving DecidableEq, Repr

/-- Walks over octets as `decodeLenientFrom` does, and counts them. -/
def decodeFrom : Nat → Nat → List UInt8 → Except Failure Text
  | _, _, [] => .ok []
  | position, skip + 1, _ :: rest => decodeFrom (position + 1) skip rest
  | position, 0, b :: rest =>
    match head b rest with
    | .scalar c width => (decodeFrom (position + 1) (width - 1) rest).map (c :: ·)
    | .broken flaw width => .error ⟨position, width, b, flaw⟩

def decode (octets : List UInt8) : Except Failure Text :=
  decodeFrom 0 0 octets

def hexOctet (b : UInt8) : Text :=
  [Nat.digitChar (b.toNat / 16), Nat.digitChar (b.toNat % 16)]

def Flaw.message : Flaw → Text
  | .invalidStart => "invalid start byte"
  | .invalidContinuation => "invalid continuation byte"
  | .endOfData => "unexpected end of data"

/-- One octet is shown by its value, several by their positions. -/
def Failure.message (failure : Failure) : Text :=
  let place : Text :=
    if failure.width = 1 then
      ("byte 0x" : Text) ++ hexOctet failure.first ++ " in position " ++
        Text.ofNat failure.position
    else
      ("bytes in position " : Text) ++ Text.ofNat failure.position ++ "-" ++
        Text.ofNat (failure.position + failure.width - 1)
  ("'utf-8' codec can't decode " : Text) ++ place ++ ": " ++ failure.flaw.message

def encodeChar (c : Char) : List UInt8 :=
  let n := c.toNat
  if n < 0x80 then [UInt8.ofNat n]
  else if n < 0x800 then [UInt8.ofNat (0xC0 + n / 64), UInt8.ofNat (0x80 + n % 64)]
  else if n < 0x10000 then
    [UInt8.ofNat (0xE0 + n / 4096), UInt8.ofNat (0x80 + n / 64 % 64), UInt8.ofNat (0x80 + n % 64)]
  else
    [UInt8.ofNat (0xF0 + n / 262144), UInt8.ofNat (0x80 + n / 4096 % 64),
      UInt8.ofNat (0x80 + n / 64 % 64), UInt8.ofNat (0x80 + n % 64)]

/-- The position of the first code point that cannot be encoded, since it is no character. -/
structure EncodeFailure where
  position : Nat
  deriving DecidableEq, Repr

def encode (text : Text) : List UInt8 :=
  text.flatMap encodeChar

example : decodeLenient [0xE2, 0x82, 0x41, 0xFF] = ['\ufffd', 'A', '\ufffd'] := by decide

example : decode (encode ['é', '中', '😀']) = .ok ['é', '中', '😀'] := rfl

end XmlCheck.Utf8
