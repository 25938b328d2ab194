import XmlCheck.Xml.Reader.Content
import XmlCheck.Xml.Reader.Subset

/-!
Documents from octets. The result holds the problems in the order in which they were found, and the
tree as far as it was built before the first bad one.
-/

namespace XmlCheck.Xml

structure Parsed where
  root : Option Element
  findings : List Finding

namespace Reader

def document : Reader Unit := do
  if (← get).octets = some [] || (← startsWith ['\x00']) then report .documentEmpty
  else
    if ← startsWith "<?xml" then
      if (((← rest).drop 5).head?.map isSpace).getD false then
        declaration
        let _ ← skipSpaces
    miscellany ((← get).left + 1)
    if ← startsWith "<!DOCTYPE" then
      documentType
      miscellany ((← get).left + 1)
    if ← startsWith ['<'] then
      startElement
      content (entityBound (← get) + 1) 0 []
      unless (← get).stopped do
        miscellany ((← get).left + 1)
        let s ← get
        if s.intact then
          if !s.rest.isEmpty then report .extraContent
          else if s.truncated then report .badEncodingBytes
    else if (← get).intact then report .startTagExpected

def start (expands : Bool) (octets : List UInt8) : Progress :=
  let (encoding, body, settled) :=
    match Encoding.detect? octets with
    | some (encoding, body) => (encoding, body, true)
    | none => (.utf8, octets, false)
  let decoded := encoding.decode body
  let length := decoded.text.length
  let s : Progress :=
    { rest := decoded.text
      left := length
      brokenAt := decoded.brokenAfter.map fun n => length - n
      truncated := decoded.truncated
      octets := if settled then none else some octets
      expands }
  if decoded.cutOff then s.withFinding .badEncodingBytes else s

end Reader

def parse (expands : Bool) (octets : List UInt8) : Parsed :=
  let s : Progress := (StateT.run Reader.document (Reader.start expands octets) : Id _).2
  let s := Reader.unwound 0 s.openElements.length s
  { root := s.root, findings := s.findings.reverse }

end XmlCheck.Xml
