import XmlCheck.Text.Utf8

/-!
What can be wrong with the form of a document, and how it is said. A problem has the place where
the reading stood when it was found.
-/

namespace XmlCheck.Xml

inductive Problem
  | documentEmpty
  | startTagExpected
  | badElementName
  | startTagOpen (name : Text) (line : Nat)
  | badAttributeName
  | attributesRunTogether
  | valueMissing (key : Text)
  | valueNotQuoted
  | valueOpen
  | lessInValue
  | lessInEntity (entity : Text)
  | badCharInValue
  | attributeTwice (name : Text)
  | attributeTwiceInSpace (name space : Text)
  | tagMismatch (name : Text) (line : Nat) (found : Text)
  | dataEnds (name : Text) (line : Nat)
  | greaterExpected
  | extraContent
  | notBalanced
  | badQName (name : Text)
  | unboundElement (binder name : Text)
  | unboundAttribute (binder key element : Text)
  | emptySpace (binder : Text)
  | badSpace (binder : Option Text) (space : Text)
  | xmlBoundElsewhere
  | xmlSpaceBoundElsewhere
  | xmlSpaceAsDefault
  | xmlnsSpaceReused
  | xmlnsRedefined
  | lateDeclaration
  | spaceAfterXml
  | badVersion (version : Text)
  | versionMissing
  | blankNeeded
  | equalsExpected
  | unknownEncoding (name : Text)
  | badEncodingName
  | badEncodingBytes
  | badStandalone
  | stringOpen
  | stringNotStarted
  | declarationOpen
  | badTarget
  | targetMissing
  | targetHasColon (target : Text)
  | instructionBlank (target : Text)
  | instructionOpen (target : Text)
  | doubleHyphen (before : Option Text)
  | hyphensInComment
  | commentOpen (before : Option Text)
  | badCharInComment (code : Nat)
  | cdataOpen (before : Option Text)
  | cdataEndInContent
  | entityNameMissing
  | entitySemicolonMissing
  | entityUndefined (name : Text)
  | entityUnparsed (name : Text)
  | entityExternal (name : Text)
  | entityLoop
  | entityTooDeep
  | badCharCode (code : Nat)
  | charCodeTooLarge
  | badHexCode
  | badDecimalCode
  | badChar (code : Nat)
  | nullChar
  | tooDeep (limit : Nat)
  | doctypeBlank
  | doctypeName
  | doctypeOpen
  | subsetContent
  | spaceRequired (afterWhat : Text)
  | dataMarkBlank
  | entityNameRequired
  | elementNameRequired
  | listElementRequired
  | listAttributeRequired
  | notationNameRequired
  | entityNotClosed (name : Text)
  | notationNotClosed
  | entityValueRequired
  | entityValueOpen
  | ampersandInEntityValue (sign : Char)
  | semicolonInEntityValue (sign : Char) (name : Text)
  | colonInName (kind name : Text)
  | parameterInSubset
  | parameterUndefined (name : Text)
  | parameterNameMissing
  | parameterSemicolonMissing
  | literalNotStarted
  | literalOpen
  | publicIdMissing
  | systemIdMissing
  | attributeTypeMissing
  deriving DecidableEq, Repr

def quotedPart (before name after : Text) : Text :=
  before ++ name ++ after

/-- The first fifty octets of a text, as a message shows them. When the cut goes through a
character, each octet beyond ASCII is shown by its number. -/
def excerpt (text : Text) : Text :=
  let octets := (Utf8.encode text).take 50
  match Utf8.decode octets with
  | .ok shown => shown
  | .error _ =>
    octets.flatMap fun b =>
      if b.toNat < 128 then [Char.ofNat b.toNat] else '\\' :: 'x' :: Utf8.hexOctet b

namespace Problem

def message : Problem → Text
  | documentEmpty => "Document is empty"
  | startTagExpected => "Start tag expected, '<' not found"
  | badElementName => "StartTag: invalid element name"
  | startTagOpen name line =>
    ("Couldn't find end of Start Tag " : Text) ++ name ++ " line " ++ Text.ofNat line
  | badAttributeName => "error parsing attribute name"
  | attributesRunTogether => "attributes construct error"
  | valueMissing key => ("Specification mandates value for attribute " : Text) ++ key
  | valueNotQuoted => "AttValue: \" or ' expected"
  | valueOpen => "AttValue: ' expected"
  | lessInValue => "Unescaped '<' not allowed in attributes values"
  | lessInEntity entity =>
    quotedPart "'<' in entity '" entity "' is not allowed in attributes values"
  | badCharInValue => "invalid character in attribute value"
  | attributeTwice name => quotedPart "Attribute " name " redefined"
  | attributeTwiceInSpace name space =>
    ("Namespaced Attribute " : Text) ++ name ++ " in '" ++ space ++ "' redefined"
  | tagMismatch name line found =>
    ("Opening and ending tag mismatch: " : Text) ++ name ++ " line " ++ Text.ofNat line ++
      " and " ++ found
  | dataEnds name line =>
    ("Premature end of data in tag " : Text) ++ name ++ " line " ++ Text.ofNat line
  | greaterExpected => "expected '>'"
  | extraContent => "Extra content at the end of the document"
  | notBalanced => "chunk is not well balanced"
  | badQName name => quotedPart "Failed to parse QName '" name "'"
  | unboundElement binder name =>
    ("Namespace prefix " : Text) ++ binder ++ " on " ++ name ++ " is not defined"
  | unboundAttribute binder key element =>
    ("Namespace prefix " : Text) ++ binder ++ " for " ++ key ++ " on " ++ element ++
      " is not defined"
  | emptySpace binder => quotedPart "xmlns:" binder ": Empty XML namespace is not allowed"
  | badSpace none space => quotedPart "xmlns: '" space "' is not a valid URI"
  | badSpace (some binder) space =>
    ("xmlns:" : Text) ++ binder ++ ": '" ++ space ++ "' is not a valid URI"
  | xmlBoundElsewhere => "xml namespace prefix mapped to wrong URI"
  | xmlSpaceBoundElsewhere => "xml namespace URI mapped to wrong prefix"
  | xmlSpaceAsDefault => "xml namespace URI cannot be the default namespace"
  | xmlnsSpaceReused => "reuse of the xmlns namespace name is forbidden"
  | xmlnsRedefined => "redefinition of the xmlns prefix is forbidden"
  | lateDeclaration => "XML declaration allowed only at the start of the document"
  | spaceAfterXml => "Blank needed after '<?xml'"
  | badVersion version => quotedPart "Unsupported version '" version "'"
  | versionMissing => "Malformed declaration expecting version"
  | blankNeeded => "Blank needed here"
  | equalsExpected => "expected '='"
  | unknownEncoding name => ("Unsupported encoding: " : Text) ++ name
  | badEncodingName => "Invalid XML encoding name"
  | badEncodingBytes => "Invalid bytes in character encoding"
  | badStandalone => "standalone accepts only 'yes' or 'no'"
  | stringOpen => "String not closed expecting \" or '"
  | stringNotStarted => "String not started expecting ' or \""
  | declarationOpen => "parsing XML declaration: '?>' expected"
  | badTarget => "Invalid PI name"
  | targetMissing => "xmlParsePI : no target name"
  | targetHasColon target => quotedPart "colons are forbidden from PI names '" target "'"
  | instructionBlank target => quotedPart "ParsePI: PI " target " space expected"
  | instructionOpen target => quotedPart "ParsePI: PI " target " never end ..."
  | doubleHyphen none => "Double hyphen within comment"
  | doubleHyphen (some before) => ("Double hyphen within comment: <!--" : Text) ++ excerpt before
  | hyphensInComment => "Comment must not contain '--' (double-hyphen)"
  | commentOpen none => "Comment not terminated"
  | commentOpen (some before) => ("Comment not terminated \n<!--" : Text) ++ excerpt before
  | badCharInComment code => ("xmlParseComment: invalid xmlChar value " : Text) ++ Text.ofNat code
  | cdataOpen none => "CData section not finished"
  | cdataOpen (some before) => ("CData section not finished\n" : Text) ++ excerpt before
  | cdataEndInContent => "Sequence ']]>' not allowed in content"
  | entityNameMissing => "xmlParseEntityRef: no name"
  | entitySemicolonMissing => "EntityRef: expecting ';'"
  | entityUndefined name => quotedPart "Entity '" name "' not defined"
  | entityUnparsed name => ("Entity reference to unparsed entity " : Text) ++ name
  | entityExternal name => quotedPart "Attribute references external entity '" name "'"
  | entityLoop => "Detected an entity reference loop"
  | entityTooDeep => "Maximum entity nesting depth exceeded"
  | badCharCode code => ("xmlParseCharRef: invalid xmlChar value " : Text) ++ Text.ofNat code
  | charCodeTooLarge => "xmlParseCharRef: character reference out of bounds"
  | badHexCode => "CharRef: invalid hexadecimal value"
  | badDecimalCode => "CharRef: invalid decimal value"
  | badChar code => ("PCDATA invalid Char value " : Text) ++ Text.ofNat code
  | nullChar => "Char 0x0 out of allowed range"
  | tooDeep limit =>
    quotedPart "Excessive depth in document: " (Text.ofNat limit) ", use XML_PARSE_HUGE option"
  | doctypeBlank => "Space required after 'DOCTYPE'"
  | doctypeName => "xmlParseDocTypeDecl : no DOCTYPE name !"
  | doctypeOpen => "DOCTYPE improperly terminated"
  | subsetContent => "Content error in the internal subset"
  | spaceRequired afterWhat => ("Space required after " : Text) ++ afterWhat
  | dataMarkBlank => "Space required before 'NDATA'"
  | entityNameRequired => "xmlParseEntityDecl: no name"
  | elementNameRequired => "xmlParseElementDecl: no name for Element"
  | listElementRequired => "ATTLIST: no name for Element"
  | listAttributeRequired => "ATTLIST: no name for Attribute"
  | notationNameRequired => "NOTATION: Name expected here"
  | entityNotClosed name => quotedPart "xmlParseEntityDecl: entity " name " not terminated"
  | notationNotClosed => "'>' required to close NOTATION declaration"
  | entityValueRequired => "Entity value required"
  | entityValueOpen => "EntityValue: \" or ' expected"
  | ampersandInEntityValue sign =>
    ("EntityValue: '" : Text) ++ sign :: "' forbidden except for entities references".toList
  | semicolonInEntityValue sign name =>
    ("EntityValue: missing ';' after '" : Text) ++ sign :: name ++ "'"
  | colonInName kind name =>
    ("colons are forbidden from " : Text) ++ kind ++ " names '" ++ name ++ "'"
  | parameterInSubset => "PEReference: forbidden within markup decl in internal subset"
  | parameterUndefined name => quotedPart "PEReference: %" name "; not found"
  | parameterNameMissing => "PEReference: no name"
  | parameterSemicolonMissing => "PEReference: expecting ';'"
  | literalNotStarted => "SystemLiteral \" or ' expected"
  | literalOpen => "Unfinished System or Public ID \" or ' expected"
  | publicIdMissing => "PUBLIC, the Public Identifier is missing"
  | systemIdMissing => "SYSTEM or PUBLIC, the URI is missing"
  | attributeTypeMissing => "AttDef: type missing"

def isMild : Problem → Bool
  | badQName _ | unboundElement .. | unboundAttribute .. | emptySpace _ | badSpace ..
  | attributeTwiceInSpace .. | xmlBoundElsewhere | xmlSpaceBoundElsewhere | xmlSpaceAsDefault
  | xmlnsSpaceReused | xmlnsRedefined | targetHasColon _ | colonInName .. => true
  | _ => false

end Problem

structure Finding where
  problem : Problem
  line : Nat
  column : Nat
  deriving DecidableEq, Repr

end XmlCheck.Xml
