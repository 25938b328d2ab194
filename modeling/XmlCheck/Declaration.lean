import XmlCheck.Text.Blank
import XmlCheck.Text.Utf8

/-!
The schema that a document declares for itself, found in its text: the declaration is a name, an
equals sign and a value in double quotes that starts with `urn:`. The text need not be well-formed.
-/

namespace XmlCheck.Declaration

def declaredName : Text := "xsi:noNamespaceSchemaLocation"

def scheme : Text := "urn:"

def atStart? (text : Text) : Option Text :=
  match Text.after? declaredName text with
  | none => none
  | some rest =>
    match rest.dropWhile Text.isBlank with
    | '=' :: rest =>
      match rest.dropWhile Text.isBlank with
      | '"' :: rest =>
        match Text.after? scheme rest with
        | none => none
        | some rest =>
          match rest.takeWhile (· != '"'), rest.dropWhile (· != '"') with
          | name@(_ :: _), '"' :: _ => some (scheme ++ name)
          | _, _ => none
      | _ => none
    | _ => none

def scan? : Text → Option Text
  | [] => none
  | c :: rest =>
    match atStart? (c :: rest) with
    | some identifier => some identifier
    | none => scan? rest

def scanOctets? (content : List UInt8) : Option Text :=
  scan? (Utf8.decodeLenient content)

def ofValue? (value : Text) : Option Text :=
  let identifier := Text.trim value
  if scheme.isPrefixOf identifier then some identifier else none

end XmlCheck.Declaration
