import XmlCheck.Text.Blank

/-!
The identifiers that documents name their schemas by: `urn:`, a vendor and a component, and a path;
or, for a module, the name of the module before the path. Letter case counts only in the scheme, in
names of modules and in paths.
-/

namespace XmlCheck

inductive SchemaUrn
  | component (vendor component path : Text)
  | module (name path : Text)
  deriving DecidableEq, Repr

inductive UrnFault
  | notUrn
  | badModule
  deriving DecidableEq, Repr

namespace SchemaUrn

def isAlphanumeric (c : Char) : Bool :=
  c.isAlphanum

def isNameChar (c : Char) : Bool :=
  isAlphanumeric c || c == '_' || c == '.' || c == '-'

def isName (text : Text) : Bool :=
  !text.isEmpty && text.all isNameChar

/-- Whether a text is the name of a module: letters or digits, an underscore, and at least one more
letter, digit or underscore. -/
def isModuleName (text : Text) : Bool :=
  let rest := text.dropWhile isAlphanumeric
  !(text.takeWhile isAlphanumeric).isEmpty &&
    match rest with
    | '_' :: more => !more.isEmpty && more.all fun c => isAlphanumeric c || c == '_'
    | _ => false

def cut? (text : Text) : Option (Text × Text) :=
  match text.dropWhile (· != ':') with
  | ':' :: rest => some (text.takeWhile (· != ':'), rest)
  | _ => none

def parts? (text : Text) : Option (Text × Text × Text) :=
  match Text.after? ("urn:" : Text) (Text.trim text) with
  | none => none
  | some text =>
    match cut? text with
    | none => none
    | some (vendor, text) =>
      match cut? text with
      | none => none
      | some (part, rest) =>
        if isName vendor && isName part && !rest.isEmpty && !rest.contains '\n' then
          some (vendor, part, rest)
        else none

def moduleWord : Text := "module"

def ofModule? (rest : Text) : Option SchemaUrn :=
  match cut? rest with
  | some (name, path) =>
    if isModuleName name && !path.isEmpty then some (.module name path) else none
  | none => none

/-- Reads an identifier; white space around it does not count. -/
def ofText (text : Text) : Except UrnFault SchemaUrn :=
  match parts? text with
  | none => .error .notUrn
  | some (vendor, part, rest) =>
    let name := Text.lower part
    if name = moduleWord then
      match ofModule? rest with
      | some urn => .ok urn
      | none => .error .badModule
    else .ok (.component (Text.lower vendor) name rest)

def path : SchemaUrn → Text
  | component _ _ path => path
  | module _ path => path

end SchemaUrn

example : (SchemaUrn.ofText " urn:Acme:Module:A_b:x/y.xsd".toList).toOption =
    some (.module "A_b".toList "x/y.xsd".toList) := by decide +kernel

end XmlCheck
