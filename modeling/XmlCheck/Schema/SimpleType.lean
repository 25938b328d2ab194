import XmlCheck.Schema.Literal
import XmlCheck.Schema.Pattern

/-!
Simple types: what texts they accept, and what is said of a text that they refuse. A type is a
built-in one, a restriction of another by facets, a list of items, or a union of members.
-/

namespace XmlCheck.Schema

inductive FacetRule
  | length (n : Nat)
  | minLength (n : Nat)
  | maxLength (n : Nat)
  | totalDigits (n : Nat)
  | fractionDigits (n : Nat)
  | minInclusive (bound : Value)
  | minExclusive (bound : Value)
  | maxInclusive (bound : Value)
  | maxExclusive (bound : Value)
  | pattern (pattern : Pattern)
  | enumeration (values : List Value)
  | whiteSpace (treatment : WhiteSpace)

inductive FacetKind
  | length
  | minLength
  | maxLength
  | totalDigits
  | fractionDigits
  | minInclusive
  | minExclusive
  | maxInclusive
  | maxExclusive
  | pattern
  | enumeration
  | whiteSpace
  deriving DecidableEq, Repr

namespace FacetKind

def table : List (FacetKind × String) :=
  [(.length, "length"), (.minLength, "minLength"), (.maxLength, "maxLength"),
    (.totalDigits, "totalDigits"), (.fractionDigits, "fractionDigits"),
    (.minInclusive, "minInclusive"), (.minExclusive, "minExclusive"),
    (.maxInclusive, "maxInclusive"), (.maxExclusive, "maxExclusive"), (.pattern, "pattern"),
    (.enumeration, "enumeration"), (.whiteSpace, "whiteSpace")]

def toText (kind : FacetKind) : Text :=
  ((table.lookup kind).map String.toList).getD []

def ofText? (name : Text) : Option FacetKind :=
  (table.find? fun entry => entry.2.toList = name).map (·.1)

end FacetKind

def FacetRule.kind : FacetRule → FacetKind
  | .length _ => .length
  | .minLength _ => .minLength
  | .maxLength _ => .maxLength
  | .totalDigits _ => .totalDigits
  | .fractionDigits _ => .fractionDigits
  | .minInclusive _ => .minInclusive
  | .minExclusive _ => .minExclusive
  | .maxInclusive _ => .maxInclusive
  | .maxExclusive _ => .maxExclusive
  | .pattern _ => .pattern
  | .enumeration _ => .enumeration
  | .whiteSpace _ => .whiteSpace

structure Facet where
  rule : FacetRule
  source : Text

def Facet.kind (facet : Facet) : FacetKind :=
  facet.rule.kind

inductive SimpleType
  | builtin (kind : Builtin)
  | restriction (name : Option Xml.QName) (base : SimpleType) (facets : List Facet)
  | list (name : Option Xml.QName) (item : SimpleType)
  | union (name : Option Xml.QName) (members : List SimpleType)

inductive Variety
  | atomic
  | list
  | union
  deriving DecidableEq, Repr

def Variety.toText : Variety → Text
  | .atomic => "atomic"
  | .list => "list"
  | .union => "union"

namespace SimpleType

def variety : SimpleType → Variety
  | builtin kind => if kind.item?.isSome then .list else .atomic
  | restriction _ base _ => base.variety
  | list _ _ => .list
  | union _ _ => .union

def shownName? : SimpleType → Option Text
  | builtin kind => some (("xs:" : Text) ++ kind.toText)
  | restriction name _ _ => name.map Xml.QName.toText
  | list name _ => name.map Xml.QName.toText
  | union name _ => name.map Xml.QName.toText

def shown (t : SimpleType) : Text :=
  match t.shownName? with
  | some name => ("the " : Text) ++ t.variety.toText ++ " type '" ++ name ++ "'"
  | none => ("the local " : Text) ++ t.variety.toText ++ " type"

/-- The built-in type that a type goes back to, unless it is a list or a union. -/
def primitive? : SimpleType → Option Builtin
  | builtin kind => some kind
  | restriction _ base _ => base.primitive?
  | list _ _ => none
  | union _ _ => none

def whiteSpace : SimpleType → WhiteSpace
  | builtin kind => kind.whiteSpace
  | restriction _ base facets =>
    match facets.filterMap fun f => match f.rule with | .whiteSpace w => some w | _ => none with
    | w :: _ => w
    | [] => base.whiteSpace
  | list _ _ => .collapse
  | union _ _ => .preserve

/-- Whether values of a type are treated for white space before they are shown. -/
def showsTreated : SimpleType → Bool
  | restriction _ base facets =>
    (facets.any fun f => f.kind = .pattern || f.kind = .enumeration) || base.showsTreated
  | _ => false

/-- The facets that a type has of its own and from the types it restricts, where a type's own facet
stands for those of the same kind below. Patterns and enumerations are not among them. -/
def bounds : SimpleType → List Facet
  | restriction _ base facets =>
    let own := facets.filter fun f =>
      f.kind != .pattern && f.kind != .enumeration && f.kind != .whiteSpace
    own ++ base.bounds.filter fun f => !own.any fun g => g.kind = f.kind
  | _ => []

/-- The values of the nearest enumeration, with the texts they were written with. -/
def choices : SimpleType → List (List Value × Text)
  | restriction _ base facets =>
    match facets.filterMap fun f =>
      match f.rule with
      | .enumeration values => some (values, f.source)
      | _ => none with
    | [] => base.choices
    | found => found
  | _ => []

def choiceSpace : SimpleType → WhiteSpace
  | restriction _ base facets =>
    if facets.any fun f => f.kind = .enumeration then base.whiteSpace else base.choiceSpace
  | _ => .preserve

/-- The patterns of a type: of the ones of one level a single one has to accept a value. -/
def patterns : SimpleType → List (List (Pattern × Text))
  | restriction _ base facets =>
    match facets.filterMap fun f =>
      match f.rule with
      | .pattern p => some (p, f.source)
      | _ => none with
    | [] => base.patterns
    | found => found :: base.patterns
  | _ => []

def choiceText (treatment : WhiteSpace) (choice : List Value × Text) : Text :=
  match choice.1 with
  | [value] => value.standardForm?.getD (treatment.apply choice.2)
  | _ => treatment.apply choice.2

end SimpleType

inductive Verdict
  | accepted (values : List Value)
  | refused (complaints : List Text)

def Verdict.complaints : Verdict → List Text
  | .accepted _ => []
  | .refused complaints => complaints

namespace Facet

def marked (text : Text) : Text :=
  '\x27' :: text ++ ['\x27']

def opening (kind : FacetKind) : Text :=
  ("[facet '" : Text) ++ kind.toText ++ "'] The value "

def lengthComplaint (facet : Facet) (inAttribute : Bool) (value : Text) (length : Nat) : Text :=
  let rest : Text :=
    match facet.rule with
    | .length _ => "this differs from the allowed length of "
    | .minLength _ => "this underruns the allowed minimum length of "
    | _ => "this exceeds the allowed maximum length of "
  opening facet.kind ++ (if inAttribute then marked value ++ " " else []) ++ "has a length of " ++
    marked (Text.ofNat length) ++ "; " ++ rest ++ marked facet.source ++ "."

def boundComplaint (facet : Facet) (value : Text) : Text :=
  let source := marked facet.source
  let rest : Text :=
    match facet.rule with
    | .minInclusive _ => ("is less than the minimum value allowed (" : Text) ++ source ++ ")"
    | .maxInclusive _ => ("is greater than the maximum value allowed (" : Text) ++ source ++ ")"
    | .minExclusive _ => ("must be greater than " : Text) ++ source
    | .maxExclusive _ => ("must be less than " : Text) ++ source
    | .totalDigits _ => ("has more digits than are allowed (" : Text) ++ source ++ ")"
    | _ => ("has more fractional digits than are allowed (" : Text) ++ source ++ ")"
  opening facet.kind ++ marked value ++ " " ++ rest ++ "."

def allowsLength (facet : Facet) (length : Nat) : Bool :=
  match facet.rule with
  | .length n => length = n
  | .minLength n => n ≤ length
  | .maxLength n => length ≤ n
  | _ => true

/-- Whether a value suits a bound. Values that cannot be compared with the bound do not. -/
def allowsValue (facet : Facet) (value : Value) : Bool :=
  match facet.rule with
  | .minInclusive b => value.order? b = some .gt || value.order? b = some .eq
  | .maxInclusive b => value.order? b = some .lt || value.order? b = some .eq
  | .minExclusive b => value.order? b = some .gt
  | .maxExclusive b => value.order? b = some .lt
  | .totalDigits n => match value with | .decimal d _ => d.digitCount ≤ n | _ => true
  | .fractionDigits n => match value with | .decimal d _ => d.places ≤ n | _ => true
  | _ => true

def complaint? (facet : Facet) (inAttribute : Bool) (shown : Text) (length : Option Nat)
    (value : Value) : Option Text :=
  match length with
  | some n =>
    if !facet.allowsLength n then some (facet.lengthComplaint inAttribute shown n)
    else if facet.allowsValue value then none
    else some (facet.boundComplaint shown)
  | none => if facet.allowsValue value then none else some (facet.boundComplaint shown)

end Facet

namespace SimpleType

def complaint (t : SimpleType) (text : Text) : Text :=
  Facet.marked text ++ " is not a valid value of " ++ t.shown ++ "."

def unboundComplaint (text : Text) : Text :=
  ("The QName value " : Text) ++ Facet.marked text ++
    " has no corresponding namespace declaration in scope."

def choiceComplaints (t : SimpleType) (shown : Text) (values : List Value) : List Text :=
  match t.choices with
  | [] => []
  | choices =>
    if choices.any fun choice => Value.sameRow choice.1 values then []
    else
      let texts := choices.map fun choice => Facet.marked (choiceText t.choiceSpace choice)
      [Facet.opening .enumeration ++ Facet.marked shown ++ " is not an element of the set \x7b" ++
        Text.join ", " texts ++ "\x7d."]

/-- What the patterns of the levels of a type say of a text; the first level that refuses it
decides. -/
def patternComplaints (shown : Text) : List (List (Pattern × Text)) → List Text
  | [] => []
  | level :: levels =>
    if level.any fun p => p.1.accepts shown then patternComplaints shown levels
    else
      let source := (level.getLast?.map (·.2)).getD []
      [Facet.opening .pattern ++ Facet.marked shown ++ " is not accepted by the pattern " ++
        Facet.marked source ++ "."]

def selectionComplaints (t : SimpleType) (shown : Text) (values : List Value) : List Text :=
  t.choiceComplaints shown values ++ patternComplaints shown t.patterns

def verdict (values : List Value) : List Text → Verdict
  | [] => .accepted values
  | complaints => .refused complaints

def lengthOf? (t : SimpleType) (shown : Text) (value : Value) : Option Nat :=
  match value with
  | .text _ =>
    some (match t.primitive? with
      | some .string => (t.whiteSpace.apply shown).length
      | some .anySimpleType => (t.whiteSpace.apply shown).length
      | _ => (WhiteSpace.collapse.apply shown).length)
  | value => value.length?

def judgeAtomic (scope : Xml.Scope) (inAttribute : Bool) (t : SimpleType) (kind : Builtin)
    (shown : Text) : Verdict :=
  match kind.read scope shown with
  | .error .unboundName => .refused [unboundComplaint shown, t.complaint shown]
  | .error .malformed => .refused [t.complaint shown]
  | .ok value =>
    let value := match value with | .text s => .text (t.whiteSpace.apply s) | other => other
    let length := t.lengthOf? shown value
    verdict [value]
      (t.bounds.filterMap (fun f => f.complaint? inAttribute shown length value) ++
        t.selectionComplaints shown [value])

/-- Judges a list by the type `t` when its items are judged by `judge`. The first item that is
refused ends the check. -/
def judgeItems (judge : Text → Verdict) : List Text → Except (List Text) (List Value)
  | [] => .ok []
  | item :: items =>
    match judge item with
    | .refused complaints => .error complaints
    | .accepted values => (judgeItems judge items).map fun more => values ++ more

def judgeList (inAttribute : Bool) (t : SimpleType) (judge : Text → Verdict) (treated : Bool)
    (text : Text) : Verdict :=
  let shown := if treated || !t.showsTreated then text else WhiteSpace.collapse.apply text
  match judgeItems judge (WhiteSpace.words text) with
  | .error complaints => .refused (complaints ++ [t.complaint (WhiteSpace.collapse.apply text)])
  | .ok values =>
    let lengths := t.bounds.filterMap fun f =>
      if f.allowsLength values.length then none
      else some (f.lengthComplaint inAttribute shown values.length)
    verdict values (lengths ++ t.selectionComplaints shown values)

mutual

/-- Judges a text by the type `outer`, whose restrictions have been followed down to a base. -/
def judgeBelow (scope : Xml.Scope) (inAttribute treated : Bool) (text : Text)
    (outer base : SimpleType) : Verdict :=
  match base with
  | builtin kind =>
    match kind.item? with
    | some item =>
      judgeList inAttribute outer
        (fun word => judgeAtomic scope inAttribute (.builtin item) item word) treated text
    | none =>
      let shown := if treated || !outer.showsTreated then text else outer.whiteSpace.apply text
      judgeAtomic scope inAttribute outer kind shown
  | restriction _ base _ => judgeBelow scope inAttribute treated text outer base
  | list _ item =>
    judgeList inAttribute outer
      (fun word => judgeBelow scope inAttribute true word item item) treated text
  | union _ members =>
    match firstAccepting scope text members with
    | none => .refused [outer.complaint text]
    | some (values, shown) => verdict values (outer.selectionComplaints shown values)

/-- The values of the first type that accepts a text, with the text as that type treats it. -/
def firstAccepting (scope : Xml.Scope) (text : Text) :
    List SimpleType → Option (List Value × Text)
  | [] => none
  | t :: ts =>
    let shown := t.whiteSpace.apply text
    match judgeBelow scope false true shown t t with
    | .accepted values => some (values, shown)
    | .refused _ => firstAccepting scope text ts

end

/-- Judges a text by a type. The namespaces in scope matter for values that are names. -/
def judge (t : SimpleType) (scope : Xml.Scope) (inAttribute : Bool) (text : Text) : Verdict :=
  judgeBelow scope inAttribute false text t t

end SimpleType

end XmlCheck.Schema
