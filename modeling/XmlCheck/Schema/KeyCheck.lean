import XmlCheck.Schema.AttributeCheck

/-!
Keys of documents. The elements below a place are known by the rows of names that lead to them;
fields are looked up among them, and the keys that were found are kept for the references to them.
-/

namespace XmlCheck.Schema

/-- What is known of the value of an element: it is known, was refused, or is no single value. -/
inductive FieldValue
  | known (value : TypedValue)
  | refused
  | compound

structure CheckedElement where
  spot : Spot
  attributes : List (Xml.QName × TypedValue)
  value : FieldValue

/-- Elements with the rows of names that lead to them from one place. -/
abbrev Rows := List (List Xml.QName × CheckedElement)

/-- The rows as they are seen from the element above the place. -/
def Rows.below (name : Xml.QName) (rows : Rows) : Rows :=
  rows.map fun row => (name :: row.1, row.2)

def KeyPath.valuesAt (path : KeyPath) (row : List Xml.QName) (e : CheckedElement) :
    List (Spot × FieldValue) :=
  if !path.leadsTo row then []
  else
    match path.attributeTest with
    | none => [(e.spot, e.value)]
    | some test =>
      (e.attributes.filter fun a => test.holds a.1).map fun a => (e.spot.at a.1, .known a.2)

def KeyField.values (field : KeyField) (rows : Rows) : List (Spot × FieldValue) :=
  rows.flatMap fun row =>
    match field.paths.map fun path => path.valuesAt row.1 row.2 with
    | [] => []
    | found => (found.find? fun values => !values.isEmpty).getD []

def KeyRule.shown (rule : KeyRule) : Text :=
  let kind : ComponentKind :=
    match rule.kind with
    | .unique => .unique
    | .key => .key
    | .reference _ => .keyReference
  kind.toText ++ " " ++ Facet.marked rule.name.toText

structure KeyEntry where
  spot : Spot
  values : List TypedValue

def KeyEntry.same (a b : KeyEntry) : Bool :=
  a.values.length = b.values.length &&
    (a.values.zip b.values).all fun pair => pair.1.same pair.2

/-- The value of a field, and what is wrong with it: of several values the first one counts. -/
def KeyField.value (field : KeyField) (key : Text) (rows : Rows) :
    Option TypedValue × List Violation :=
  (field.values rows).foldl
    (fun (acc : Option TypedValue × List Violation) (found : Spot × FieldValue) =>
      match found.2, acc.1 with
      | .compound, _ => (acc.1, acc.2 ++ [⟨found.1, .compoundField field.source key⟩])
      | .refused, _ => (acc.1, acc.2 ++ [⟨found.1, .refusedField⟩])
      | .known value, none => (some value, acc.2)
      | .known _, some _ => (acc.1, acc.2 ++ [⟨found.1, .manyFieldValues field.source key⟩]))
    (none, [])

/-- What a rule says of an element that it selects, in view of the keys found before. -/
def KeyRule.check (rule : KeyRule) (spot : Spot) (rows : Rows) (before : List KeyEntry) :
    Option KeyEntry × List Violation :=
  let fields := rule.fields.map fun field => field.value rule.shown rows
  let faults := fields.flatMap (·.2)
  match fields.mapM (·.1), rule.kind with
  | none, .key => (none, faults ++ [⟨spot, .incompleteKey rule.shown⟩])
  | none, _ => (none, faults)
  | some values, kind =>
    let entry : KeyEntry := ⟨spot, values⟩
    if kind.isTarget && before.any entry.same then
      (none, faults ++ [⟨spot, .doubleKey (values.map (·.shown)) rule.shown⟩])
    else (some entry, faults)

def KeyRule.dangling (rule : KeyRule) (references keys : List KeyEntry) : List Violation :=
  (references.filter fun r => !keys.any r.same).map fun r =>
    ⟨r.spot, .danglingReference (r.values.map (·.shown)) rule.name.toText⟩

end XmlCheck.Schema
