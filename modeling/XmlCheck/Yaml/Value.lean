import XmlCheck.Text.Sextet
import XmlCheck.Yaml.Joining
import XmlCheck.Yaml.Number

/-!
From the tree of a settings text to the data that it stands for.
-/

namespace XmlCheck.Yaml

inductive YamlError
  | fault (fault : YamlFault)
  | value (fault : ValueFault)
  deriving DecidableEq, Repr

/-- A number as a fraction of a power of ten. -/
def fraction? : Datum → Option (Int × Nat)
  | .flag value => some (if value then 1 else 0, 0)
  | .integer value => some (value, 0)
  | .decimal mantissa places => some (mantissa, places)
  | _ => none

mutual

/-- Whether two keys are the same. Numbers and flags are compared by value. -/
def isSame : Datum → Datum → Bool
  | .text a, .text b => a == b
  | .null, .null => true
  | .octets a, .octets b => a == b
  | .list as, .list bs => areSame as bs
  | .foreign a, .foreign b => a == b
  | a, b =>
    match fraction? a, fraction? b with
    | some (m, p), some (n, q) => m * Nat.pow 10 q == n * Nat.pow 10 p
    | _, _ => false

def areSame : List Datum → List Datum → Bool
  | [], [] => true
  | a :: as, b :: bs => isSame a b && areSame as bs
  | _, _ => false

end

def isSimple : Datum → Bool
  | .list _ | .mapping _ => false
  | _ => true

/-- A datum as the key of a mapping: a list may be one if its items are simple. -/
def asKey (key : Datum) : Except YamlError Datum :=
  match key with
  | .mapping _ => .error (.fault .mappingAsKey)
  | .list keys => if keys.all isSimple then .ok key else .error (.value .nestedKey)
  | _ => .ok key

/-- Entries with one more. The value of a key that is there already takes the place of the old one
if the mapping is joined from others, and is a fault otherwise. -/
def putEntry (isJoined : Bool) (key value : Datum) (entries : List (Datum × Datum)) :
    Except YamlError (List (Datum × Datum)) :=
  if entries.any fun e => isSame e.1 key then
    if isJoined then .ok (entries.map fun e => if isSame e.1 key then (e.1, value) else e)
    else .error (.fault .doubleKey)
  else .ok (entries ++ [(key, value)])

def putAll (isJoined : Bool) : (entries more : List (Datum × Datum)) →
    Except YamlError (List (Datum × Datum))
  | entries, [] => .ok entries
  | entries, (key, value) :: more => do
    let key ← asKey key
    putAll isJoined (← putEntry isJoined key value entries) more

def octetsDatum (text : Text) : Except YamlError Datum :=
  match Text.octets? text with
  | some octets => .ok (.octets (octets.map UInt8.ofNat))
  | none => .error (.fault .wrongKind)

def scalarDatum (tag : Tag) (text : Text) : Except YamlError Datum :=
  let value (result : Except ValueFault Datum) : Except YamlError Datum := result.mapError .value
  match tag with
  | .null => .ok .null
  | .flag => value (Number.flag text)
  | .integer => value (Number.integer text)
  | .decimal => value (Number.decimal text)
  | .moment =>
    match Moment.ofText? text with
    | some moment => value (Number.moment moment)
    | none => .error (.fault .wrongKind)
  | .octets => octetsDatum text
  | .text => .ok (.text text)
  | .other name => .error (.fault (.unknownTag name))
  | .merge | .value => .error (.fault (.unknownTag text))
  | .sequence | .mapping | .orderedMapping | .pairs | .set => .error (.fault .wrongKind)

def pairsOf : List Datum → Except YamlError (List (Datum × Datum))
  | [] => .ok []
  | .mapping [entry] :: rest => (pairsOf rest).map (entry :: ·)
  | _ => .error (.fault .wrongKind)

def sequenceDatum (tag : Tag) (values : List Datum) : Except YamlError Datum :=
  match tag with
  | .sequence => .ok (.list values)
  | .pairs => (pairsOf values).map fun pairs => .list (pairs.map fun p => .list [p.1, p.2])
  | .orderedMapping => do
    .ok (.mapping (← putAll false [] (← pairsOf values)))
  | .other name => .error (.fault (.unknownTag name))
  | _ => .error (.fault .wrongKind)

/-- The datum of a mapping. A set is the list of its keys. -/
def mappingDatum (tag : Tag) (entries : List (Datum × Datum)) : Except YamlError Datum :=
  match tag with
  | .mapping => .ok (.mapping entries)
  | .set => .ok (.list (entries.map (·.1)))
  | .other name => .error (.fault (.unknownTag name))
  | _ => .error (.fault .wrongKind)

mutual

def datumOf : Node → Except YamlError Datum
  | .scalar tag text => scalarDatum tag text
  | .sequence tag nodes => do sequenceDatum tag (← dataOf nodes)
  | .mapping tag isJoined entries => do
    mappingDatum tag (← putAll isJoined [] (← entriesOf entries))
  | .enclosing => .ok (.foreign [])

def dataOf : List Node → Except YamlError (List Datum)
  | [] => .ok []
  | node :: nodes => do .ok ((← datumOf node) :: (← dataOf nodes))

def entriesOf : List (Node × Node) → Except YamlError (List (Datum × Datum))
  | [] => .ok []
  | (key, value) :: entries => do
    .ok ((← datumOf key, ← datumOf value) :: (← entriesOf entries))

end

/-- The data that a settings text stands for. A text without a document stands for null. -/
def read (text : Text) : Except YamlError Datum := do
  match ← ((tokens text).bind Node.ofTokens).mapError .fault with
  | none => .ok .null
  | some node => datumOf (← node.joined.mapError .fault)

end XmlCheck.Yaml
