import XmlCheck.Schema.Basic

/-!
Which types may stand for others. A type stands for those that it is derived from, as long as no
step on the way is of a blocked kind.
-/

namespace XmlCheck.Schema

namespace SimpleType

def name? : SimpleType → Option Xml.QName
  | builtin _ => none
  | restriction name _ _ => name
  | list name _ => name
  | union name _ => name

/-- Whether two types are the same: the same built-in one, or one name. -/
def isSame : SimpleType → SimpleType → Bool
  | builtin a, builtin b => a = b
  | a, b => a.name?.isSome && a.name? = b.name?

/-- Whether a type is another one or goes back to it. A type of lists or unions goes back to the one
that allows all simple values, and a member of a union may stand for the union. -/
def derivesFrom (t ancestor : SimpleType) : Bool :=
  isSame t ancestor ||
    (match t with
      | builtin kind =>
        match ancestor with
        | builtin above => kind.derivesFrom above
        | _ => false
      | restriction _ base _ => base.derivesFrom ancestor
      | list _ _ => isSame (builtin .anySimpleType) ancestor
      | union _ _ => isSame (builtin .anySimpleType) ancestor) ||
    (match ancestor with
      | union _ members => members.attach.any fun m => t.derivesFrom m.1
      | _ => false)
  termination_by sizeOf t + sizeOf ancestor
  decreasing_by
    all_goals simp_wf
    · omega
    · have := List.sizeOf_lt_of_mem m.2
      omega

end SimpleType

def TypeUse.isSame : TypeUse → TypeUse → Bool
  | .anyType, .anyType => true
  | .complex i, .complex j => i = j
  | .simple a, .simple b => a.isSame b
  | _, _ => false

/-- Whether a type may stand for another one when some kinds of steps are blocked; it takes as many
steps as there are complex types at most. -/
def standsFor (types : Array ComplexType) (blocked : List Derivation) :
    (bound : Nat) → (t ancestor : TypeUse) → Bool
  | 0, t, ancestor => t.isSame ancestor
  | bound + 1, t, ancestor =>
    t.isSame ancestor ||
      match t, ancestor with
      | .simple a, .simple b => !blocked.contains .restriction && a.derivesFrom b
      | .simple _, .anyType => !blocked.contains .restriction
      | .complex i, _ =>
        match types[i]? with
        | none => false
        | some c =>
          !blocked.contains c.derivation &&
            (c.base.isSame ancestor ||
              match c.base with
              | .anyType => false
              | base => standsFor types blocked bound base ancestor)
      | _, _ => false

end XmlCheck.Schema

namespace XmlCheck

open Schema

def Schema.blocked (schema : Schema) (rule : ElementRule) : List Derivation :=
  match rule.type with
  | .complex i => rule.blocked ++ ((schema.complexTypes[i]?.map ComplexType.blocked).getD [])
  | _ => rule.blocked

def Schema.allowsType (schema : Schema) (rule : ElementRule) (t : TypeUse) : Bool :=
  standsFor schema.complexTypes (schema.blocked rule) (schema.complexTypes.size + 1) t rule.type

def Schema.contentOf (schema : Schema) : TypeUse → Content
  | .anyType => .anything
  | .simple t => .simple t
  | .complex i => (schema.complexTypes[i]?.map ComplexType.content).getD .anything

end XmlCheck
