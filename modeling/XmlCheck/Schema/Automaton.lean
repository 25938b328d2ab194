import XmlCheck.Xml.Node

/-!
Automata for the children of an element. An arc reads a child or, to be taken without reading, tests
a counter; arcs may also count. Construction leaves empty arcs, which do neither; they are removed
here, so that what is left can be run and the names that a state expects can be listed.
-/

namespace XmlCheck.Schema

inductive Processing
  | strict
  | lax
  | skip
  deriving DecidableEq, Repr

inductive ContentUse
  | declared (index : Nat)
  | wild (processing : Processing)
  deriving DecidableEq, Repr

/-- The names that an arc reads: a single one, or all those of some namespaces. -/
inductive Label
  | name (name : Xml.QName)
  | anySpace
  | noSpace
  | inSpace (space : Text)
  | otherThan (space : Option Text)
  deriving DecidableEq, Repr

namespace Label

def holds (label : Label) (q : Xml.QName) : Bool :=
  match label with
  | .name n => n = q
  | .anySpace => q.space.isSome
  | .noSpace => q.space = none
  | .inSpace space => q.space = some space
  | .otherThan space => q.space.isSome && q.space != space

def shown : Label → Text
  | .name n => n.toText
  | .anySpace => "\x7b*\x7d*"
  | .noSpace => ['*']
  | .inSpace space => '\x7b' :: space ++ "\x7d*"
  | .otherThan none => "##other*"
  | .otherThan (some space) => ("##other\x7b" : Text) ++ space ++ "\x7d*"

def positive : Label → Label × Bool
  | .otherThan none => (.noSpace, true)
  | .otherThan (some space) => (.inSpace space, true)
  | label => (label, false)

def meet : Label → Label → Bool
  | .name a, .name b => a = b
  | .name a, b => b.holds a
  | a, .name b => a.holds b
  | .noSpace, b => b = .noSpace
  | a, .noSpace => a = .noSpace
  | .inSpace a, .inSpace b => a = b
  | _, _ => true

def overlap (a b : Label) : Bool :=
  let x := a.positive
  let y := b.positive
  if x.2 = y.2 then meet x.1 y.1 else !meet x.1 y.1

end Label

structure Symbol where
  label : Label
  use : ContentUse
  number : Nat
  deriving DecidableEq, Repr

inductive CountTest
  | within (counter : Nat)
  | allWithin
  deriving DecidableEq, Repr

structure Arc where
  target : Nat
  symbol : Option Symbol := none
  counts : Option Nat := none
  test : Option CountTest := none
  deriving DecidableEq, Repr

def Arc.isEmpty (arc : Arc) : Bool :=
  arc.symbol.isNone && arc.test.isNone

structure AutomatonState where
  arcs : List Arc := []
  accepts : Bool := false
  redirected : Bool := false

structure Counter where
  least : Nat
  most : Option Nat

def Counter.holds (counter : Counter) (count : Nat) : Bool :=
  counter.least ≤ count && ((counter.most.map fun m => decide (count ≤ m)).getD true)

def Counter.isOpen (counter : Counter) (count : Nat) : Bool :=
  (counter.most.map fun m => decide (count < m)).getD true

/-- An automaton; the state 0 is the one to start in. -/
structure Automaton where
  states : Array AutomatonState := #[{}]
  counters : Array Counter := #[]
  symbols : List Symbol := []

namespace Automaton

def state (a : Automaton) (n : Nat) : AutomatonState :=
  a.states[n]?.getD {}

def counter (a : Automaton) (n : Nat) : Counter :=
  a.counters[n]?.getD ⟨0, none⟩

def withArc (arcs : List Arc) (arc : Arc) : List Arc :=
  if arcs.contains arc then arcs else arcs ++ [arc]

def addArc (a : Automaton) (source : Nat) (arc : Arc) : Automaton :=
  { a with states := a.states.modify source fun s => { s with arcs := withArc s.arcs arc } }

def redirect (source target : Nat) (s : AutomatonState) : AutomatonState :=
  let moved := s.arcs.filter fun arc => arc.target = source
  if moved.isEmpty then s
  else
    let kept := s.arcs.filter fun arc => arc.target != source
    { s with
      arcs := (moved.map fun arc => { arc with target }).foldl withArc kept
      redirected := true }

/-- Where a state leads that has a single arc which is empty and does not count. -/
def passage? (s : AutomatonState) (n : Nat) : Option Nat :=
  match s.arcs with
  | [arc] =>
    if !s.redirected && arc.isEmpty && arc.counts.isNone && arc.target != n then some arc.target
    else none
  | _ => none

/-- Takes a state out that is a mere passage to another one. -/
def bypass (a : Automaton) (n : Nat) : Automaton :=
  match if n = 0 then none else passage? (a.state n) n with
  | none => a
  | some target =>
    let accepts := (a.state n).accepts
    let states := a.states.map (redirect n target)
    let states := states.modify n fun _ => {}
    { a with states := states.modify target fun s => { s with accepts := s.accepts || accepts } }

/-- The arcs that a state takes over from another one to which an empty arc leads. -/
structure Takeover where
  seen : List Nat
  arcs : List Arc := []
  accepts : Bool := false

/-- Collects what `source` takes over from `place`; `counts` is the counter of the arc that led
there. -/
def takeOver (a : Automaton) (source : Nat) :
    (bound : Nat) → (place : Nat) → (counts : Option Nat) → Takeover → Takeover
  | 0, _, _, t => t
  | bound + 1, place, counts, t =>
    if t.seen.contains place then t
    else
      let s := a.state place
      let t := { t with seen := place :: t.seen, accepts := t.accepts || s.accepts }
      s.arcs.foldl
        (fun t arc =>
          let inner := arc.counts.or counts
          match arc.symbol, arc.test with
          | some _, _ => { t with arcs := t.arcs ++ [{ arc with counts := inner, test := none }] }
          | none, some test =>
            if arc.target = source then t
            else { t with arcs := t.arcs ++ [{ target := arc.target, test := some test }] }
          | none, none =>
            if arc.target = source then t else takeOver a source bound arc.target inner t)
        t

/-- Replaces the empty arcs of a state by what they lead to. -/
def settle (a : Automaton) (n : Nat) : Automaton :=
  let s := a.state n
  let kept := s.arcs.filter fun arc => !(arc.symbol.isNone && (arc.isEmpty || arc.target = n))
  let empty := s.arcs.filter fun arc => arc.isEmpty && arc.target != n
  let settled := empty.foldl
    (fun (s : AutomatonState) arc =>
      let t := a.takeOver n (a.states.size + 1) arc.target arc.counts { seen := [n] }
      { s with arcs := t.arcs.foldl withArc s.arcs, accepts := s.accepts || t.accepts })
    { s with arcs := kept }
  { a with states := a.states.modify n fun _ => settled }

def reachFrom (a : Automaton) : (bound : Nat) → (found : List Nat) → List Nat
  | 0, found => found
  | bound + 1, found =>
    let next := (found.flatMap fun n => (a.state n).arcs.map (·.target)).eraseDups
    let new := next.filter fun n => !found.contains n
    if new.isEmpty then found else reachFrom a bound (found ++ new)

def withoutEmptyArcs (a : Automaton) : Automaton :=
  let numbers := List.range a.states.size
  let a := numbers.foldl bypass a
  let a := numbers.reverse.foldl settle a
  let reached := a.reachFrom a.states.size [0]
  { a with states := a.states.mapIdx fun n s => if reached.contains n then s else {} }

/-- Whether nothing is counted and nothing is excluded, so that a state and a name decide. -/
def isPlain (a : Automaton) : Bool :=
  a.counters.isEmpty && !a.symbols.isEmpty && a.symbols.all fun s => !s.label.positive.2

def labelsDecide (a : Automaton) : Bool :=
  a.states.all fun s => s.arcs.all fun x => s.arcs.all fun y =>
    x.symbol.map (·.label) != y.symbol.map (·.label) || x.target = y.target

def sameLabel (x y : Arc) : Bool :=
  x.symbol.map (·.label) = y.symbol.map (·.label)

/-- The arcs of a state without those that a later arc repeats. -/
def withoutRepeats : List Arc → List Arc
  | [] => []
  | arc :: arcs =>
    let repeated := arc.symbol.isSome && arcs.any fun x =>
      sameLabel x arc && x.target = arc.target && x.counts = arc.counts && x.test = arc.test
    if repeated then withoutRepeats arcs else arc :: withoutRepeats arcs

def arcsOverlap (x y : Arc) : Bool :=
  match x.symbol, y.symbol with
  | some s, some t => s.label.overlap t.label
  | _, _ => false

/-- Whether an arc that reads conflicts with those found behind the tests from a state on. -/
def conflictsBehind (a : Automaton) (source : Nat) (arc : Arc) :
    (bound : Nat) → (place : Nat) → Bool
  | 0, _ => false
  | bound + 1, place =>
    (a.state place).arcs.any fun x =>
      if x.target = source then false
      else if x.symbol.isNone then conflictsBehind a source arc bound x.target
      else arcsOverlap x arc && (x.target != arc.target || !sameLabel x arc)

def conflicts (a : Automaton) (source : Nat) (arc before : Arc) : Bool :=
  if arc.symbol.isNone then false
  else if before.symbol.isNone then
    a.conflictsBehind source arc a.states.size before.target
  else
    arcsOverlap arc before &&
      (arc.target != before.target || arc.counts = before.counts || !sameLabel arc before)

def anyConflict (a : Automaton) (source : Nat) : (before : List Arc) → List Arc → Bool
  | _, [] => false
  | before, arc :: arcs =>
    before.any (a.conflicts source arc) || anyConflict a source (before ++ [arc]) arcs

/-- Whether each child can be read in one way only. -/
def isDeterminist (a : Automaton) : Bool :=
  if a.isPlain then a.labelsDecide
  else
    let states := a.states.map fun s => { s with arcs := withoutRepeats s.arcs }
    let a := { a with states }
    (List.range a.states.size).all fun n => !a.anyConflict n [] (a.state n).arcs

def labels (a : Automaton) : List Label :=
  (a.symbols.map (·.label)).eraseDups

/-- The automaton made ready to be run: a plain one with one arc for each label of a state, in the
order of the labels, and any other one without repeated arcs. -/
def readied (a : Automaton) : Automaton :=
  let labels := a.labels
  let ordered (s : AutomatonState) : List Arc :=
    if a.isPlain then
      labels.filterMap fun label => s.arcs.find? fun arc => arc.symbol.map (·.label) = some label
    else withoutRepeats s.arcs
  { a with states := a.states.map fun s => { s with arcs := ordered s } }

end Automaton

end XmlCheck.Schema
