import XmlCheck.Schema.Automaton

/-!
Content models: which children an element may have. A model is a particle, that is an element, a
wildcard or a group, each with how often it may occur; `automaton` builds the automaton of a
particle.
-/

namespace XmlCheck.Schema

structure Occurrence where
  least : Nat := 1
  most : Option Nat := some 1
  deriving DecidableEq, Repr

namespace Occurrence

def isSingle (o : Occurrence) : Bool :=
  o.most = some 1

/-- The bounds for how often something is repeated after its first occurrence. -/
def repeats (o : Occurrence) : Counter :=
  ⟨o.least - 1, o.most.map (· - 1)⟩

end Occurrence

inductive GroupOrder
  | sequence
  | choice
  | all
  deriving DecidableEq, Repr

structure ElementUse where
  name : Xml.QName
  index : Nat
  isAbstract : Bool := false

/-- What may stand in an element. An element that others may substitute holds these as members. -/
inductive Particle
  | element (occurrence : Occurrence) (use : ElementUse) (isHead : Bool)
    (members : List ElementUse)
  | wildcard (occurrence : Occurrence) (labels : List Label) (processing : Processing)
  | group (occurrence : Occurrence) (order : GroupOrder) (particles : List Particle)

structure Construction where
  automaton : Automaton := {}
  reached : Nat := 0

namespace Construction

abbrev Build := StateM Construction

def place : Build Nat := do
  return (← get).reached

def goTo (n : Nat) : Build Unit :=
  modify fun c => { c with reached := n }

def newState : Build Nat := do
  let c ← get
  let a := c.automaton
  set { c with automaton := { a with states := a.states.push {} } }
  return a.states.size

def newCounter (counter : Counter) : Build Nat := do
  let c ← get
  let a := c.automaton
  set { c with automaton := { a with counters := a.counters.push counter } }
  return a.counters.size

def arc (source : Nat) (arc : Arc) : Build Unit :=
  modify fun c => { c with automaton := c.automaton.addArc source arc }

def skip (source target : Nat) : Build Unit :=
  arc source { target }

def skipToNew (source : Nat) : Build Nat := do
  let n ← newState
  skip source n
  return n

def read (source target : Nat) (label : Label) (use : ContentUse) (counts : Option Nat) :
    Build Unit := do
  let c ← get
  let a := c.automaton
  let symbol : Symbol := ⟨label, use, a.symbols.length⟩
  set { c with automaton := { a with symbols := a.symbols ++ [symbol] } }
  arc source { target, symbol := some symbol, counts }

def readToNew (source : Nat) (label : Label) (use : ContentUse) : Build Nat := do
  let n ← newState
  read source n label use none
  return n

/-- A way back that counts, and a way on that tests the count. -/
def loop (source back onward counter : Nat) : Build Unit := do
  arc source { target := back, counts := some counter }
  arc source { target := onward, test := some (.within counter) }

def loopToNew (source back counter : Nat) : Build Nat := do
  arc source { target := back, counts := some counter }
  let n ← newState
  arc source { target := n, test := some (.within counter) }
  return n

def oneOf (o : Occurrence) (symbols : List (Label × ContentUse)) : Build Bool := do
  let start ← place
  let stop ← newState
  if o.isSingle then
    for s in symbols do
      skip (← readToNew start s.1 s.2) stop
  else
    let counter ← newCounter o.repeats
    let hop ← newState
    for s in symbols do
      skip (← readToNew start s.1 s.2) hop
    loop hop start stop counter
  if o.least = 0 then
    skip start stop
  goTo stop
  return o.least = 0

def element (o : Occurrence) (use : ElementUse) : Build Bool := do
  let label := Label.name use.name
  let target := ContentUse.declared use.index
  let here ← place
  if use.isAbstract then return false
  else
    let start ←
      if o.isSingle then do
        goTo (← readToNew here label target)
        pure here
      else if o.most.isNone && o.least < 2 then do
        let n ← readToNew here label target
        read n n label target none
        goTo n
        pure here
      else do
        let start ← skipToNew here
        let counter ← newCounter o.repeats
        let n ← readToNew start label target
        goTo (← loopToNew n start counter)
        pure start
    if o.least = 0 then
      skip start (← place)
    return o.least = 0

/-- An element of a group whose members come in any order, at the one state of the group. -/
def unordered (centre : Nat) (o : Occurrence) (use : ElementUse) : Build Unit := do
  let counter ← newCounter ⟨o.least, o.most⟩
  read centre centre (.name use.name) (.declared use.index) (some counter)

def unorderedAll (centre : Nat) : List Particle → Build Unit
  | [] => return
  | .element o use _ _ :: rest => do
    unordered centre o use
    unorderedAll centre rest
  | _ :: rest => unorderedAll centre rest

def allGroup (o : Occurrence) (particles : List Particle) : Build Bool := do
  if particles.isEmpty then return true
  else
    let start ← place
    let centre ← skipToNew start
    unorderedAll centre particles
    let stop ← newState
    arc centre { target := stop, test := some .allWithin }
    if o.least = 0 then
      skip start stop
    goTo stop
    return o.least = 0

/-- A sequence whose members `members` builds; they say whether each may be missing. -/
def sequence (o : Occurrence) (members : Build Bool) : Build Bool := do
  let start ← place
  if o = {} then members
  else if o.most.isNone && o.least < 2 then do
    let inner ← skipToNew start
    goTo inner
    let empty ← members
    let last ← place
    skip last inner
    let stop ← skipToNew last
    if o.least = 0 then
      skip inner stop
    goTo stop
    return empty || o.least = 0
  else if o.isSingle then do
    let empty ← members
    let stop ← skipToNew (← place)
    if o.least = 0 then
      skip start stop
    goTo stop
    return empty || o.least = 0
  else do
    let inner ← skipToNew start
    goTo inner
    let counter ← newCounter o.repeats
    let empty ← members
    let stop ← loopToNew (← place) inner counter
    if empty || o.least = 0 then
      skip inner stop
    goTo stop
    return empty || o.least = 0

/-- A choice whose members `members` builds, from a state to another one; they say whether one may
be missing. -/
def choice (o : Occurrence) (members : (start stop : Nat) → Build Bool) : Build Bool := do
  let start ← place
  let stop ← newState
  let empty ←
    if o.isSingle then members start stop
    else do
      let counter ← newCounter o.repeats
      let hop ← newState
      let base ← newState
      let empty ← members base hop
      skip start base
      loop hop base stop counter
      if empty then
        skip base stop
      pure empty
  if o.least = 0 then
    skip start stop
  goTo stop
  return empty || o.least = 0

mutual

/-- Builds a particle; says whether it may be missing. -/
def particle : Particle → Build Bool
  | .element o use isHead members =>
    if isHead then
      oneOf o ((use :: members).map fun u => (.name u.name, .declared u.index))
    else element o use
  | .wildcard o labels processing => oneOf o (labels.map fun label => (label, .wild processing))
  | .group o order particles =>
    match order with
    | .sequence => sequence o (inSequence particles)
    | .choice => choice o fun start stop => inChoice start stop particles
    | .all => allGroup o particles

def inSequence : List Particle → Build Bool
  | [] => return true
  | p :: rest => do
    let empty ← particle p
    let others ← inSequence rest
    return empty && others

def inChoice (start stop : Nat) : List Particle → Build Bool
  | [] => return false
  | p :: rest => do
    goTo start
    let empty ← particle p
    skip (← place) stop
    let others ← inChoice start stop rest
    return empty || others

end

end Construction

def Particle.automaton (p : Particle) : Automaton :=
  let c := (StateT.run (Construction.particle p) {} : Id _).2
  let a := c.automaton
  let states := a.states.modify c.reached fun s => { s with accepts := true }
  Automaton.withoutEmptyArcs { a with states }

end XmlCheck.Schema
