import XmlCheck.Schema.ContentModel

/-!
Runs of content models over children. A plain automaton is run from state to state. With counters,
several ways may lead on, so a run keeps the ways that it has not tried and goes back to the latest
one when it is stuck; the place where it was stuck last tells what was expected.
-/

namespace XmlCheck.Schema

structure ContentModel where
  automaton : Automaton
  isDeterminist : Bool

def ContentModel.ofParticle (p : Particle) : ContentModel :=
  ⟨p.automaton.readied, p.automaton.isDeterminist⟩

structure RunPlace where
  state : Nat := 0
  counts : List Nat := []
  read : Nat := 0

structure RunChoice where
  place : RunPlace
  arcs : List Arc

structure ContentRun where
  place : RunPlace := {}
  choices : List RunChoice := []
  names : Array Xml.QName := #[]

namespace ContentRun

def count (counts : List Nat) (n : Nat) : Nat :=
  counts[n]?.getD 0

def withCount (counts : List Nat) (n value : Nat) : List Nat :=
  (counts ++ List.replicate (n + 1 - counts.length) 0).set n value

def allWithin (a : Automaton) (arcs : List Arc) (counts : List Nat) : Bool :=
  arcs.all fun arc =>
    match arc.counts with
    | some n => (a.counter n).holds (count counts n)
    | none => true

def canTake (a : Automaton) (place : RunPlace) (next : Option Xml.QName) (arc : Arc) : Bool :=
  match arc.symbol, arc.test with
  | some symbol, _ =>
    match next with
    | none => false
    | some name =>
      symbol.label.holds name &&
        match arc.counts with
        | some n => (a.counter n).isOpen (count place.counts n)
        | none => true
  | none, some (.within n) => (a.counter n).holds (count place.counts n)
  | none, some .allWithin => allWithin a (a.state place.state).arcs place.counts
  | none, none => false

/-- The place after an arc. A tested counter starts anew. -/
def afterArc (place : RunPlace) (arc : Arc) : RunPlace :=
  let counts :=
    match arc.counts with
    | some n => withCount place.counts n (count place.counts n + 1)
    | none => place.counts
  let counts :=
    match arc.test with
    | some (.within n) => withCount counts n 0
    | _ => counts
  { state := arc.target, counts, read := place.read + (if arc.symbol.isSome then 1 else 0) }

inductive Found
  | reached (place : RunPlace) (choices : List RunChoice) (use : Option ContentUse)
  | stuck (place : RunPlace)

/-- Searches for a way on until `done` says that a place will do. `fresh` tells whether something
was taken since the run was stuck last, and `stuckAt` is where that was. -/
def search (a : Automaton) (names : Array Xml.QName) (done : RunPlace → Bool) :
    (bound : Nat) → (place : RunPlace) → (arcs : List Arc) → (choices : List RunChoice) →
    (fresh : Bool) → (stuckAt : RunPlace) → (use : Option ContentUse) → Found
  | 0, _, _, _, _, stuckAt, _ => .stuck stuckAt
  | bound + 1, place, [], choices, fresh, stuckAt, use =>
    let stuckAt := if fresh then place else stuckAt
    match choices with
    | [] => .stuck stuckAt
    | choice :: choices =>
      search a names done bound choice.place choice.arcs choices false stuckAt use
  | bound + 1, place, arc :: arcs, choices, fresh, stuckAt, use =>
    if canTake a place names[place.read]? arc then
      let choices := if arcs.isEmpty then choices else ⟨place, arcs⟩ :: choices
      let place := afterArc place arc
      let use := (arc.symbol.map (·.use)).or use
      if done place then .reached place choices use
      else search a names done bound place (a.state place.state).arcs choices true stuckAt use
    else search a names done bound place arcs choices fresh stuckAt use

def searchBound (a : Automaton) (names : Array Xml.QName) : Nat :=
  10000 + 64 * (names.size + 1) * (a.states.foldl (fun n s => n + s.arcs.length) 1)

/-- The labels that are still open at a place, ten at most. -/
def expectedAt (a : Automaton) (place : RunPlace) : List Label :=
  let open? (arc : Arc) : Option Label :=
    match arc.symbol with
    | none => none
    | some symbol =>
      match arc.counts with
      | some n => if (a.counter n).isOpen (count place.counts n) then some symbol.label else none
      | none => some symbol.label
  ((a.state place.state).arcs.filterMap open?).take 10

def expected (model : ContentModel) (run : ContentRun) : List Label :=
  expectedAt model.automaton run.place

def push (model : ContentModel) (run : ContentRun) (name : Xml.QName) :
    Except (List Label) (ContentUse × ContentRun) :=
  let a := model.automaton
  if a.isPlain then
    match (a.state run.place.state).arcs.find? (canTake a run.place (some name)) with
    | some arc =>
      match arc.symbol with
      | some symbol => .ok (symbol.use, { run with place := afterArc run.place arc })
      | none => .error (expectedAt a run.place)
    | none => .error (expectedAt a run.place)
  else
    let names := run.names.push name
    let done (place : RunPlace) : Bool := place.read = names.size
    match search a names done (searchBound a names) run.place (a.state run.place.state).arcs
      run.choices true run.place none with
    | .reached place choices use => .ok (use.getD (.wild .skip), ⟨place, choices, names⟩)
    | .stuck place => .error (expectedAt a place)

def canEnd (model : ContentModel) (run : ContentRun) : Bool :=
  let a := model.automaton
  if (a.state run.place.state).accepts then true
  else if a.isPlain then false
  else
    let done (place : RunPlace) : Bool :=
      place.read = run.names.size && (a.state place.state).accepts
    match search a run.names done (searchBound a run.names) run.place
      (a.state run.place.state).arcs run.choices true run.place none with
    | .reached _ _ _ => true
    | .stuck _ => false

end ContentRun

end XmlCheck.Schema
