import XmlCheck.Pipeline
import XmlCheck.Report

/-!
Many documents, one after the other. A document that cannot be taken through the stages has an
outcome all the same, so that the batch goes on; each outcome is counted and told to the reporter.
-/

namespace XmlCheck

structure Batch where
  store : SchemaStore := {}
  summary : Summary := {}

namespace Batch

def outcomeOf (request : Request) : Except RunFailure Outcome → Outcome
  | .ok outcome => outcome
  | .error failure => .failed request.displayName request.source failure.message none

def settle (pipeline : Pipeline) (tree : FileTree) (here : List Text) (store : SchemaStore) :
    BatchEntry → Outcome × SchemaStore
  | .excluded name => (.excluded name, store)
  | .request request =>
    let (result, store) := pipeline.run tree here store request
    (outcomeOf request result, store)

def handle (pipeline : Pipeline) (tree : FileTree) (here : List Text) (batch : Batch)
    (entry : BatchEntry) : Outcome × Batch :=
  let (outcome, store) := settle pipeline tree here batch.store entry
  (outcome, { store, summary := batch.summary.record outcome })

def steps (pipeline : Pipeline) (tree : FileTree) (here : List Text) (batch : Batch) :
    List BatchEntry → List (ReportEvent × Batch)
  | [] => [(.finish batch.summary, batch)]
  | entry :: entries =>
    let (outcome, batch) := batch.handle pipeline tree here entry
    (.outcome outcome, batch) :: steps pipeline tree here batch entries

def process (pipeline : Pipeline) (tree : FileTree) (here : List Text) (batch : Batch)
    (entries : List BatchEntry) : List (ReportEvent × Batch) :=
  (.start, batch) :: steps pipeline tree here batch entries

/-- Tells a reporter of steps up to the first fault: what it writes, and the last step it was told
of. -/
def tell (reporter : Reporter) (batch : Batch) : List (ReportEvent × Batch) → Written × Batch
  | [] => ({}, batch)
  | (event, next) :: rest =>
    let first := reporter.write event
    match first.fault with
    | some _ => (first, next)
    | none =>
      let (more, last) := tell reporter next rest
      (first.andThen more, last)

def run (pipeline : Pipeline) (tree : FileTree) (here : List Text) (reporter : Reporter)
    (batch : Batch) (entries : List BatchEntry) : Written × Batch :=
  tell reporter batch (batch.process pipeline tree here entries)

def outcomesOf (events : List ReportEvent) : List Outcome :=
  events.filterMap fun
    | .outcome o => some o
    | _ => none

end Batch

end XmlCheck
