import XmlCheck.Batch
import XmlCheck.Proofs.Stages
import Mathlib.Data.List.Basic
import Mathlib.Data.List.Count

/-!
# What a batch tells its reporter

A batch gives one outcome for each entry, in the order of the entries, and a request that cannot be
taken through the stages has an outcome like any other. The counts are never kept by hand: each
event changes them as `Follows` says, and `Follows` holds of every prefix of what any calls tell. So
the counts of a batch are those of the outcomes told so far, at each moment, also when the reporter
itself faults in the middle of a call.
-/

namespace XmlCheck

namespace Batch

def faultOutcome (request : Request) (failure : RunFailure) : Outcome :=
  { file := request.displayName
    isValid := false
    diagnostics := [⟨request.displayName, 0,
      Message.dropLineEnds (("Could not process " : Text) ++ request.source ++ ". Error: " ++
        failure.message), .error⟩]
    schema := none
    counted := true }

theorem outcomeOf_error (request : Request) (failure : RunFailure) :
    outcomeOf request (.error failure) = faultOutcome request failure := rfl

section Entries

variable (pipeline : Pipeline) (tree : FileTree) (here : List Text)

theorem handle_eq (batch : Batch) (entry : BatchEntry) :
    batch.handle pipeline tree here entry =
      ((settle pipeline tree here batch.store entry).1,
        { store := (settle pipeline tree here batch.store entry).2
          summary := batch.summary.record (settle pipeline tree here batch.store entry).1 }) := rfl

theorem settle_request (store : SchemaStore) (request : Request) :
    settle pipeline tree here store (.request request) =
      (outcomeOf request (pipeline.run tree here store request).1,
        (pipeline.run tree here store request).2) := rfl

theorem file_settle (store : SchemaStore) (entry : BatchEntry) :
    (settle pipeline tree here store entry).1.file = entry.displayName := by
  cases entry with
  | excluded name => rfl
  | request request =>
      rw [settle_request]
      cases hrun : (pipeline.run tree here store request).1 with
      | error failure => rfl
      | ok outcome => exact Pipeline.file_of_run hrun

def outcomes (batch : Batch) : List BatchEntry → List Outcome
  | [] => []
  | entry :: entries =>
    (batch.handle pipeline tree here entry).1 ::
      outcomes (batch.handle pipeline tree here entry).2 entries

def after (batch : Batch) : List BatchEntry → Batch
  | [] => batch
  | entry :: entries => after (batch.handle pipeline tree here entry).2 entries

theorem after_append (batch : Batch) (first second : List BatchEntry) :
    batch.after pipeline tree here (first ++ second) =
      (batch.after pipeline tree here first).after pipeline tree here second := by
  induction first generalizing batch with
  | nil => rfl
  | cons entry entries ih => exact ih _

theorem outcomes_append (batch : Batch) (first second : List BatchEntry) :
    batch.outcomes pipeline tree here (first ++ second) =
      batch.outcomes pipeline tree here first ++
        (batch.after pipeline tree here first).outcomes pipeline tree here second := by
  induction first generalizing batch with
  | nil => rfl
  | cons entry entries ih => exact congrArg _ (ih _)

theorem map_file_outcomes (batch : Batch) (entries : List BatchEntry) :
    (batch.outcomes pipeline tree here entries).map Outcome.file =
      entries.map BatchEntry.displayName := by
  induction entries generalizing batch with
  | nil => rfl
  | cons entry entries ih =>
      have hfile : (batch.handle pipeline tree here entry).1.file = entry.displayName :=
        file_settle pipeline tree here batch.store entry
      rw [outcomes, List.map_cons, List.map_cons, hfile, ih]

theorem map_fst_steps (batch : Batch) (entries : List BatchEntry) :
    (batch.steps pipeline tree here entries).map Prod.fst =
      (batch.outcomes pipeline tree here entries).map .outcome ++
        [.finish (batch.after pipeline tree here entries).summary] := by
  induction entries generalizing batch with
  | nil => rfl
  | cons entry entries ih => exact congrArg _ (ih _)

theorem map_fst_process (batch : Batch) (entries : List BatchEntry) :
    (batch.process pipeline tree here entries).map Prod.fst =
      .start :: ((batch.outcomes pipeline tree here entries).map .outcome ++
        [.finish (batch.after pipeline tree here entries).summary]) :=
  congrArg _ (map_fst_steps pipeline tree here batch entries)

end Entries

/-! ### What calls tell -/

inductive Call
  | one (request : Request)
  | excluded (displayName : Text)
  | process (entries : List BatchEntry)
  | finish

def call (pipeline : Pipeline) (tree : FileTree) (here : List Text) (batch : Batch) :
    Call → List (ReportEvent × Batch)
  | .one request =>
    [(.outcome (batch.handle pipeline tree here (.request request)).1,
      (batch.handle pipeline tree here (.request request)).2)]
  | .excluded name =>
    [(.outcome (batch.handle pipeline tree here (.excluded name)).1,
      (batch.handle pipeline tree here (.excluded name)).2)]
  | .process entries => batch.process pipeline tree here entries
  | .finish => [(.finish batch.summary, batch)]

/-- The steps that a reporter is told of: those up to the first at which it faults. -/
def heard (reporter : Reporter) : List (ReportEvent × Batch) → List (ReportEvent × Batch)
  | [] => []
  | step :: steps =>
    match (reporter.write step.1).fault with
    | some _ => [step]
    | none => step :: heard reporter steps

/-- The steps that a reporter is told of during calls, each made on the files of its time. -/
def calls (pipeline : Pipeline) (here : List Text) (reporter : Reporter) (batch : Batch) :
    List (FileTree × Call) → List (ReportEvent × Batch)
  | [] => []
  | (tree, next) :: rest =>
    let steps := batch.call pipeline tree here next
    heard reporter steps ++ calls pipeline here reporter (tell reporter batch steps).2 rest

def standing (batch : Batch) (steps : List (ReportEvent × Batch)) : Batch :=
  steps.foldl (fun _ step => step.2) batch

/-- Each step leaves the counts that its event asks for, and the end of a batch is told with the
counts as they stand. -/
inductive Follows : Batch → List (ReportEvent × Batch) → Prop
  | nil {batch : Batch} : Follows batch []
  | start {batch next : Batch} {steps : List (ReportEvent × Batch)}
    (summary_eq : next.summary = batch.summary) (rest : Follows next steps) :
    Follows batch ((.start, next) :: steps)
  | outcome {batch next : Batch} {steps : List (ReportEvent × Batch)} {outcome : Outcome}
    (summary_eq : next.summary = batch.summary.record outcome) (rest : Follows next steps) :
    Follows batch ((.outcome outcome, next) :: steps)
  | finish {batch next : Batch} {steps : List (ReportEvent × Batch)}
    (summary_eq : next.summary = batch.summary) (rest : Follows next steps) :
    Follows batch ((.finish next.summary, next) :: steps)

theorem Follows.append {batch : Batch} {first second : List (ReportEvent × Batch)}
    (hfirst : Follows batch first) (hsecond : Follows (standing batch first) second) :
    Follows batch (first ++ second) := by
  induction hfirst with
  | nil => exact hsecond
  | start hsummary _ ih => exact .start hsummary (ih hsecond)
  | outcome hsummary _ ih => exact .outcome hsummary (ih hsecond)
  | finish hsummary _ ih => exact .finish hsummary (ih hsecond)

theorem Follows.of_append {batch : Batch} {first second : List (ReportEvent × Batch)}
    (hfollows : Follows batch (first ++ second)) : Follows batch first := by
  induction first generalizing batch with
  | nil => exact .nil
  | cons step rest ih =>
      cases hfollows with
      | start hsummary hrest => exact .start hsummary (ih hrest)
      | outcome hsummary hrest => exact .outcome hsummary (ih hrest)
      | finish hsummary hrest => exact .finish hsummary (ih hrest)

/-- The end of a batch is always told with the counts of that moment. -/
theorem Follows.finish_eq {batch next : Batch} {steps : List (ReportEvent × Batch)}
    {summary : Summary} (hfollows : Follows batch steps)
    (hmem : (ReportEvent.finish summary, next) ∈ steps) : summary = next.summary := by
  induction hfollows with
  | nil => cases hmem
  | start _ _ ih =>
      rcases List.mem_cons.mp hmem with heq | hmem
      · cases heq
      · exact ih hmem
  | outcome _ _ ih =>
      rcases List.mem_cons.mp hmem with heq | hmem
      · cases heq
      · exact ih hmem
  | finish _ _ ih =>
      rcases List.mem_cons.mp hmem with heq | hmem
      · cases heq
        rfl
      · exact ih hmem

theorem heard_prefix (reporter : Reporter) (steps : List (ReportEvent × Batch)) :
    ∃ rest, steps = heard reporter steps ++ rest := by
  induction steps with
  | nil => exact ⟨[], rfl⟩
  | cons step steps ih =>
      obtain ⟨rest, hrest⟩ := ih
      unfold heard
      split
      · exact ⟨steps, rfl⟩
      · exact ⟨rest, by rw [List.cons_append, ← hrest]⟩

theorem tell_snd (reporter : Reporter) (batch : Batch) (steps : List (ReportEvent × Batch)) :
    (tell reporter batch steps).2 = standing batch (heard reporter steps) := by
  induction steps generalizing batch with
  | nil => rfl
  | cons step steps ih =>
      obtain ⟨event, next⟩ := step
      unfold tell heard
      cases hfault : (reporter.write event).fault with
      | some fault => simp only [hfault, standing, List.foldl_cons, List.foldl_nil]
      | none =>
          simp only [hfault, ih next]
          rfl

theorem tell_fst (reporter : Reporter) (batch : Batch) (steps : List (ReportEvent × Batch)) :
    (tell reporter batch steps).1 = reporter.writeAll (steps.map Prod.fst) := by
  induction steps generalizing batch with
  | nil => rfl
  | cons step steps ih =>
      obtain ⟨event, next⟩ := step
      unfold tell
      rw [List.map_cons, Reporter.writeAll]
      cases hfault : (reporter.write event).fault with
      | some fault => simp only [hfault, Written.andThen]
      | none => simp only [hfault, ih next]

/-- A reporter that writes without a fault is told of every step. -/
theorem heard_eq_self (reporter : Reporter) (steps : List (ReportEvent × Batch))
    (hfault : (reporter.writeAll (steps.map Prod.fst)).fault = none) :
    heard reporter steps = steps := by
  induction steps with
  | nil => rfl
  | cons step steps ih =>
      rw [List.map_cons, Reporter.writeAll, Written.andThen] at hfault
      unfold heard
      cases hfirst : (reporter.write step.1).fault with
      | some fault => simp [hfirst] at hfault
      | none =>
          simp only [hfirst] at hfault ⊢
          rw [ih hfault]

theorem follows_steps (pipeline : Pipeline) (tree : FileTree) (here : List Text) (batch : Batch)
    (entries : List BatchEntry) : Follows batch (batch.steps pipeline tree here entries) := by
  induction entries generalizing batch with
  | nil => exact .finish rfl .nil
  | cons entry entries ih => exact .outcome rfl (ih _)

theorem follows_call (pipeline : Pipeline) (tree : FileTree) (here : List Text) (batch : Batch)
    (next : Call) : Follows batch (batch.call pipeline tree here next) := by
  cases next with
  | one request => exact .outcome rfl .nil
  | excluded name => exact .outcome rfl .nil
  | process entries => exact .start rfl (follows_steps pipeline tree here batch entries)
  | finish => exact .finish rfl .nil

theorem follows_calls (pipeline : Pipeline) (here : List Text) (reporter : Reporter)
    (batch : Batch) (turns : List (FileTree × Call)) :
    Follows batch (calls pipeline here reporter batch turns) := by
  induction turns generalizing batch with
  | nil => exact .nil
  | cons turn turns ih =>
      obtain ⟨tree, next⟩ := turn
      obtain ⟨rest, hrest⟩ := heard_prefix reporter (batch.call pipeline tree here next)
      have hcall := follows_call pipeline tree here batch next
      rw [hrest] at hcall
      refine hcall.of_append.append ?_
      rw [← tell_snd]
      exact ih _

/-! ### Counts -/

structure Counts (summary : Summary) (outcomes : List Outcome) : Prop where
  total : summary.total = outcomes.countP fun o => o.counted
  valid : summary.valid = outcomes.countP fun o => o.counted && o.isValid

theorem counts_empty : Counts {} [] := ⟨rfl, rfl⟩

theorem Counts.record {summary : Summary} {outcomes : List Outcome}
    (hcounts : Counts summary outcomes) (outcome : Outcome) :
    Counts (summary.record outcome) (outcomes ++ [outcome]) := by
  obtain ⟨htotal, hvalid⟩ := hcounts
  unfold Summary.record
  constructor <;> cases hcounted : outcome.counted <;> cases hisValid : outcome.isValid <;>
    simp [List.countP_append, hcounted, hisValid, htotal, hvalid]

theorem Counts.foldl {summary : Summary} {told : List Outcome} (hcounts : Counts summary told)
    (outcomes : List Outcome) :
    Counts (outcomes.foldl Summary.record summary) (told ++ outcomes) := by
  induction outcomes generalizing summary told with
  | nil => simpa using hcounts
  | cons outcome outcomes ih => simpa using ih (hcounts.record outcome)

theorem counts_of_follows {batch : Batch} {told : List Outcome}
    {steps : List (ReportEvent × Batch)} (hfollows : Follows batch steps)
    (hcounts : Counts batch.summary told) :
    Counts (standing batch steps).summary (told ++ outcomesOf (steps.map Prod.fst)) := by
  induction hfollows generalizing told with
  | nil => simpa [outcomesOf, standing] using hcounts
  | start hsummary _ ih =>
      rw [← hsummary] at hcounts
      exact ih hcounts
  | @outcome _ _ _ outcome hsummary _ ih =>
      have hnext := hcounts.record outcome
      rw [← hsummary] at hnext
      have hrest := ih hnext
      rwa [List.append_assoc] at hrest
  | finish hsummary _ ih =>
      rw [← hsummary] at hcounts
      exact ih hcounts

theorem Counts.valid_le {summary : Summary} {outcomes : List Outcome}
    (hcounts : Counts summary outcomes) : summary.valid ≤ summary.total := by
  rw [hcounts.total, hcounts.valid]
  have hle : (outcomes.countP fun o => o.counted && o.isValid) ≤
      outcomes.countP fun o => o.counted :=
    List.countP_mono_left fun o _ ho => (Bool.and_eq_true_iff.mp ho).1
  exact_mod_cast hle

theorem Counts.total_le {summary : Summary} {outcomes : List Outcome}
    (hcounts : Counts summary outcomes) : summary.total ≤ outcomes.length := by
  rw [hcounts.total]
  exact_mod_cast List.countP_le_length

theorem Counts.valid_eq_total_iff {summary : Summary} {outcomes : List Outcome}
    (hcounts : Counts summary outcomes) :
    summary.valid = summary.total ↔
      ∀ outcome ∈ outcomes, outcome.counted = true → outcome.isValid = true := by
  have hvalid : (outcomes.countP fun o => o.counted && o.isValid) =
      (outcomes.filter fun o => o.counted).countP fun o => o.isValid := by
    rw [List.countP_filter]
    exact List.countP_congr fun o _ => by rw [Bool.and_comm]
  have htotal : (outcomes.countP fun o => o.counted) =
      (outcomes.filter fun o => o.counted).length := List.countP_eq_length_filter
  rw [hcounts.total, hcounts.valid, hvalid, htotal, Int.natCast_inj, List.countP_eq_length]
  simp only [List.mem_filter, and_imp]

theorem exitCode_eq_ite (summary : Summary) :
    summary.exitCode = if summary.valid = summary.total then 0 else 1 := by
  simp only [Summary.exitCode, Summary.success, decide_eq_true_eq]

theorem Counts.exitCode_eq_zero_iff {summary : Summary} {outcomes : List Outcome}
    (hcounts : Counts summary outcomes) :
    summary.exitCode = 0 ↔
      ∀ outcome ∈ outcomes, outcome.counted = true → outcome.isValid = true := by
  rw [← hcounts.valid_eq_total_iff, exitCode_eq_ite]
  split <;> simp_all

/-! ### The main statement -/

theorem run_fst (pipeline : Pipeline) (tree : FileTree) (here : List Text) (reporter : Reporter)
    (batch : Batch) (entries : List BatchEntry) :
    (batch.run pipeline tree here reporter entries).1 =
      reporter.writeAll ((batch.process pipeline tree here entries).map Prod.fst) :=
  tell_fst reporter batch _

theorem standing_steps (pipeline : Pipeline) (tree : FileTree) (here : List Text) (batch : Batch)
    (entries : List BatchEntry) :
    standing batch (batch.steps pipeline tree here entries) =
      batch.after pipeline tree here entries := by
  induction entries generalizing batch with
  | nil => rfl
  | cons entry entries ih => exact ih _

theorem run_snd (pipeline : Pipeline) (tree : FileTree) (here : List Text) (reporter : Reporter)
    (batch : Batch) (entries : List BatchEntry)
    (hfault : (batch.run pipeline tree here reporter entries).1.fault = none) :
    (batch.run pipeline tree here reporter entries).2 =
      batch.after pipeline tree here entries := by
  rw [run_fst] at hfault
  rw [run, tell_snd, heard_eq_self reporter _ hfault]
  exact standing_steps pipeline tree here batch entries

theorem outcomes_of_fault (pipeline : Pipeline) (tree : FileTree) (here : List Text)
    (batch : Batch) (first rest : List BatchEntry) (request : Request) (failure : RunFailure)
    (hrun : (pipeline.run tree here (batch.after pipeline tree here first).store request).1 =
      .error failure) :
    batch.outcomes pipeline tree here (first ++ .request request :: rest) =
      batch.outcomes pipeline tree here first ++ faultOutcome request failure ::
        (batch.after pipeline tree here (first ++ [.request request])).outcomes
          pipeline tree here rest := by
  have houtcome : ((batch.after pipeline tree here first).handle pipeline tree here
      (.request request)).1 = faultOutcome request failure := by
    rw [handle_eq, settle_request, hrun, outcomeOf_error]
  rw [outcomes_append, after_append, outcomes, houtcome]
  rfl

/-- Every entry of a batch has one outcome under its own name, in order, between the start and the
end that the reporter is told of; a request whose run breaks off has the one error that says so, and
the entries behind it are handled all the same. Whatever calls are made on a new batch, its counts
are at each moment those of the outcomes told so far. -/
theorem accounts_for_every_entry (pipeline : Pipeline) (here : List Text) :
    (∀ (tree : FileTree) (batch : Batch) (entries : List BatchEntry),
      (batch.process pipeline tree here entries).map Prod.fst =
          .start :: ((batch.outcomes pipeline tree here entries).map .outcome ++
            [.finish (batch.after pipeline tree here entries).summary]) ∧
        (batch.outcomes pipeline tree here entries).map Outcome.file =
          entries.map BatchEntry.displayName ∧
        (∀ (first rest : List BatchEntry) (request : Request) (failure : RunFailure),
          entries = first ++ .request request :: rest →
          (pipeline.run tree here (batch.after pipeline tree here first).store request).1 =
            .error failure →
          batch.outcomes pipeline tree here entries =
            batch.outcomes pipeline tree here first ++ faultOutcome request failure ::
              (batch.after pipeline tree here (first ++ [.request request])).outcomes
                pipeline tree here rest) ∧
        ∀ reporter : Reporter,
          (batch.run pipeline tree here reporter entries).1 =
              reporter.writeAll ((batch.process pipeline tree here entries).map Prod.fst) ∧
            ((batch.run pipeline tree here reporter entries).1.fault = none →
              (batch.run pipeline tree here reporter entries).2 =
                batch.after pipeline tree here entries)) ∧
    (∀ (tree : FileTree) (batch : Batch) (request : Request),
      (∃ outcome, (batch.call pipeline tree here (.one request)).map Prod.fst =
          [.outcome outcome] ∧ outcome.file = request.displayName) ∧
        ∀ failure : RunFailure, (pipeline.run tree here batch.store request).1 = .error failure →
          (batch.call pipeline tree here (.one request)).map Prod.fst =
            [.outcome (faultOutcome request failure)]) ∧
    ∀ (reporter : Reporter) (turns : List (FileTree × Call))
      (told rest : List (ReportEvent × Batch)),
      calls pipeline here reporter {} turns = told ++ rest →
      let summary := (standing {} told).summary
      let emitted := outcomesOf (told.map Prod.fst)
      (summary.total = emitted.countP fun o => o.counted) ∧
        (summary.valid = emitted.countP fun o => o.counted && o.isValid) ∧
        summary.valid ≤ summary.total ∧ summary.total ≤ emitted.length ∧
        (summary.exitCode = 0 ↔ ∀ o ∈ emitted, o.counted = true → o.isValid = true) ∧
        ∀ shown next, (ReportEvent.finish shown, next) ∈ told → shown = next.summary := by
  refine ⟨fun tree batch entries => ⟨map_fst_process pipeline tree here batch entries,
    map_file_outcomes pipeline tree here batch entries, ?_, fun reporter =>
      ⟨run_fst pipeline tree here reporter batch entries,
        run_snd pipeline tree here reporter batch entries⟩⟩,
    fun tree batch request =>
      ⟨⟨_, rfl, file_settle pipeline tree here batch.store (.request request)⟩, ?_⟩, ?_⟩
  · rintro first rest request failure rfl hrun
    exact outcomes_of_fault pipeline tree here batch first rest request failure hrun
  · intro failure hrun
    simp only [call, handle_eq, settle_request, hrun, outcomeOf_error, List.map_cons, List.map_nil]
  · intro reporter turns told rest hcalls summary emitted
    have hfollows := follows_calls pipeline here reporter {} turns
    rw [hcalls] at hfollows
    have hcounts : Counts summary emitted :=
      counts_of_follows hfollows.of_append counts_empty
    exact ⟨hcounts.total, hcounts.valid, hcounts.valid_le, hcounts.total_le,
      hcounts.exitCode_eq_zero_iff, fun _ _ hmem => hfollows.of_append.finish_eq hmem⟩

/-- A request with neither content nor path breaks off; the entry behind it has its outcome. -/
theorem outcomes_nothing_given :
    Batch.outcomes { resolver := ⟨[], [], []⟩ } {} [] {}
        [.request { displayName := "a".toList }, .excluded "b".toList] =
      [faultOutcome { displayName := "a".toList } (.content (.nothingGiven "a".toList)),
        .excluded "b".toList] :=
  ((accounts_for_every_entry { resolver := ⟨[], [], []⟩ } []).1 {} {} _).2.2.1 []
    [.excluded "b".toList] { displayName := "a".toList }
    (.content (.nothingGiven "a".toList)) rfl rfl

end Batch

end XmlCheck
