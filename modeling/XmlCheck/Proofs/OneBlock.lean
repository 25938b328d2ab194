import Mathlib.Tactic.Common
import XmlCheck.Proofs.Ending
import XmlCheck.Proofs.PrintFaults
import XmlCheck.Proofs.Transparency

/-!
# One block for each outcome

Whatever becomes of a file, a batch tells one of four things: errors, that the file is clean, that
it declares no schema, or that it is excluded (`Told`). So each outcome is shown as exactly one
block, the annotations of a file are missing exactly if it is valid, and a batch fails exactly if
one of the files that it counts was shown with errors or, under the policy that says so, without a
schema. What an arbitrary outcome is shown as is a matter of its diagnostics alone; that these agree
with its validity is what holds of the outcomes of a batch only.
-/

namespace XmlCheck

namespace ConsoleReport

open Console

variable {pictures : Pictures}

inductive BlockKind
  | good
  | warning
  | error
  deriving DecidableEq, Repr

def BlockKind.label : BlockKind → Text
  | good => "OK"
  | warning => "WARNING"
  | error => "ERROR"

def blockOf (outcome : Outcome) : BlockKind → List Text
  | .good => goodBlock outcome
  | .warning => warningBlock outcome
  | .error => errorBlock outcome

theorem blockOf_good_iff (outcome : Outcome) :
    blockOf outcome .good ≠ [] ↔ outcome.isValid = true ∧ outcome.diagnostics = [] := by
  change goodBlock outcome ≠ [] ↔ _
  rw [goodBlock_eq]
  split
  · rename_i hgood
    exact iff_of_true (List.cons_ne_nil _ _) hgood
  · rename_i hgood
    exact iff_of_false (fun h => h rfl) hgood

theorem blockOf_warning_iff (outcome : Outcome) :
    blockOf outcome .warning ≠ [] ↔ outcome.warnings ≠ [] := by
  change warningBlock outcome ≠ [] ↔ _
  unfold warningBlock block
  cases outcome.warnings <;> simp

theorem blockOf_error_iff (outcome : Outcome) :
    blockOf outcome .error ≠ [] ↔ outcome.errors ≠ [] := by
  change errorBlock outcome ≠ [] ↔ _
  unfold errorBlock block
  cases outcome.errors <;> simp

theorem lines_outcome (outcome : Outcome) :
    lines (.outcome outcome) = opening outcome ++ (blockOf outcome .warning ++
      (blockOf outcome .error ++ blockOf outcome .good)) := by
  simp only [lines, blockOf, List.append_assoc]

theorem blockOf_eq (outcome : Outcome) (kind : BlockKind) :
    blockOf outcome kind = [] ∨ ∃ (style : Style) (first : Text) (more : List Text),
      blockOf outcome kind = block kind.label style first more := by
  cases kind with
  | good =>
      change goodBlock outcome = [] ∨ ∃ style first more, goodBlock outcome = _
      unfold goodBlock
      split
      · exact .inr ⟨.good, _, _, rfl⟩
      · exact .inl rfl
  | warning =>
      change warningBlock outcome = [] ∨ ∃ style first more, warningBlock outcome = _
      unfold warningBlock
      split
      · exact .inl rfl
      · exact .inr ⟨.caution, _, _, rfl⟩
  | error =>
      change errorBlock outcome = [] ∨ ∃ style first more, errorBlock outcome = _
      unfold errorBlock
      split
      · exact .inl rfl
      · exact .inr ⟨.bad, _, _, rfl⟩

theorem margin_label (kind : BlockKind) : Margin (blockLabel kind.label) := by
  cases kind <;> decide

theorem printed_blockOf (outcome : Outcome) (kind : BlockKind) :
    ∀ line ∈ blockOf outcome kind, Printed pictures line := by
  rcases blockOf_eq outcome kind with hnone | ⟨style, first, more, hblock⟩
  · rw [hnone]
    exact fun line hline => nomatch hline
  · rw [hblock]
    exact printed_block (margin_label kind) style first more

theorem printAll_blockOf {outcome : Outcome} {kind : BlockKind}
    (hshown : blockOf outcome kind ≠ []) :
    ∃ rest, printAll pictures false (blockOf outcome kind) =
      { text := blockLabel kind.label ++ rest } := by
  rcases blockOf_eq outcome kind with hnone | ⟨style, first, more, hblock⟩
  · exact absurd hnone hshown
  · rw [hblock]
    exact printAll_block (margin_label kind) style first more

/-- The console is at fault about an outcome only where the names end a style. -/
theorem fault_write_iff (inColour : Bool) (outcome : Outcome) :
    ((Reporter.console inColour pictures).write (.outcome outcome)).fault = none ↔
      ∀ reference, ¬ NamesEndStyle outcome reference := by
  have hblocks : (printAll pictures inColour (blockOf outcome .warning ++
      (blockOf outcome .error ++ blockOf outcome .good))).fault = none := by
    rw [fault_printAll_iff]
    intro line hline
    simp only [List.mem_append] at hline
    rcases hline with hline | hline | hline
    · exact printed_blockOf outcome .warning line hline
    · exact printed_blockOf outcome .error line hline
    · exact printed_blockOf outcome .good line hline
  rw [Reporter.write, lines_outcome, printAll_append]
  constructor
  · rintro hfault reference hnames
    obtain ⟨fault, hopening⟩ := hnames.printAll_opening inColour
    rw [hopening] at hfault
    cases hfault
  · intro hnames
    rw [Written.andThen_of_fault_eq_none (fault_printAll_opening inColour hnames)]
    exact hblocks

/-- What the console writes about an outcome that has one block: the names and the block, unless the
names end a style, and then nothing. -/
theorem write_of_one_block {outcome : Outcome} {kind : BlockKind}
    (hone : ∀ other, other ≠ kind → blockOf outcome other = []) (inColour : Bool) :
    ((∃ reference, NamesEndStyle outcome reference) →
        ∃ fault, (Reporter.console inColour pictures).write (.outcome outcome) =
          { fault := some fault }) ∧
      ((∀ reference, ¬ NamesEndStyle outcome reference) →
        (Reporter.console inColour pictures).write (.outcome outcome) =
          { text := (printAll pictures inColour (opening outcome)).text ++
              (printAll pictures inColour (blockOf outcome kind)).text }) := by
  have hblocks : blockOf outcome .warning ++ (blockOf outcome .error ++ blockOf outcome .good) =
      blockOf outcome kind := by
    cases kind <;> simp [hone]
  have hwrite : (Reporter.console inColour pictures).write (.outcome outcome) =
      (printAll pictures inColour (opening outcome)).andThen
        (printAll pictures inColour (blockOf outcome kind)) := by
    rw [← printAll_append, ← hblocks, ← lines_outcome]
    rfl
  rw [hwrite]
  constructor
  · rintro ⟨reference, hnames⟩
    obtain ⟨fault, hopening⟩ := hnames.printAll_opening inColour
    exact ⟨fault, by rw [hopening]; rfl⟩
  · intro hnames
    have hopening : (printAll pictures inColour (opening outcome)).fault = none :=
      fault_printAll_opening inColour hnames
    have hblock : (printAll pictures inColour (blockOf outcome kind)).fault = none :=
      (fault_printAll_iff inColour _).mpr (printed_blockOf outcome kind)
    simp only [Written.andThen, hopening, hblock]

end ConsoleReport

/-! ### Outcomes and their blocks -/

namespace Outcome

open ConsoleReport

theorem status_eq_invalid_iff (outcome : Outcome) :
    outcome.status = .invalid ↔ outcome.isValid = false ∨ outcome.errors ≠ [] := by
  unfold status
  cases outcome.isValid <;> cases outcome.errors <;> cases outcome.warnings <;> simp

theorem status_eq_valid_iff (outcome : Outcome) :
    outcome.status = .valid ↔ outcome.isValid = true ∧ outcome.diagnostics = [] := by
  rw [diagnostics_eq_nil_iff]
  unfold status
  cases outcome.isValid <;> cases outcome.errors <;> cases outcome.warnings <;> simp

theorem annotation_text_eq_nil_iff (outcome : Outcome) :
    AnnotationReport.text (.outcome outcome) = [] ↔ outcome.diagnostics = [] := by
  unfold AnnotationReport.text AnnotationReport.lines
  cases hdiagnostics : outcome.diagnostics <;> simp [hdiagnostics]

/-- All diagnostics of an outcome have one severity, and there are some. -/
structure AllOf (outcome : Outcome) (severity : Severity) : Prop where
  ne_nil : outcome.diagnostics ≠ []
  all : ∀ d ∈ outcome.diagnostics, d.severity = severity

/-- An outcome is shown as a block of one kind, which says what its status is. -/
structure ShownOnce (outcome : Outcome) (kind : BlockKind) : Prop where
  /-- There is a block of that kind and no other block. -/
  shown_iff : ∀ other, blockOf outcome other ≠ [] ↔ other = kind
  good_iff : kind = .good ↔ outcome.status = .valid
  warning_iff : kind = .warning ↔ outcome.AllOf .warning
  error_iff : kind = .error ↔ outcome.AllOf .error
  invalid_iff : outcome.status = .invalid ↔ outcome.isValid = false
  annotated_iff : AnnotationReport.text (.outcome outcome) = [] ↔ outcome.status = .valid

theorem AllOf.not_other {outcome : Outcome} {severity other : Severity}
    (hall : outcome.AllOf severity) (hne : severity ≠ other) : ¬ outcome.AllOf other := by
  intro hother
  obtain ⟨d, hd⟩ := List.exists_mem_of_ne_nil _ hall.ne_nil
  exact hne ((hall.all d hd).symm.trans (hother.all d hd))

theorem shownOnce_errors {outcome : Outcome} (hall : outcome.AllOf .error)
    (hinvalid : outcome.isValid = false) : outcome.ShownOnce .error := by
  have herrors : outcome.errors = outcome.diagnostics :=
    List.filter_eq_self.mpr fun d hd => decide_eq_true (hall.all d hd)
  have hwarnings : outcome.warnings = [] :=
    List.filter_eq_nil_iff.mpr fun d hd => by simp [hall.all d hd]
  have hstatus : outcome.status ≠ .valid := fun h => hall.ne_nil (status_eq_valid_iff _ |>.mp h).2
  refine ⟨fun other => ?_, iff_of_false nofun hstatus,
    iff_of_false nofun (hall.not_other nofun), iff_of_true rfl hall,
    iff_of_true ((status_eq_invalid_iff _).mpr (.inl hinvalid)) hinvalid, ?_⟩
  · cases other with
    | good =>
        rw [blockOf_good_iff]
        exact iff_of_false (fun h => hall.ne_nil h.2) nofun
    | warning =>
        rw [blockOf_warning_iff]
        exact iff_of_false (fun h => h hwarnings) nofun
    | error =>
        rw [blockOf_error_iff, herrors]
        exact iff_of_true hall.ne_nil rfl
  · rw [annotation_text_eq_nil_iff]
    exact iff_of_false hall.ne_nil hstatus

theorem shownOnce_warnings {outcome : Outcome} (hall : outcome.AllOf .warning) :
    outcome.ShownOnce .warning := by
  have herrors : outcome.errors = [] :=
    List.filter_eq_nil_iff.mpr fun d hd => by simp [hall.all d hd]
  have hwarnings : outcome.warnings = outcome.diagnostics :=
    List.filter_eq_self.mpr fun d hd => decide_eq_true (hall.all d hd)
  have hstatus : outcome.status ≠ .valid := fun h => hall.ne_nil (status_eq_valid_iff _ |>.mp h).2
  refine ⟨fun other => ?_, iff_of_false nofun hstatus, iff_of_true rfl hall,
    iff_of_false nofun (hall.not_other nofun), ?_, ?_⟩
  · cases other with
    | good =>
        rw [blockOf_good_iff]
        exact iff_of_false (fun h => hall.ne_nil h.2) nofun
    | warning =>
        rw [blockOf_warning_iff, hwarnings]
        exact iff_of_true hall.ne_nil rfl
    | error =>
        rw [blockOf_error_iff]
        exact iff_of_false (fun h => h herrors) nofun
  · rw [status_eq_invalid_iff, herrors]
    simp
  · rw [annotation_text_eq_nil_iff]
    exact iff_of_false hall.ne_nil hstatus

theorem shownOnce_clean {outcome : Outcome} (hnone : outcome.diagnostics = [])
    (hvalid : outcome.isValid = true) : outcome.ShownOnce .good := by
  obtain ⟨herrors, hwarnings⟩ := (diagnostics_eq_nil_iff outcome).mp hnone
  have hstatus : outcome.status = .valid := (status_eq_valid_iff _).mpr ⟨hvalid, hnone⟩
  refine ⟨fun other => ?_, iff_of_true rfl hstatus, iff_of_false nofun fun h => h.ne_nil hnone,
    iff_of_false nofun fun h => h.ne_nil hnone, ?_, ?_⟩
  · cases other with
    | good =>
        rw [blockOf_good_iff]
        exact iff_of_true ⟨hvalid, hnone⟩ rfl
    | warning =>
        rw [blockOf_warning_iff]
        exact iff_of_false (fun h => h hwarnings) nofun
    | error =>
        rw [blockOf_error_iff]
        exact iff_of_false (fun h => h herrors) nofun
  · rw [hstatus, hvalid]
    exact iff_of_false nofun nofun
  · rw [annotation_text_eq_nil_iff]
    exact iff_of_true hnone hstatus

end Outcome

/-! ### What a batch tells -/

namespace Batch

open Pipeline

/-- What a batch can tell of an entry: errors, that a file is clean, that it declares no schema, or
that it is excluded. -/
inductive Told (policy : NoSchemaPolicy) : Outcome → Prop
  | failed {file : Text} {first : Diagnostic} {more : List Diagnostic}
    {schema : Option SchemaReference} (errors : ∀ d ∈ first :: more, d.severity = .error) :
    Told policy { file, isValid := false, diagnostics := first :: more, schema }
  | clean {file : Text} {schema : Option SchemaReference} :
    Told policy { file, isValid := true, schema }
  | undeclared {file : Text} : Told policy (.withoutSchema policy file)
  | excluded {name : Text} : Told policy (.excluded name)

theorem told_failed (policy : NoSchemaPolicy) (file source error : Text)
    (schema : Option SchemaReference) : Told policy (.failed file source error schema) :=
  .failed fun d hd => by rw [List.mem_singleton.mp hd]; rfl

theorem told_checked {policy : NoSchemaPolicy} {file : Text} {reference : SchemaReference}
    {diagnostics : List Diagnostic} (herrors : ∀ d ∈ diagnostics, d.severity = .error) :
    Told policy (checkedOutcome file reference diagnostics) := by
  cases diagnostics with
  | nil => exact .clean
  | cons first more => exact .failed herrors

theorem told_outcomeOf {pipeline : Pipeline} {tree : FileTree} {here : List Text}
    {store after : SchemaStore} {request : Request} {result : Except RunFailure Outcome}
    {stages : List Stage}
    (hruns : Runs pipeline tree here store request result after stages) :
    Told pipeline.policy (outcomeOf request result) := by
  cases hruns with
  | contentless => exact told_failed _ _ _ _ _
  | @malformed content first more _ hform =>
      refine .failed fun d hd => ?_
      have hreported : d ∈ (checkForm content request.displayName).diagnostics := by
        rw [hform]
        exact hd
      exact severity_of_checkForm hreported
  | undeclared => exact .undeclared
  | declared _ hrest =>
      cases hrest with
      | unreadable => exact told_failed _ _ _ _ _
      | unresolved => exact told_failed _ _ _ _ _
      | unreferred => exact told_failed _ _ _ _ _
      | against _ _ hagainst =>
          cases hagainst with
          | unreadable => exact told_failed _ _ _ _ _
          | unloadable => exact told_failed _ _ _ _ _
          | unchecked => exact told_failed _ _ _ _ _
          | checked _ hvalidate => exact told_checked (severity_of_diagnostics hvalidate)

theorem told_settle (pipeline : Pipeline) (tree : FileTree) (here : List Text)
    (store : SchemaStore) (entry : BatchEntry) :
    Told pipeline.policy (settle pipeline tree here store entry).1 := by
  cases entry with
  | excluded name => exact .excluded
  | request request => exact told_outcomeOf (runs_run store request)

theorem allOf_withoutSchema (policy : NoSchemaPolicy) (file : Text) :
    (Outcome.withoutSchema policy file).AllOf .warning :=
  ⟨List.cons_ne_nil _ _, List.forall_mem_singleton.mpr rfl⟩

theorem allOf_excluded (name : Text) : (Outcome.excluded name).AllOf .warning :=
  ⟨List.cons_ne_nil _ _, List.forall_mem_singleton.mpr rfl⟩

theorem Told.exists_shownOnce {policy : NoSchemaPolicy} {outcome : Outcome}
    (htold : Told policy outcome) : ∃ kind, outcome.ShownOnce kind := by
  cases htold with
  | failed herrors => exact ⟨_, Outcome.shownOnce_errors ⟨List.cons_ne_nil _ _, herrors⟩ rfl⟩
  | clean => exact ⟨_, Outcome.shownOnce_clean rfl rfl⟩
  | undeclared => exact ⟨_, Outcome.shownOnce_warnings (allOf_withoutSchema _ _)⟩
  | excluded => exact ⟨_, Outcome.shownOnce_warnings (allOf_excluded _)⟩

/-- An outcome that makes a batch fail: a counted one that is shown with errors or, where the policy
says so, without a schema. -/
structure Fails (policy : NoSchemaPolicy) (outcome : Outcome) : Prop where
  counted : outcome.counted = true
  shown : outcome.ShownOnce .error ∨ outcome.ShownOnce .warning ∧ policy = .invalid ∧
    outcome = .withoutSchema .invalid outcome.file

theorem Told.fails_iff {policy : NoSchemaPolicy} {outcome : Outcome}
    (htold : Told policy outcome) :
    Fails policy outcome ↔ outcome.counted = true ∧ outcome.isValid = false := by
  constructor
  · rintro ⟨hcounted, hshown⟩
    refine ⟨hcounted, ?_⟩
    rcases hshown with hshown | ⟨-, -, hundeclared⟩
    · have hblock := (hshown.shown_iff .error).mpr rfl
      have herrors := (ConsoleReport.blockOf_error_iff outcome).mp hblock
      exact hshown.invalid_iff.mp ((Outcome.status_eq_invalid_iff _).mpr (.inr herrors))
    · rw [hundeclared]
      rfl
  · rintro ⟨hcounted, hinvalid⟩
    obtain ⟨kind, hshown⟩ := htold.exists_shownOnce
    refine ⟨hcounted, ?_⟩
    cases htold with
    | failed herrors =>
        exact .inl (Outcome.shownOnce_errors ⟨List.cons_ne_nil _ _, herrors⟩ rfl)
    | clean => cases hinvalid
    | undeclared =>
        have hpolicy : policy = .invalid := by
          cases policy with
          | invalid => rfl
          | valid => cases hinvalid
          | skip => cases hinvalid
        subst hpolicy
        exact .inr ⟨Outcome.shownOnce_warnings (allOf_withoutSchema _ _), rfl, rfl⟩
    | excluded => cases hinvalid

/-! ### What calls tell -/

theorem mem_heard {reporter : Reporter} {steps : List (ReportEvent × Batch)}
    {step : ReportEvent × Batch} (hmem : step ∈ heard reporter steps) : step ∈ steps := by
  obtain ⟨rest, hrest⟩ := heard_prefix reporter steps
  rw [hrest]
  exact List.mem_append_left rest hmem

theorem told_of_mem_steps {pipeline : Pipeline} {tree : FileTree} {here : List Text}
    {batch next : Batch} {outcome : Outcome} {entries : List BatchEntry}
    (hmem : (ReportEvent.outcome outcome, next) ∈ batch.steps pipeline tree here entries) :
    Told pipeline.policy outcome := by
  induction entries generalizing batch with
  | nil => cases List.mem_singleton.mp hmem
  | cons entry entries ih =>
      rcases List.mem_cons.mp hmem with heq | hmem
      · cases heq
        exact told_settle pipeline tree here batch.store entry
      · exact ih hmem

theorem told_of_mem_call {pipeline : Pipeline} {tree : FileTree} {here : List Text}
    {batch next : Batch} {outcome : Outcome} {made : Call}
    (hmem : (ReportEvent.outcome outcome, next) ∈ batch.call pipeline tree here made) :
    Told pipeline.policy outcome := by
  cases made with
  | one request =>
      cases List.mem_singleton.mp hmem
      exact told_settle pipeline tree here batch.store (.request request)
  | excluded name =>
      cases List.mem_singleton.mp hmem
      exact .excluded
  | process entries =>
      rcases List.mem_cons.mp hmem with heq | hmem
      · cases heq
      · exact told_of_mem_steps hmem
  | finish => cases List.mem_singleton.mp hmem

theorem told_of_mem_calls {pipeline : Pipeline} {here : List Text} {reporter : Reporter}
    {batch next : Batch} {outcome : Outcome} {turns : List (FileTree × Call)}
    (hmem : (ReportEvent.outcome outcome, next) ∈ calls pipeline here reporter batch turns) :
    Told pipeline.policy outcome := by
  induction turns generalizing batch with
  | nil => cases hmem
  | cons turn turns ih =>
      rcases List.mem_append.mp hmem with hmem | hmem
      · exact told_of_mem_call (mem_heard hmem)
      · exact ih hmem

theorem told_of_mem_outcomesOf {pipeline : Pipeline} {here : List Text} {reporter : Reporter}
    {turns : List (FileTree × Call)} {count : ℕ} {outcome : Outcome}
    (hmem : outcome ∈ outcomesOf
      (((calls pipeline here reporter {} turns).take count).map Prod.fst)) :
    Told pipeline.policy outcome := by
  obtain ⟨event, hevent, houtcome⟩ := List.mem_filterMap.mp hmem
  obtain ⟨⟨event, next⟩, hstep, rfl⟩ := List.mem_map.mp hevent
  cases event with
  | start => cases houtcome
  | finish summary => cases houtcome
  | outcome other =>
      cases houtcome
      exact told_of_mem_calls (List.mem_of_mem_take hstep)

/-- Whatever calls are made on a new batch, at each moment: each outcome told so far is shown as
exactly one block, the good one if its status is valid, warnings if all of its diagnostics are and
errors likewise; its status is invalid exactly if it is not valid, and there is no annotation for it
exactly if its status is valid. The console writes the block whole, with its label in front, behind
the line that names the file and its schema, if there is one; but where these names end a style it
writes nothing of the outcome. The exit status is 1 exactly if an outcome was told that fails. -/
theorem outcomes_shown_once (pipeline : Pipeline) (here : List Text) (reporter : Reporter)
    (turns : List (FileTree × Call)) (count : ℕ) :
    let steps := (calls pipeline here reporter {} turns).take count
    let outcomes := outcomesOf (steps.map Prod.fst)
    (∀ outcome ∈ outcomes, ∃ kind, outcome.ShownOnce kind ∧
      (∀ pictures, ∃ shown,
        ConsoleReport.printAll pictures false (ConsoleReport.blockOf outcome kind) =
          { text := ConsoleReport.blockLabel kind.label ++ shown }) ∧
      ∀ inColour pictures,
        ((∀ reference, ¬ ConsoleReport.NamesEndStyle outcome reference) →
          (Reporter.console inColour pictures).write (.outcome outcome) =
            { text :=
                (ConsoleReport.printAll pictures inColour (ConsoleReport.opening outcome)).text ++
                (ConsoleReport.printAll pictures inColour
                  (ConsoleReport.blockOf outcome kind)).text }) ∧
        ((∃ reference, ConsoleReport.NamesEndStyle outcome reference) →
          ∃ fault, (Reporter.console inColour pictures).write (.outcome outcome) =
            { fault := some fault })) ∧
    ((standing {} steps).summary.exitCode = 1 ↔
      ∃ outcome ∈ outcomes, Fails pipeline.policy outcome) := by
  intro steps outcomes
  have htold : ∀ outcome ∈ outcomes, Told pipeline.policy outcome :=
    fun outcome hmem => told_of_mem_outcomesOf hmem
  refine ⟨fun outcome hmem => ?_, ?_⟩
  · obtain ⟨kind, hshown⟩ := (htold outcome hmem).exists_shownOnce
    have hothers : ∀ other, other ≠ kind → ConsoleReport.blockOf outcome other = [] :=
      fun other hne => not_not.mp fun h => hne ((hshown.shown_iff other).mp h)
    refine ⟨kind, hshown,
      fun pictures => ConsoleReport.printAll_blockOf ((hshown.shown_iff kind).mpr rfl), ?_⟩
    intro inColour pictures
    exact (ConsoleReport.write_of_one_block hothers inColour).symm
  · have hcounts : Counts (standing {} steps).summary outcomes := by
      have hfollows : Follows {} (steps ++ (calls pipeline here reporter {} turns).drop count) := by
        rw [List.take_append_drop]
        exact follows_calls pipeline here reporter {} turns
      exact counts_of_follows hfollows.of_append counts_empty
    have hexit : (standing {} steps).summary.exitCode = 1 ↔
        ¬ (standing {} steps).summary.exitCode = 0 := by
      rw [exitCode_eq_ite]
      split <;> simp
    rw [hexit, hcounts.exitCode_eq_zero_iff]
    simp only [not_forall, exists_prop, Bool.not_eq_true]
    exact exists_congr fun outcome => and_congr_right fun hmem =>
      (htold outcome hmem).fails_iff.symm

/-- A document without a schema, under the policy that takes it for a failure, and an excluded file
are shown with a warning each, and the batch fails. -/
theorem warnings_shown_once :
    let pipeline : Pipeline := { resolver := ⟨[], [], []⟩, policy := .invalid }
    let undeclared : Outcome := .withoutSchema .invalid "a".toList
    let turns : List (FileTree × Call) :=
      [({}, .one { displayName := "a".toList, content := some [60, 97, 47, 62] }),
        ({}, .excluded "b".toList)]
    undeclared.ShownOnce .warning ∧ (Outcome.excluded "b".toList).ShownOnce .warning ∧
      (standing {} ((calls pipeline [] .silent {} turns).take 2)).summary.exitCode = 1 := by
  intro pipeline undeclared turns
  obtain ⟨hshown, hexit⟩ := outcomes_shown_once pipeline [] .silent turns 2
  have hkind : ∀ outcome ∈ [undeclared, Outcome.excluded "b".toList], outcome.AllOf .warning →
      outcome.ShownOnce .warning := by
    intro outcome hmem hall
    obtain ⟨kind, hkind, -⟩ := hshown outcome hmem
    rwa [hkind.warning_iff.mpr hall] at hkind
  have hfirst : undeclared.ShownOnce .warning :=
    hkind undeclared List.mem_cons_self (allOf_withoutSchema _ _)
  have hsecond := hkind (.excluded "b".toList) (List.mem_cons_of_mem _ List.mem_cons_self)
    (allOf_excluded _)
  exact ⟨hfirst, hsecond, hexit.mpr ⟨undeclared, List.mem_cons_self, rfl, .inr ⟨hfirst, rfl, rfl⟩⟩⟩

/-- The console shows nothing of a file whose name opens a mark that the path of its schema closes,
and breaks off there; the outcome has an error to show. -/
theorem console_breaks_off :
    let pipeline : Pipeline := { resolver := ⟨[], [("a:b".toList, ["lib".toList])], []⟩ }
    let files : FileTree :=
      ⟨[(["lib".toList], .directory), (["lib".toList, "b].xsd".toList], .file [])]⟩
    let content := Utf8.encode
      (("<r xmlns:xsi=\"http://www.w3.org/2001/XMLSchema-instance\"" : Text) ++
        " xsi:noNamespaceSchemaLocation=\"urn:a:b:b].xsd\"/>")
    let request : Request := { displayName := "[/a.xml".toList, content := some content }
    let outcome := alone pipeline files [] (.request request)
    let console := Reporter.console false
    ConsoleReport.blockOf outcome .error ≠ [] ∧
      (console.write (.outcome outcome)).text = [] ∧
      (console.write (.outcome outcome)).fault ≠ none ∧
      (({} : Batch).run pipeline files [] console [.request request]).1.text =
        ("XML Validator\n=============\n\n" : Text) := by
  decide +kernel

end Batch

end XmlCheck
