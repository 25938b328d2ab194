import XmlCheck.CommandLine
import XmlCheck.Proofs.OneBlock

/-!
# Checks of several arguments

A check of path arguments is a search, a batch and a report, one after the other, and each of the
three works through a list from its front. So what a check of two lists comes to is put together
from what each of them comes to: the outcomes follow each other, since each entry has the outcome
that it has alone, the counts add up and the exit status is the larger one. This needs both checks
to come to their end (`Ends`); the search breaks off at an argument with a name that is too long,
and the console where the names of a file and its schema end a style.
-/

namespace XmlCheck

/-! ### Reports put together -/

namespace Reporter

theorem writeAll_append (reporter : Reporter) (events others : List ReportEvent) :
    reporter.writeAll (events ++ others) =
      (reporter.writeAll events).andThen (reporter.writeAll others) := by
  induction events with
  | nil => rfl
  | cons event events ih =>
      rw [List.cons_append, writeAll, writeAll, ih, Written.andThen_assoc]

theorem fault_writeAll_iff (reporter : Reporter) (events : List ReportEvent) :
    (reporter.writeAll events).fault = none ↔
      ∀ event ∈ events, (reporter.write event).fault = none := by
  induction events with
  | nil => simp [writeAll]
  | cons event events ih =>
      rw [writeAll, List.forall_mem_cons, ← ih]
      unfold Written.andThen
      cases hfault : (reporter.write event).fault <;> simp [hfault]

theorem text_writeAll (reporter : Reporter) {events : List ReportEvent}
    (hfault : ∀ event ∈ events, (reporter.write event).fault = none) :
    (reporter.writeAll events).text = events.flatMap fun event => (reporter.write event).text := by
  induction events with
  | nil => rfl
  | cons event events ih =>
      obtain ⟨hfirst, hrest⟩ := List.forall_mem_cons.mp hfault
      rw [writeAll, Written.andThen_of_fault_eq_none hfirst, ih hrest, List.flatMap_cons]

end Reporter

namespace Console

theorem Margin.append {margin other : Text} (hmargin : Margin margin) (hother : Margin other) :
    Margin (margin ++ other) where
  noBackslash hmem :=
    (List.mem_append.mp hmem).elim hmargin.noBackslash hother.noBackslash
  noMark := by
    refine List.isChain_append.mpr ⟨hmargin.noMark, hother.noMark, fun c hc d _ hbracket => ?_⟩
    exact absurd (hbracket ▸ hc) hmargin.noOpenEnd
  noOpenEnd hlast := by
    rw [List.getLast?_append, Option.or_eq_some_iff] at hlast
    exact hlast.elim hother.noOpenEnd fun h => hmargin.noOpenEnd h.2
  noControl c hc := (List.mem_append.mp hc).elim (hmargin.noControl c) (hother.noControl c)
  noColon hmem := (List.mem_append.mp hmem).elim hmargin.noColon hother.noColon

theorem isControl_of_isDigit {c : Char} (hdigit : c.isDigit = true) : isControl c = false := by
  have hrange : 48 ≤ c.toNat ∧ c.toNat ≤ 57 := by
    simpa [Char.isDigit, UInt32.le_iff_toNat_le] using hdigit
  unfold isControl
  rw [Bool.or_eq_false_iff, Bool.and_eq_false_iff, decide_eq_false_iff_not,
    decide_eq_false_iff_not]
  exact ⟨by omega, .inl (by omega)⟩

theorem margin_of_isDigit {text : Text} (hdigits : ∀ c ∈ text, c.isDigit = true) :
    Margin text := by
  have hne : ∀ d : Char, d.isDigit = false → d ∉ text := fun d hd hmem =>
    absurd (hdigits d hmem) (ne_true_of_eq_false hd)
  refine ⟨⟨hne _ rfl, ?_, fun hlast => hne _ rfl (List.mem_of_getLast? hlast)⟩,
    fun c hc => isControl_of_isDigit (hdigits c hc), hne _ rfl⟩
  refine (List.pairwise_of_forall_mem_list fun c hc d _ hbracket => ?_).isChain
  exact absurd (hbracket ▸ hc) (hne '[' rfl)

theorem margin_ofInt (n : Int) : Margin (Text.ofInt n) := by
  have hdigits (m : Nat) : Margin (Text.ofNat m) :=
    margin_of_isDigit fun c hc => Nat.isDigit_of_mem_toDigits (by decide) (by decide) hc
  cases n with
  | ofNat m => exact hdigits m
  | negSucc m =>
      have hminus : Margin ['-'] := by decide
      exact hminus.append (hdigits (m + 1))

theorem margin_summary (summary : Summary) : Margin summary.text := by
  have hof : Margin " of " := by decide
  have hone : Margin " file is valid" := by decide
  have hmany : Margin " files are valid" := by decide
  unfold Summary.text
  refine (((margin_ofInt _).append hof).append (margin_ofInt _)).append ?_
  split
  · exact hone
  · exact hmany

theorem Margin.print_escape {pictures : Pictures} {margin : Text} (hmargin : Margin margin) :
    print pictures false (escape margin) = .ok (margin ++ ['\n']) := by
  have hshows : Shows (tokens margin) margin := by
    have htokens := hmargin.tokens_append []
    have hchars := Shows.nil.chars_append hmargin.noBackslash
    rw [tokens_nil, List.append_nil, List.append_nil] at htokens
    rw [List.append_nil, List.append_nil] at hchars
    rwa [htokens]
  rw [hmargin.escape_eq]
  refine print_unmarked hshows ⟨hmargin.noControl, fun code _ hinside => ?_⟩
  exact absurd (hinside.subset List.mem_cons_self) hmargin.noColon

end Console

/-! ### Counts put together -/

namespace Summary

def ofOutcomes (outcomes : List Outcome) : Summary :=
  outcomes.foldl record {}

theorem counts_ofOutcomes (outcomes : List Outcome) :
    Batch.Counts (ofOutcomes outcomes) outcomes :=
  Batch.counts_empty.foldl outcomes

theorem total_append (first second : List Outcome) :
    (ofOutcomes (first ++ second)).total =
      (ofOutcomes first).total + (ofOutcomes second).total := by
  simp only [(counts_ofOutcomes _).total, List.countP_append, Int.natCast_add]

theorem valid_append (first second : List Outcome) :
    (ofOutcomes (first ++ second)).valid =
      (ofOutcomes first).valid + (ofOutcomes second).valid := by
  simp only [(counts_ofOutcomes _).valid, List.countP_append, Int.natCast_add]

theorem exitCode_append (first second : List Outcome) :
    (ofOutcomes (first ++ second)).exitCode =
      max (ofOutcomes first).exitCode (ofOutcomes second).exitCode := by
  have hfirst := (counts_ofOutcomes first).valid_le
  have hsecond := (counts_ofOutcomes second).valid_le
  simp only [Batch.exitCode_eq_ite, total_append, valid_append]
  split <;> split <;> split <;> omega

theorem exitCode_le_one (summary : Summary) : summary.exitCode ≤ 1 := by
  rw [Batch.exitCode_eq_ite]
  split <;> omega

theorem insert_failure (before after : List Outcome) {failure : Outcome}
    (hcounted : failure.counted = true) (hinvalid : failure.isValid = false) :
    (ofOutcomes (before ++ failure :: after)).total = (ofOutcomes (before ++ after)).total + 1 ∧
      (ofOutcomes (before ++ failure :: after)).valid = (ofOutcomes (before ++ after)).valid ∧
      (ofOutcomes (before ++ failure :: after)).exitCode = 1 := by
  have hone : ofOutcomes [failure] = { total := 1 } := by
    simp [ofOutcomes, record, hcounted, hinvalid]
  have hexit : ({ total := 1 } : Summary).exitCode = 1 := rfl
  have hbefore := (ofOutcomes before).exitCode_le_one
  have hafter := (ofOutcomes after).exitCode_le_one
  rw [← List.singleton_append]
  simp only [total_append, valid_append, exitCode_append, hone, hexit]
  omega

theorem insert_uncounted (before after : List Outcome) {outcome : Outcome}
    (hcounted : outcome.counted = false) :
    ofOutcomes (before ++ outcome :: after) = ofOutcomes (before ++ after) := by
  simp [ofOutcomes, record, hcounted]

end Summary

/-! ### Checks put together -/

namespace Command

theorem write_finish (around : Surroundings) (settings : Settings) (summary : Summary) :
    (reporterOf around settings).write (.finish summary) = { text := summary.text ++ ['\n'] } := by
  unfold reporterOf
  split
  · simp [Reporter.write, AnnotationReport.text, AnnotationReport.lines]
  · rw [Reporter.write, ConsoleReport.lines, ConsoleReport.printAll,
      (Console.margin_summary summary).print_escape]
    simp [ConsoleReport.printAll, Written.andThen]

theorem fault_write_start (reporter : Reporter) : (reporter.write .start).fault = none := by
  rcases reporter with _ | _ | ⟨inColour, pictures⟩
  · rfl
  · rfl
  · rw [Reporter.write, ConsoleReport.lines, ConsoleReport.fault_printAll_iff]
    exact ConsoleReport.printed_head

def reported (reporter : Reporter) (outcomes : List Outcome) : Text :=
  outcomes.flatMap fun o => (reporter.write (.outcome o)).text

/-- The result of a check that comes to its end: the head of the report, what it says of each file
and the counts, and the exit status that the counts call for. -/
def finished (reporter : Reporter) (outcomes : List Outcome) : CommandResult :=
  ⟨(reporter.write .start).text ++ reported reporter outcomes ++
      (Summary.ofOutcomes outcomes).text ++ ['\n'],
    .exit (Summary.ofOutcomes outcomes).exitCode⟩

/-- How a check ends: where the console is at fault, or else where the search has failed, or else as
if nothing was wrong. -/
def brokenOff (written : Written) (failure : Option FileError) (intact : CommandResult) :
    CommandResult :=
  match written.fault, failure with
  | some fault, _ => ⟨written.text, .broken (.markup fault)⟩
  | none, some cause => ⟨written.text, .broken (.files cause)⟩
  | none, none => intact

def Ends (result : CommandResult) : Prop :=
  ∃ status, result.ending = .exit status

theorem ends_brokenOff_iff {written : Written} {failure : Option FileError}
    {intact : CommandResult} (hends : Ends intact) :
    Ends (brokenOff written failure intact) ↔ failure = none ∧ written.fault = none := by
  rcases written with ⟨text, _ | fault⟩ <;> cases failure <;> simp [brokenOff, Ends] at hends ⊢
  exact hends

/-- How a check breaks off depends on the faults only. -/
theorem ending_brokenOff_eq {written other : Written} {failure : Option FileError}
    {intact otherIntact : CommandResult} (hfault : written.fault = other.fault)
    (hbroken : ¬ (failure = none ∧ other.fault = none)) :
    (brokenOff written failure intact).ending = (brokenOff other failure otherIntact).ending := by
  unfold brokenOff
  rw [hfault]
  cases hother : other.fault with
  | some fault => rfl
  | none =>
      cases failure with
      | some cause => rfl
      | none => exact absurd ⟨rfl, hother⟩ hbroken

section Checks

variable (settings : Settings) (pipeline : Pipeline) (around : Surroundings)

def toldOf (found : Discovery.Found) : List Outcome :=
  found.entries.map (Batch.alone pipeline around.files around.here)

def events (found : Discovery.Found) : List ReportEvent :=
  .start :: (toldOf pipeline around found).map .outcome

theorem map_fst_process (found : Discovery.Found) :
    (({} : Batch).process pipeline around.files around.here found.entries).map Prod.fst =
      events pipeline around found ++
        [.finish (Summary.ofOutcomes (toldOf pipeline around found))] := by
  have hfaithful := SchemaStore.faithful_empty pipeline around.files around.here
  rw [Batch.map_fst_process, Batch.summary_after, Batch.outcomes_eq_map hfaithful]
  rfl

theorem fault_events_iff (reporter : Reporter) (found : Discovery.Found) :
    (reporter.writeAll (events pipeline around found)).fault = none ↔
      ∀ o ∈ toldOf pipeline around found, (reporter.write (.outcome o)).fault = none := by
  rw [Reporter.fault_writeAll_iff, events, List.forall_mem_cons, List.forall_mem_map]
  exact and_iff_right (fault_write_start reporter)

theorem text_events (reporter : Reporter) (found : Discovery.Found)
    (hfault : (reporter.writeAll (events pipeline around found)).fault = none) :
    (reporter.writeAll (events pipeline around found)).text =
      (reporter.write .start).text ++ reported reporter (toldOf pipeline around found) := by
  rw [reporter.text_writeAll ((reporter.fault_writeAll_iff _).mp hfault), events,
    List.flatMap_cons, List.flatMap_map]
  rfl

theorem checkFound_eq (found : Discovery.Found) :
    checkFound settings pipeline around found =
      brokenOff ((reporterOf around settings).writeAll (events pipeline around found)) found.failure
        (finished (reporterOf around settings) (toldOf pipeline around found)) := by
  have hprocess := map_fst_process pipeline around found
  have hfinish (summary : Summary) : (reporterOf around settings).writeAll [.finish summary] =
      { text := summary.text ++ ['\n'] } := by
    rw [Reporter.writeAll, Reporter.writeAll, write_finish]
    simp [Written.andThen]
  unfold checkFound brokenOff
  cases hfailure : found.failure with
  | some cause =>
      -- the last event is the one with the counts, which is not reached
      have hdropped : (({} : Batch).process pipeline around.files around.here
          found.entries).dropLast.map Prod.fst = events pipeline around found := by
        rw [List.map_dropLast, hprocess, List.dropLast_concat]
      dsimp only
      rw [Batch.tell_fst, hdropped]
      cases ((reporterOf around settings).writeAll (events pipeline around found)).fault <;> rfl
  | none =>
      have hwritten := Batch.run_fst pipeline around.files around.here
        (reporterOf around settings) {}
        found.entries
      have hlast := Batch.run_snd pipeline around.files around.here (reporterOf around settings) {}
        found.entries
      rw [hprocess, Reporter.writeAll_append, hfinish] at hwritten
      unfold Batch.run at hwritten hlast
      dsimp only
      rw [hwritten] at hlast ⊢
      cases hfault :
          ((reporterOf around settings).writeAll (events pipeline around found)).fault with
      | some fault =>
          rw [Written.andThen_of_fault (hfault ▸ Option.some_ne_none fault), hfault]
      | none =>
          rw [Written.andThen_of_fault_eq_none hfault] at hlast ⊢
          rw [hlast rfl, Batch.summary_after,
            Batch.outcomes_eq_map (SchemaStore.faithful_empty pipeline around.files around.here),
            text_events pipeline around _ _ hfault, ← List.append_assoc]
          rfl

/-- A check comes to its end if the search did and the console is not at fault. -/
theorem ends_checkFound_iff (found : Discovery.Found) :
    Ends (checkFound settings pipeline around found) ↔
      found.failure = none ∧ ∀ o ∈ toldOf pipeline around found,
        ((reporterOf around settings).write (.outcome o)).fault = none := by
  rw [checkFound_eq, ends_brokenOff_iff ⟨_, rfl⟩, fault_events_iff]

variable {settings pipeline around}

theorem toldOf_andThen {first : Discovery.Found} (hfailure : first.failure = none)
    (second : Discovery.Found) :
    toldOf pipeline around (first.andThen second) =
      toldOf pipeline around first ++ toldOf pipeline around second := by
  rw [Discovery.Found.andThen_of_failure_eq_none hfailure, toldOf, List.map_append]
  rfl

theorem ends_andThen_iff (first second : Discovery.Found) :
    Ends (checkFound settings pipeline around (first.andThen second)) ↔
      Ends (checkFound settings pipeline around first) ∧
        Ends (checkFound settings pipeline around second) := by
  cases hfailure : first.failure with
  | some cause =>
      have hne : first.failure ≠ none := hfailure ▸ Option.some_ne_none cause
      rw [Discovery.Found.andThen_of_failure hne, ends_checkFound_iff]
      exact iff_of_false (fun h => hne h.1) fun h => hne h.1.1
  | none =>
      have hsame : (first.andThen second).failure = second.failure := by
        rw [Discovery.Found.andThen_of_failure_eq_none hfailure]
      simp only [ends_checkFound_iff, toldOf_andThen hfailure, hsame, hfailure, List.mem_append,
        or_imp, forall_and, true_and]
      exact and_left_comm

theorem events_andThen {first : Discovery.Found} (hfailure : first.failure = none)
    (second : Discovery.Found) :
    events pipeline around (first.andThen second) =
      events pipeline around first ++ (toldOf pipeline around second).map .outcome := by
  rw [events, toldOf_andThen hfailure, List.map_append, ← List.cons_append]
  rfl

/-- What follows a check that breaks off is not looked at. -/
theorem checkFound_andThen_of_not_ends {first : Discovery.Found}
    (hbroken : ¬ Ends (checkFound settings pipeline around first)) (second : Discovery.Found) :
    checkFound settings pipeline around (first.andThen second) =
      checkFound settings pipeline around first := by
  cases hfailure : first.failure with
  | some cause =>
      rw [Discovery.Found.andThen_of_failure (hfailure ▸ Option.some_ne_none cause)]
  | none =>
      rw [checkFound_eq, ends_brokenOff_iff ⟨_, rfl⟩, not_and] at hbroken
      have hfault := hbroken hfailure
      rw [checkFound_eq, checkFound_eq, events_andThen hfailure, Reporter.writeAll_append,
        Written.andThen_of_fault hfault]
      unfold brokenOff
      cases hfound :
          ((reporterOf around settings).writeAll (events pipeline around first)).fault with
      | none => exact absurd hfound hfault
      | some fault => rfl

/-- Where the first of two checks comes to its end and the second one breaks off, both together
break off as the second one does. -/
theorem ending_checkFound_andThen {first second : Discovery.Found}
    (hends : Ends (checkFound settings pipeline around first))
    (hbroken : ¬ Ends (checkFound settings pipeline around second)) :
    (checkFound settings pipeline around (first.andThen second)).ending =
      (checkFound settings pipeline around second).ending := by
  rw [checkFound_eq, ends_brokenOff_iff ⟨_, rfl⟩] at hends hbroken
  obtain ⟨hfailure, hfault⟩ := hends
  have hsame : (first.andThen second).failure = second.failure := by
    rw [Discovery.Found.andThen_of_failure_eq_none hfailure]
  have hsecond : ((reporterOf around settings).writeAll (events pipeline around second)).fault =
      ((reporterOf around settings).writeAll
        ((toldOf pipeline around second).map .outcome)).fault := by
    rw [events, Reporter.writeAll, Written.andThen_of_fault_eq_none (fault_write_start _)]
  have hfaults : ((reporterOf around settings).writeAll
      (events pipeline around (first.andThen second))).fault =
        ((reporterOf around settings).writeAll (events pipeline around second)).fault := by
    rw [events_andThen hfailure, Reporter.writeAll_append,
      Written.andThen_of_fault_eq_none hfault, hsecond]
  rw [checkFound_eq, checkFound_eq, hsame]
  exact ending_brokenOff_eq hfaults hbroken

end Checks

/-! ### Single arguments -/

section Arguments

variable (around : Surroundings) (settings : Settings)

def search (paths : List Text) : Discovery.Found :=
  Discovery.ofPaths around.files around.here (.ofParts settings.root) settings.exclusions
    (paths.map .ofText)

theorem search_append (first second : List Text) :
    search around settings (first ++ second) =
      (search around settings first).andThen (search around settings second) := by
  rw [search, List.map_append, Discovery.ofPaths_append]
  rfl

theorem search_singleton (path : Text) :
    search around settings [path] = Discovery.ofPath around.files around.here
      (.ofParts settings.root) settings.exclusions (.ofText path) :=
  Discovery.ofPaths_singleton _ _ _ _ _

/-- A path at which there is nothing, and no name in which is too long. -/
structure Missing (path : Text) (cause : FileError) : Prop where
  find : around.files.find around.here (.ofText path) = .error cause
  short : ∀ p, cause ≠ .nameTooLong p

variable {around settings} {path : Text}

theorem Missing.isDirectory {cause : FileError} (hmissing : Missing around path cause) :
    around.files.isDirectory around.here (.ofText path) = .ok false := by
  obtain ⟨hfind, hshort⟩ := hmissing
  unfold FileTree.isDirectory FileTree.ask
  rw [hfind]
  cases cause with
  | nameTooLong p => exact absurd rfl (hshort p)
  | _ => rfl

theorem search_missing {cause : FileError} {name : Text} (hmissing : Missing around path cause)
    (hname : Discovery.displayName around.files around.here (.ofParts settings.root)
      (.ofText path) = .ok name)
    (hexcluded : (FilePath.ofText path).name ∉ settings.exclusions) :
    search around settings [path] =
      { entries := [.request { displayName := name, path := some (.ofText path) }] } := by
  rw [search_singleton, Discovery.ofPath, Discovery.expand, hmissing.isDirectory]
  dsimp only
  rw [if_neg (by simpa using hexcluded), Discovery.requests, Discovery.request, hname]
  rfl

theorem alone_missing (pipeline : Pipeline) {cause : FileError} (name : Text)
    (hmissing : Missing around path cause) :
    Batch.alone pipeline around.files around.here
        (.request { displayName := name, path := some (.ofText path) }) =
      .failed name (FilePath.ofText path).toText cause.message none := by
  have hload : Request.load around.files around.here
      { displayName := name, path := some (.ofText path) } = .error (.unreadable cause) := by
    simp only [Request.load, FileTree.read, hmissing.find]
    rfl
  rw [Batch.alone, Batch.settle_request, Pipeline.run, hload]
  rfl

theorem search_excluded
    (hfile : around.files.isDirectory around.here (.ofText path) = .ok false)
    (hexcluded : (FilePath.ofText path).name ∈ settings.exclusions) :
    search around settings [path] = { entries := [.excluded (FilePath.ofText path).name] } := by
  rw [search_singleton, Discovery.ofPath, Discovery.expand, hfile]
  dsimp only
  rw [if_pos (by simpa using hexcluded)]

theorem search_tooLong {long : FilePath}
    (hlong : around.files.find around.here (.ofText path) = .error (.nameTooLong long)) :
    search around settings [path] = { failure := some (.nameTooLong long) } := by
  have hask : around.files.isDirectory around.here (.ofText path) = .error (.nameTooLong long) := by
    unfold FileTree.isDirectory FileTree.ask
    rw [hlong]
  rw [search_singleton, Discovery.ofPath, Discovery.expand, hask]

end Arguments

/-! ### The main statement -/

/-- Arguments that are words, none of which is taken for an option. -/
structure AreWords (paths : List Text) : Prop where
  ne_nil : paths ≠ []
  noOption : ∀ path ∈ paths, path.head? ≠ some '-'

theorem scatteredOptions_of_noOption {paths : List Text}
    (hwords : ∀ path ∈ paths, path.head? ≠ some '-') :
    scatteredOptions false paths = some (false, paths) := by
  induction paths with
  | nil => rfl
  | cons path paths ih =>
      obtain ⟨hpath, hpaths⟩ := List.forall_mem_cons.mp hwords
      have hend : (path == optionsEnd) = false := by
        refine beq_false_of_ne ?_
        rintro rfl
        exact hpath rfl
      have hhelp : (path == helpOption) = false := by
        refine beq_false_of_ne ?_
        rintro rfl
        exact hpath rfl
      have hoption : isOption path = false := by
        simp [isOption, hpath]
      simp only [scatteredOptions, hend, hhelp, hoption, ih hpaths, Bool.false_eq_true, if_false,
        Option.map_some]

theorem runArguments_of_words (around : Surroundings) {paths : List Text}
    (hwords : AreWords paths) :
    runArguments around ("xml:validate".toList :: paths) = checkPaths around paths := by
  have hread : ofArguments? ("xml:validate".toList :: paths) = some (.check paths) := by
    have hleading : leadingOptions false ("xml:validate".toList :: paths) =
        some (false, "xml:validate".toList :: paths) := rfl
    have hname : names.contains "xml:validate".toList = true := by decide
    have hempty : paths.isEmpty = false := by
      cases paths with
      | nil => exact absurd rfl hwords.ne_nil
      | cons path paths => rfl
    unfold ofArguments?
    rw [hleading]
    dsimp only
    rw [if_pos hname, scatteredOptions_of_noOption hwords.noOption]
    dsimp only
    unfold ofName?
    rw [hempty]
    rfl
  rw [runArguments, hread]
  rfl

/-- What checks of path arguments come to under settings, where `told` gives the outcomes that a
check tells. -/
structure AddsUp (around : Surroundings) (settings : Settings) (told : List Text → List Outcome) :
    Prop where
  /-- A check comes to its end unless the search or the console is at fault. -/
  ends_iff : ∀ paths, Ends (checkPaths around paths) ↔
    (search around settings paths).failure = none ∧ (settings.annotates = true ∨
      ∀ o ∈ told paths, ∀ reference, ¬ ConsoleReport.NamesEndStyle o reference)
  result : ∀ paths, Ends (checkPaths around paths) →
    checkPaths around paths = finished (reporterOf around settings) (told paths)
  /-- Two lists can be checked together exactly if each of them can. -/
  ends_append : ∀ first second, Ends (checkPaths around (first ++ second)) ↔
    Ends (checkPaths around first) ∧ Ends (checkPaths around second)
  /-- Then the outcomes and the reports follow each other, the counts add up and the exit status is
  the larger one. -/
  sums : ∀ first second, Ends (checkPaths around (first ++ second)) →
    told (first ++ second) = told first ++ told second ∧
    reported (reporterOf around settings) (told (first ++ second)) =
      reported (reporterOf around settings) (told first) ++
        reported (reporterOf around settings) (told second) ∧
    (Summary.ofOutcomes (told (first ++ second))).total =
      (Summary.ofOutcomes (told first)).total + (Summary.ofOutcomes (told second)).total ∧
    (Summary.ofOutcomes (told (first ++ second))).valid =
      (Summary.ofOutcomes (told first)).valid + (Summary.ofOutcomes (told second)).valid ∧
    (Summary.ofOutcomes (told (first ++ second))).exitCode =
      max (Summary.ofOutcomes (told first)).exitCode (Summary.ofOutcomes (told second)).exitCode
  /-- Where the first list cannot be checked, the second one is not looked at. -/
  broken_first : ∀ first second, ¬ Ends (checkPaths around first) →
    checkPaths around (first ++ second) = checkPaths around first
  broken_second : ∀ first second, Ends (checkPaths around first) →
    ¬ Ends (checkPaths around second) →
    (checkPaths around (first ++ second)).ending = (checkPaths around second).ending
  /-- An argument at which there is nothing adds one counted failure. -/
  missing : ∀ before after path cause name, Missing around path cause →
    Discovery.displayName around.files around.here (.ofParts settings.root) (.ofText path) =
      .ok name →
    (FilePath.ofText path).name ∉ settings.exclusions →
    Ends (checkPaths around (before ++ after)) →
    Ends (checkPaths around (before ++ path :: after)) ∧
    told (before ++ path :: after) = told before ++
      .failed name (FilePath.ofText path).toText cause.message none :: told after ∧
    (Summary.ofOutcomes (told (before ++ path :: after))).total =
      (Summary.ofOutcomes (told (before ++ after))).total + 1 ∧
    (Summary.ofOutcomes (told (before ++ path :: after))).valid =
      (Summary.ofOutcomes (told (before ++ after))).valid ∧
    (Summary.ofOutcomes (told (before ++ path :: after))).exitCode = 1
  /-- An excluded file that is named is told and not counted. -/
  excluded : ∀ before after path,
    around.files.isDirectory around.here (.ofText path) = .ok false →
    (FilePath.ofText path).name ∈ settings.exclusions →
    Ends (checkPaths around (before ++ after)) →
    Ends (checkPaths around (before ++ path :: after)) ∧
    told (before ++ path :: after) =
      told before ++ .excluded (FilePath.ofText path).name :: told after ∧
    Summary.ofOutcomes (told (before ++ path :: after)) =
      Summary.ofOutcomes (told (before ++ after))
  /-- An argument with a name that is too long breaks off the check, and the message is that of the
  file system. -/
  tooLong : ∀ before after path long,
    around.files.find around.here (.ofText path) = .error (.nameTooLong long) →
    Ends (checkPaths around before) →
    (checkPaths around (before ++ path :: after)).ending = .broken (.files (.nameTooLong long))

section Sums

variable {around : Surroundings} {settings : Settings} {pipeline : Pipeline}

def told (around : Surroundings) (settings : Settings) (pipeline : Pipeline)
    (paths : List Text) : List Outcome :=
  toldOf pipeline around (search around settings paths)

theorem checkPaths_eq (hload : Settings.load around none = .ok settings)
    (hpipeline : settings.pipeline around.files = .ok pipeline) (paths : List Text) :
    checkPaths around paths =
      checkFound settings pipeline around (search around settings paths) := by
  simp only [checkPaths, hload, hpipeline]
  rfl

variable (hload : Settings.load around none = .ok settings)
  (hpipeline : settings.pipeline around.files = .ok pipeline)

include hload hpipeline

theorem ends_iff (paths : List Text) :
    Ends (checkPaths around paths) ↔
      (search around settings paths).failure = none ∧ (settings.annotates = true ∨
        ∀ o ∈ told around settings pipeline paths, ∀ reference,
          ¬ ConsoleReport.NamesEndStyle o reference) := by
  rw [checkPaths_eq hload hpipeline, ends_checkFound_iff]
  refine and_congr_right fun _ => ?_
  unfold reporterOf
  cases settings.annotates with
  | true => exact iff_of_true (fun _ _ => rfl) (.inl rfl)
  | false =>
      simp only [Bool.false_eq_true, if_false, false_or, ConsoleReport.fault_write_iff]
      rfl

theorem ends_append_iff (first second : List Text) :
    Ends (checkPaths around (first ++ second)) ↔
      Ends (checkPaths around first) ∧ Ends (checkPaths around second) := by
  simp only [checkPaths_eq hload hpipeline, search_append, ends_andThen_iff]

theorem told_append {first : List Text} (hfirst : Ends (checkPaths around first))
    (second : List Text) :
    told around settings pipeline (first ++ second) =
      told around settings pipeline first ++ told around settings pipeline second := by
  rw [checkPaths_eq hload hpipeline, ends_checkFound_iff] at hfirst
  rw [told, search_append, toldOf_andThen hfirst.1]
  rfl

theorem ends_insert_iff (before after : List Text) (path : Text) :
    Ends (checkPaths around (before ++ path :: after)) ↔
      Ends (checkPaths around [path]) ∧ Ends (checkPaths around (before ++ after)) := by
  rw [← List.singleton_append]
  simp only [ends_append_iff hload hpipeline]
  exact and_left_comm

theorem told_insert {before after : List Text} {path : Text}
    (hends : Ends (checkPaths around (before ++ path :: after))) :
    told around settings pipeline (before ++ path :: after) =
      told around settings pipeline before ++
        (told around settings pipeline [path] ++ told around settings pipeline after) := by
  rw [← List.singleton_append] at hends ⊢
  simp only [ends_append_iff hload hpipeline] at hends
  rw [told_append hload hpipeline hends.1, told_append hload hpipeline hends.2.1]

theorem ends_of_search_eq {path : Text} {entry : BatchEntry}
    (hsearch : search around settings [path] = { entries := [entry] })
    (hschema : (Batch.alone pipeline around.files around.here entry).schema = none) :
    Ends (checkPaths around [path]) ∧ told around settings pipeline [path] =
      [Batch.alone pipeline around.files around.here entry] := by
  have htold : told around settings pipeline [path] =
      [Batch.alone pipeline around.files around.here entry] := by
    rw [told, hsearch]
    rfl
  refine ⟨(ends_iff hload hpipeline [path]).mpr ⟨by rw [hsearch], .inr ?_⟩, htold⟩
  rw [htold]
  rintro o ho reference ⟨hreference, -, -⟩
  rw [List.mem_singleton.mp ho, hschema] at hreference
  cases hreference

theorem checkPaths_append_of_not_ends {first : List Text}
    (hbroken : ¬ Ends (checkPaths around first)) (second : List Text) :
    checkPaths around (first ++ second) = checkPaths around first := by
  rw [checkPaths_eq hload hpipeline] at hbroken ⊢
  rw [checkPaths_eq hload hpipeline, search_append]
  exact checkFound_andThen_of_not_ends hbroken _

theorem ending_checkPaths_append {first second : List Text}
    (hfirst : Ends (checkPaths around first)) (hsecond : ¬ Ends (checkPaths around second)) :
    (checkPaths around (first ++ second)).ending = (checkPaths around second).ending := by
  rw [checkPaths_eq hload hpipeline] at hfirst hsecond ⊢
  rw [checkPaths_eq hload hpipeline, search_append]
  exact ending_checkFound_andThen hfirst hsecond

theorem ending_tooLong {long : FilePath} {path : Text}
    (hlong : around.files.find around.here (.ofText path) = .error (.nameTooLong long))
    {before : List Text} (hbefore : Ends (checkPaths around before)) (after : List Text) :
    (checkPaths around (before ++ path :: after)).ending =
      .broken (.files (.nameTooLong long)) := by
  have hfault : ((reporterOf around settings).writeAll
      (events pipeline around { failure := some (.nameTooLong long) })).fault = none :=
    (fault_events_iff pipeline around _ _).mpr fun o ho => nomatch ho
  have hpath : (checkPaths around [path]).ending = .broken (.files (.nameTooLong long)) := by
    rw [checkPaths_eq hload hpipeline, checkFound_eq, search_tooLong hlong]
    simp only [brokenOff, hfault]
  have hbroken : ¬ Ends (checkPaths around [path]) := by
    rintro ⟨status, hstatus⟩
    rw [hpath] at hstatus
    cases hstatus
  have hafter := checkPaths_append_of_not_ends hload hpipeline hbroken after
  rw [List.singleton_append] at hafter
  rw [← hpath, ← hafter]
  exact ending_checkPaths_append hload hpipeline hbefore (hafter ▸ hbroken)

theorem addsUp : AddsUp around settings (told around settings pipeline) where
  ends_iff := ends_iff hload hpipeline
  result paths hends := by
    rw [checkPaths_eq hload hpipeline] at hends ⊢
    rw [checkFound_eq, ends_brokenOff_iff ⟨_, rfl⟩] at hends
    rw [checkFound_eq]
    simp only [brokenOff, hends.1, hends.2]
    rfl
  ends_append := ends_append_iff hload hpipeline
  sums first second hends := by
    have hfirst := ((ends_append_iff hload hpipeline first second).mp hends).1
    rw [told_append hload hpipeline hfirst]
    exact ⟨rfl, List.flatMap_append, Summary.total_append _ _, Summary.valid_append _ _,
      Summary.exitCode_append _ _⟩
  broken_first first second hbroken := checkPaths_append_of_not_ends hload hpipeline hbroken second
  broken_second first second := ending_checkPaths_append hload hpipeline
  missing before after path cause name hmissing hname hexcluded hrest := by
    have hfailed := alone_missing pipeline name hmissing
    obtain ⟨hpath, htold⟩ := ends_of_search_eq hload hpipeline
      (search_missing hmissing hname hexcluded) (congrArg Outcome.schema hfailed)
    have hends := (ends_insert_iff hload hpipeline before after path).mpr ⟨hpath, hrest⟩
    have hbefore := ((ends_append_iff hload hpipeline before after).mp hrest).1
    have hall := told_insert hload hpipeline hends
    rw [htold, hfailed, List.singleton_append] at hall
    rw [hall, told_append hload hpipeline hbefore]
    exact ⟨hends, rfl, Summary.insert_failure _ _ rfl rfl⟩
  excluded before after path hfile hexcluded hrest := by
    obtain ⟨hpath, htold⟩ := ends_of_search_eq hload hpipeline
      (search_excluded hfile hexcluded) rfl
    have hends := (ends_insert_iff hload hpipeline before after path).mpr ⟨hpath, hrest⟩
    have hbefore := ((ends_append_iff hload hpipeline before after).mp hrest).1
    have hall := told_insert hload hpipeline hends
    rw [htold, List.singleton_append] at hall
    rw [hall, told_append hload hpipeline hbefore]
    exact ⟨hends, rfl, Summary.insert_uncounted _ _ rfl⟩
  tooLong before after path long hlong hbefore :=
    ending_tooLong hload hpipeline hlong hbefore after

end Sums

/-- Under settings that are loaded, `xml:validate` with words is a check of path arguments, and what
checks come to adds up over lists of arguments; without a pipeline every check fails alike. -/
theorem checks_add_up {around : Surroundings} {settings : Settings}
    (hload : Settings.load around none = .ok settings) :
    (∀ paths, AreWords paths →
      runArguments around ("xml:validate".toList :: paths) = checkPaths around paths) ∧
    (∀ cause, settings.pipeline around.files = .error cause →
      ∀ paths, checkPaths around paths = { ending := .broken (.files cause) }) ∧
    ∀ pipeline, settings.pipeline around.files = .ok pipeline →
      AddsUp around settings (told around settings pipeline) := by
  refine ⟨fun paths => runArguments_of_words around, fun cause hcause paths => ?_,
    fun pipeline => addsUp hload⟩
  simp only [checkPaths, hload, hcause]

/-- A file that is missing, checked together with an excluded one. -/
theorem missing_beside_excluded :
    let around : Surroundings := {}
    let settings : Settings := { root := [] }
    let told := told around settings { resolver := ⟨[], [], []⟩ }
    let paths : List Text := ["a.xml".toList, "phpunit.xml".toList]
    runArguments around ("xml:validate".toList :: paths) =
        finished (.console false) (told ["a.xml".toList] ++ told ["phpunit.xml".toList]) ∧
      Summary.ofOutcomes (told ["a.xml".toList]) = { total := 1 } ∧
      Summary.ofOutcomes (told ["phpunit.xml".toList]) = {} := by
  intro around settings told paths
  have hload : Settings.load around none = .ok settings := by decide +kernel
  obtain ⟨hwords, -, hsums⟩ := checks_add_up hload
  have hpipeline : settings.pipeline around.files = .ok { resolver := ⟨[], [], []⟩ } := rfl
  have hends : Ends (checkPaths around paths) := ⟨1, by decide +kernel⟩
  have hadds := hsums _ hpipeline
  have htold := (hadds.sums ["a.xml".toList] ["phpunit.xml".toList] hends).1
  refine ⟨?_, by decide +kernel, by decide +kernel⟩
  rw [hwords paths ⟨List.cons_ne_nil _ _, by decide⟩, hadds.result paths hends]
  exact congrArg (finished (.console false)) htold

/-- A file that is missing and has a name that is too long ends the check without any count. -/
theorem tooLong_not_counted :
    let around : Surroundings := {}
    let long : Text := List.replicate 300 'x'
    Settings.load around none = .ok { root := [] } ∧
      around.files.entries = [] ∧
      runArguments around ["xml:validate".toList, long] =
        { output := "XML Validator\n=============\n\n"
          ending := .broken (.files (.nameTooLong ⟨.here, [long]⟩)) } := by
  decide +kernel

end Command

end XmlCheck
