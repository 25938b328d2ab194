import XmlCheck.Proofs.Transparency

/-!
# What the policy for undeclared files changes

A run asks for the policy at one place only: where a document turns out to declare no schema. So two
policies give any other file the same outcome, and the counts of a batch under one policy are those
under another one moved by the number of its undeclared files. Under `invalid` each of them is
counted as before but is no longer valid; under `skip` none of them is counted at all.
-/

namespace XmlCheck

namespace Pipeline

section Undeclared

variable (tree : FileTree) (here : List Text)

/-- A request whose content is a document that declares no schema, neither in its text nor at its
root. -/
inductive Undeclared : BatchEntry → Prop
  | request {request : Request} {content : List UInt8} {document : Xml.Document}
    (load : request.load tree here = .ok content)
    (form : checkForm content request.displayName = .document document)
    (scan : Declaration.scanOctets? content = none)
    (root : document.declaredSchema? = none) : Undeclared (.request request)

def isUndeclared : BatchEntry → Bool
  | .excluded _ => false
  | .request request =>
    match request.load tree here with
    | .error _ => false
    | .ok content =>
      match checkForm content request.displayName with
      | .broken _ _ => false
      | .document document => (identifier? content document).isNone

theorem isUndeclared_iff (entry : BatchEntry) :
    isUndeclared tree here entry = true ↔ Undeclared tree here entry := by
  constructor
  · intro hundeclared
    cases entry with
    | excluded name => cases hundeclared
    | request request =>
        unfold isUndeclared at hundeclared
        dsimp only at hundeclared
        split at hundeclared
        · cases hundeclared
        · rename_i content hload
          split at hundeclared
          · cases hundeclared
          · rename_i document hform
            have hnone := Option.isNone_iff_eq_none.mp hundeclared
            obtain ⟨hscan, hroot⟩ := Option.or_eq_none_iff.mp hnone
            exact .request hload hform hscan hroot
  · rintro ⟨hload, hform, hscan, hroot⟩
    simp only [isUndeclared, hload, hform, identifier?, hscan, hroot, Option.or_none,
      Option.isNone_none]

instance : DecidablePred (Undeclared tree here) :=
  fun entry => decidable_of_iff _ (isUndeclared_iff tree here entry)

end Undeclared

def under (pipeline : Pipeline) (policy : NoSchemaPolicy) : Pipeline :=
  { pipeline with policy }

variable (pipeline : Pipeline) {tree : FileTree} {here : List Text} {request : Request}

/-- A run that does not come to the policy is the same under any. -/
theorem run_under_eq (hdeclared : ¬ Undeclared tree here (.request request))
    (store : SchemaStore) (policy other : NoSchemaPolicy) :
    (pipeline.under policy).run tree here store request =
      (pipeline.under other).run tree here store request := by
  cases hload : request.load tree here with
  | error cause => simp only [run, hload]
  | ok content =>
      cases hform : checkForm content request.displayName with
      | broken first more => simp only [run, hload, checkContent, hform]
      | document document =>
          cases hfound : identifier? content document with
          | some identifier =>
              simp only [run, hload, checkContent, hform, hfound]
              rfl
          | none =>
              obtain ⟨hscan, hroot⟩ := Option.or_eq_none_iff.mp hfound
              exact absurd (.request hload hform hscan hroot) hdeclared

theorem run_under_of_undeclared (hundeclared : Undeclared tree here (.request request))
    (store : SchemaStore) (policy : NoSchemaPolicy) :
    (pipeline.under policy).run tree here store request =
      (.ok (.withoutSchema policy request.displayName), store) := by
  cases hundeclared with
  | request hload hform hscan hroot =>
      simp only [run, hload, checkContent, hform, identifier?, hscan, hroot, Option.or_none]
      rfl

end Pipeline

namespace Batch

section Policies

variable (pipeline : Pipeline) (tree : FileTree) (here : List Text)

theorem alone_under_eq {entry : BatchEntry} (hdeclared : ¬ Pipeline.Undeclared tree here entry)
    (policy other : NoSchemaPolicy) :
    alone (pipeline.under policy) tree here entry =
      alone (pipeline.under other) tree here entry := by
  cases entry with
  | excluded name => rfl
  | request request =>
      rw [alone, alone, settle_request, settle_request,
        pipeline.run_under_eq hdeclared {} policy other]

theorem alone_under_of_undeclared {entry : BatchEntry}
    (hundeclared : Pipeline.Undeclared tree here entry) (policy : NoSchemaPolicy) :
    alone (pipeline.under policy) tree here entry =
      .withoutSchema policy entry.displayName := by
  cases entry with
  | excluded name => cases hundeclared
  | request request =>
      rw [alone, settle_request, pipeline.run_under_of_undeclared hundeclared]
      rfl

abbrev outcomesUnder (policy : NoSchemaPolicy) (entries : List BatchEntry) : List Outcome :=
  ({} : Batch).outcomes (pipeline.under policy) tree here entries

abbrev summaryUnder (policy : NoSchemaPolicy) (entries : List BatchEntry) : Summary :=
  (({} : Batch).after (pipeline.under policy) tree here entries).summary

theorem outcomesUnder_eq_map (policy : NoSchemaPolicy) (entries : List BatchEntry) :
    outcomesUnder pipeline tree here policy entries =
      entries.map (alone (pipeline.under policy) tree here) :=
  outcomes_eq_map (SchemaStore.faithful_empty _ tree here) entries

/-- Two policies under which a test says the same of each undeclared file. -/
theorem countP_outcomesUnder_eq (test : Outcome → Bool) (policy other : NoSchemaPolicy)
    (hsame : ∀ file, test (.withoutSchema policy file) = test (.withoutSchema other file))
    (entries : List BatchEntry) :
    (outcomesUnder pipeline tree here policy entries).countP test =
      (outcomesUnder pipeline tree here other entries).countP test := by
  rw [outcomesUnder_eq_map, outcomesUnder_eq_map, List.countP_map, List.countP_map]
  refine List.countP_congr fun entry _ => ?_
  by_cases hundeclared : Pipeline.Undeclared tree here entry
  · rw [Function.comp, Function.comp, alone_under_of_undeclared pipeline tree here hundeclared,
      alone_under_of_undeclared pipeline tree here hundeclared, hsame]
  · rw [Function.comp, Function.comp,
      alone_under_eq pipeline tree here hundeclared policy other]

/-- Two policies of which a test holds of the undeclared files under the first one only. -/
theorem countP_outcomesUnder_eq_add (test : Outcome → Bool) (policy other : NoSchemaPolicy)
    (hfirst : ∀ file, test (.withoutSchema policy file) = true)
    (hsecond : ∀ file, test (.withoutSchema other file) = false) (entries : List BatchEntry) :
    (outcomesUnder pipeline tree here policy entries).countP test =
      (outcomesUnder pipeline tree here other entries).countP test +
        entries.countP (Pipeline.Undeclared tree here) := by
  rw [outcomesUnder_eq_map, outcomesUnder_eq_map]
  induction entries with
  | nil => rfl
  | cons entry entries ih =>
      simp only [List.map_cons, List.countP_cons, ih, decide_eq_true_eq]
      by_cases hundeclared : Pipeline.Undeclared tree here entry
      · rw [alone_under_of_undeclared pipeline tree here hundeclared,
          alone_under_of_undeclared pipeline tree here hundeclared, hfirst, hsecond, if_pos rfl,
          if_neg Bool.false_ne_true, if_pos hundeclared]
        omega
      · rw [alone_under_eq pipeline tree here hundeclared policy other, if_neg hundeclared]
        omega

end Policies

/-- On fresh pipelines, any two policies give every entry the same outcome that is not an undeclared
document; an undeclared one has the outcome of its policy. All files are counted alike under `valid`
and `invalid`, and under `skip` all but the undeclared ones. As many failures are counted under
`skip` as under `valid`, and under `invalid` one more for each undeclared file. So the exit status
is the same under `skip` and `valid`, and a success under `invalid` exactly if it is one there and
no file is undeclared. -/
theorem policy_moves_undeclared (pipeline : Pipeline) (tree : FileTree) (here : List Text)
    (entries : List BatchEntry) :
    let outcomes := fun policy => outcomesUnder pipeline tree here policy entries
    let summary := fun policy => summaryUnder pipeline tree here policy entries
    let undeclared := entries.countP (Pipeline.Undeclared tree here)
    (∀ (policy other : NoSchemaPolicy) (index : ℕ) (entry : BatchEntry),
        entries[index]? = some entry → ¬ Pipeline.Undeclared tree here entry →
        (outcomes policy)[index]? = (outcomes other)[index]?) ∧
      (∀ (policy : NoSchemaPolicy) (index : ℕ) (entry : BatchEntry),
        entries[index]? = some entry → Pipeline.Undeclared tree here entry →
        (outcomes policy)[index]? = some (Outcome.withoutSchema policy entry.displayName)) ∧
      (summary .valid).total = (summary .invalid).total ∧
      (summary .valid).total = (summary .skip).total + undeclared ∧
      (summary .skip).total - (summary .skip).valid =
        (summary .valid).total - (summary .valid).valid ∧
      (summary .invalid).total - (summary .invalid).valid =
        (summary .valid).total - (summary .valid).valid + undeclared ∧
      (summary .skip).exitCode = (summary .valid).exitCode ∧
      ((summary .invalid).exitCode = 0 ↔ (summary .valid).exitCode = 0 ∧ undeclared = 0) := by
  intro outcomes summary undeclared
  have hcounts : ∀ policy, Counts (summary policy) (outcomes policy) :=
    fun policy => counts_after entries
  have htotal : ∀ policy, (summary policy).total =
      ((outcomes policy).countP fun o => o.counted : ℕ) := fun policy => (hcounts policy).total
  have hvalid : ∀ policy, (summary policy).valid =
      ((outcomes policy).countP fun o => o.counted && o.isValid : ℕ) :=
    fun policy => (hcounts policy).valid
  have hinvalid : (outcomes .valid).countP (fun o => o.counted) =
      (outcomes .invalid).countP fun o => o.counted :=
    countP_outcomesUnder_eq pipeline tree here _ .valid .invalid (fun _ => rfl) entries
  have hskip : (outcomes .valid).countP (fun o => o.counted) =
      (outcomes .skip).countP (fun o => o.counted) + undeclared :=
    countP_outcomesUnder_eq_add pipeline tree here _ .valid .skip (fun _ => rfl)
      (fun _ => rfl) entries
  have hgoodInvalid : (outcomes .valid).countP (fun o => o.counted && o.isValid) =
      (outcomes .invalid).countP (fun o => o.counted && o.isValid) + undeclared :=
    countP_outcomesUnder_eq_add pipeline tree here _ .valid .invalid (fun _ => rfl)
      (fun _ => rfl) entries
  have hgoodSkip : (outcomes .valid).countP (fun o => o.counted && o.isValid) =
      (outcomes .skip).countP (fun o => o.counted && o.isValid) + undeclared :=
    countP_outcomesUnder_eq_add pipeline tree here _ .valid .skip (fun _ => rfl)
      (fun _ => rfl) entries
  have hle := (hcounts .valid).valid_le
  simp only [exitCode_eq_ite, htotal, hvalid] at hle ⊢
  refine ⟨?_, ?_, ?_, ?_, ?_, ?_, ?_, ?_⟩
  · intro policy other index entry hentry hdeclared
    simp only [outcomes, outcomesUnder_eq_map, List.getElem?_map, hentry, Option.map_some,
      alone_under_eq pipeline tree here hdeclared policy other]
  · intro policy index entry hentry hundeclared
    simp only [outcomes, outcomesUnder_eq_map, List.getElem?_map, hentry, Option.map_some,
      alone_under_of_undeclared pipeline tree here hundeclared]
  · omega
  · omega
  · omega
  · omega
  · rw [hskip, hgoodSkip]
    simp
  · split <;> split <;> simp <;> omega

/-- A document without a schema and an excluded file: only the first one follows the policy. -/
theorem undeclared_beside_excluded :
    let pipeline : Pipeline := { resolver := ⟨[], [], []⟩ }
    let entries : List BatchEntry :=
      [.request { displayName := "a".toList, content := some [60, 97, 47, 62] },
        .excluded "b".toList]
    (outcomesUnder pipeline {} [] .skip entries)[0]? =
        some (Outcome.withoutSchema .skip "a".toList) ∧
      (outcomesUnder pipeline {} [] .skip entries)[1]? =
        (outcomesUnder pipeline {} [] .invalid entries)[1]? ∧
      (summaryUnder pipeline {} [] .invalid entries).exitCode ≠ 0 := by
  intro pipeline entries
  obtain ⟨hsame, hown, _, _, _, _, _, hexit⟩ := policy_moves_undeclared pipeline {} [] entries
  have hundeclared : Pipeline.Undeclared {} []
      (.request { displayName := "a".toList, content := some [60, 97, 47, 62] }) :=
    .request rfl rfl rfl rfl
  refine ⟨hown .skip 0 _ rfl hundeclared, hsame .skip .invalid 1 _ rfl nofun, fun hzero => ?_⟩
  have hnone := (hexit.mp hzero).2
  exact List.countP_eq_zero.mp hnone _ List.mem_cons_self (decide_eq_true hundeclared)

end Batch

end XmlCheck
