import XmlCheck.Proofs.FormVerdict

/-!
# The normal form of a labelled message

A message that gets a label loses the line ends behind it and then the labels before it, one after
the other. There is one way only to read a text as labels and a body that begins with none, so the
order in which labels come and go does not matter: the body is what stays of a message however often
it is labelled, and the last label is the only one.
-/

namespace XmlCheck

namespace Message

/-- One line label: the word, decimal digits of any script, a colon and a blank of any kind. -/
def IsLabel (text : Text) : Prop :=
  ∃ digits : Text, ∃ c : Char, digits ≠ [] ∧ (∀ d ∈ digits, Text.isDecimalDigit d = true) ∧
    Text.isBlank c = true ∧ text = ("Line " : Text) ++ digits ++ [':', c]

/-- A text is labels, one after the other, and a body that begins with no label. -/
structure Splits (text : Text) (labels : List Text) (body : Text) : Prop where
  text_eq : text = labels.flatten ++ body
  labels : ∀ label ∈ labels, IsLabel label
  bare : ¬ BeginsWithLabel body

theorem afterLabel?_eq_some_iff {text rest : Text} :
    afterLabel? text = some rest ↔ ∃ first, IsLabel first ∧ text = first ++ rest := by
  constructor
  · intro hafter
    obtain ⟨digits, c, hdigits, hall, hc, htext⟩ := exists_of_afterLabel? hafter
    refine ⟨_, ⟨digits, c, hdigits, hall, hc, rfl⟩, ?_⟩
    rw [htext, List.append_assoc _ [':', c]]
    rfl
  · rintro ⟨first, ⟨digits, c, hdigits, hall, hc, rfl⟩, rfl⟩
    rw [List.append_assoc _ [':', c]]
    exact afterLabel?_label hdigits hall hc rest

/-! ### One way to read a text -/

theorem Labels.exists_flatten {text : Text} (hlabels : Labels text) :
    ∃ labels : List Text, (∀ label ∈ labels, IsLabel label) ∧ text = labels.flatten := by
  induction hlabels with
  | none => exact ⟨[], List.forall_mem_nil _, rfl⟩
  | @more digits rest c hdigits hall hc _ ih =>
      obtain ⟨labels, hothers, rfl⟩ := ih
      refine ⟨(("Line " : Text) ++ digits ++ [':', c]) :: labels,
        List.forall_mem_cons.mpr ⟨⟨digits, c, hdigits, hall, hc, rfl⟩, hothers⟩, ?_⟩
      rw [List.flatten_cons, List.append_assoc _ [':', c]]
      rfl

theorem exists_splits (text : Text) : ∃ labels, Splits text labels (dropLabels text) := by
  obtain ⟨front, hfront, htext⟩ := exists_labels_append_dropLabelsFrom text.length text
  obtain ⟨labels, hlabels, rfl⟩ := hfront.exists_flatten
  exact ⟨labels, htext, hlabels, not_beginsWithLabel_dropLabels text⟩

section Splits

variable {text body other : Text} {labels others : List Text}

theorem Splits.afterLabel?_nil (hsplits : Splits text [] body) :
    text = body ∧ afterLabel? text = none := by
  obtain ⟨rfl, -, hbare⟩ := hsplits
  exact ⟨rfl, (afterLabel?_eq_none_iff _).mpr hbare⟩

theorem Splits.afterLabel?_cons {first : Text} (hsplits : Splits text (first :: labels) body) :
    ∃ rest, text = first ++ rest ∧ afterLabel? text = some rest ∧ Splits rest labels body := by
  obtain ⟨rfl, hlabels, hbare⟩ := hsplits
  obtain ⟨hfirst, hothers⟩ := List.forall_mem_cons.mp hlabels
  rw [List.flatten_cons, List.append_assoc]
  exact ⟨_, rfl, afterLabel?_eq_some_iff.mpr ⟨first, hfirst, rfl⟩, rfl, hothers, hbare⟩

theorem Splits.unique (hsplits : Splits text labels body) (hother : Splits text others other) :
    others = labels ∧ other = body := by
  induction labels generalizing text others with
  | nil =>
      obtain ⟨rfl, hnone⟩ := hsplits.afterLabel?_nil
      cases others with
      | nil => exact ⟨rfl, hother.afterLabel?_nil.1.symm⟩
      | cons first others =>
          obtain ⟨rest, -, hsome, -⟩ := hother.afterLabel?_cons
          cases hnone.symm.trans hsome
  | cons first labels ih =>
      obtain ⟨rest, htext, hsome, hrest⟩ := hsplits.afterLabel?_cons
      cases others with
      | nil => cases hother.afterLabel?_nil.2.symm.trans hsome
      | cons second others =>
          obtain ⟨rest', htext', hsome', hrest'⟩ := hother.afterLabel?_cons
          obtain rfl : rest' = rest := Option.some.inj (hsome'.symm.trans hsome)
          obtain ⟨rfl, rfl⟩ := ih hrest hrest'
          obtain rfl : second = first := List.append_cancel_right (htext'.symm.trans htext)
          exact ⟨rfl, rfl⟩

/-- Each turn takes off the first of the labels that are left, until none is. -/
theorem Splits.dropLabelsFrom_eq (hsplits : Splits text labels body) (turns : ℕ) :
    dropLabelsFrom turns text = (labels.drop turns).flatten ++ body := by
  induction turns generalizing text labels with
  | zero => exact hsplits.text_eq
  | succ turns ih =>
      rw [dropLabelsFrom]
      cases labels with
      | nil =>
          obtain ⟨rfl, hnone⟩ := hsplits.afterLabel?_nil
          rw [hnone]
          rfl
      | cons first labels =>
          obtain ⟨rest, -, hsome, hrest⟩ := hsplits.afterLabel?_cons
          rw [hsome]
          exact ih hrest

theorem Splits.dropLabels_eq (hsplits : Splits text labels body) : dropLabels text = body := by
  obtain ⟨others, hothers⟩ := exists_splits text
  exact (hsplits.unique hothers).2

end Splits

/-! ### Labelling -/

theorem withLabel_eq (line : Option Int) (message : Text) :
    withLabel line message = label (lineNumber line) ++ bare message := rfl

theorem dropLineEnds_withLabel (line : Option Int) (message : Text) :
    dropLineEnds (withLabel line message) = withLabel line message :=
  dropLineEnds_append_unended (unended_label _) (unended_bare message)

theorem dropLabel_withLabel (line : Option Int) (message : Text) :
    dropLabel (withLabel line message) = bare message := by
  rw [dropLabel, withLabel_eq, afterLabel?_label_append]
  rfl

theorem isLabel_label (n : ℕ) : IsLabel (label n) :=
  ⟨Text.ofNat n, ' ', ofNat_ne_nil n, fun _ => isDecimalDigit_of_mem_ofNat, by decide, rfl⟩

theorem bare_withLabel (line : Option Int) (message : Text) :
    bare (withLabel line message) = bare message := by
  have hsplits : Splits (withLabel line message) [label (lineNumber line)] (bare message) :=
    ⟨by rw [withLabel_eq, List.flatten_singleton],
      List.forall_mem_singleton.mpr (isLabel_label _), not_beginsWithLabel_dropLabels _⟩
  rw [bare, dropLineEnds_withLabel, hsplits.dropLabels_eq]

theorem dropLineEnds_of_unended {text : Text} (htext : Unended text) :
    dropLineEnds text = text := by
  have hnone : Unended [] := nofun
  have hkept := dropLineEnds_append_unended htext hnone
  rwa [List.append_nil] at hkept

end Message

namespace Diagnostic

open Message

theorem make_make (file message : Text) (line : Option Int) (severity : Severity) :
    let d := make file message line severity
    make d.file d.message (some d.line) d.severity = d := by
  intro d
  have hmessage : dropLineEnds d.message = d.message :=
    dropLineEnds_of_unended (unended_dropLineEnds message)
  rw [make, hmessage]
  rfl

end Diagnostic

namespace Message

/-- A message with a label is that label and a body. The message without the line ends behind it is
labels and this body in one way only, and each turn takes off one label, so taking them off comes to
an end. The body has no line end behind it; it is what stays when the label is taken off again, and
another label takes the place of the first. A diagnostic that is made again stays as it is. -/
theorem withLabel_normal_form (line : Option Int) (message : Text) :
    ∃ (n : ℕ) (labels : List Text) (body : Text),
      (n : Int) = max (line.getD 0) 0 ∧
      withLabel line message = ("Line " : Text) ++ Text.ofNat n ++ ": " ++ body ∧
      Splits (dropLineEnds message) labels body ∧
      (∀ others other, Splits (dropLineEnds message) others other ↔
        others = labels ∧ other = body) ∧
      (∀ turns, dropLabelsFrom turns (dropLineEnds message) =
        (labels.drop turns).flatten ++ body) ∧
      Unended body ∧
      dropLabel (withLabel line message) = body ∧
      (∀ later, withLabel later (withLabel line message) = withLabel later message) ∧
      ∀ (file : Text) (severity : Severity),
        let d := Diagnostic.make file message line severity
        Diagnostic.make d.file d.message (some d.line) d.severity = d := by
  obtain ⟨labels, hsplits⟩ := exists_splits (dropLineEnds message)
  refine ⟨lineNumber line, labels, bare message, Int.toNat_eq_max _, rfl, hsplits,
    fun others other => ⟨hsplits.unique, ?_⟩, hsplits.dropLabelsFrom_eq, unended_bare message,
    dropLabel_withLabel line message, fun later => ?_, fun file severity =>
      Diagnostic.make_make file message line severity⟩
  · rintro ⟨rfl, rfl⟩
    exact hsplits
  · rw [withLabel_eq later, bare_withLabel, withLabel_eq later]

end Message

end XmlCheck
