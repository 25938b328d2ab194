import Mathlib.Data.List.TakeWhile
import XmlCheck.Batch
import XmlCheck.Proofs.AnnotationLines
import XmlCheck.Proofs.DeclaredSchema

/-!
# What an annotation tells

The line of a problem is written twice: as a label before the message, for people, and as a number
of its own in the annotation, where the label is taken off again. The two agree, and the message of
the annotation is the bare one, because a bare message never begins with a label: otherwise taking
off labels would not have stopped. Problems of a file as a whole have no label, and none is taken
off.
-/

namespace XmlCheck

namespace Message

/-- A text that begins with a line label: the word, decimal digits of any script, a colon and a
blank of any kind. -/
def BeginsWithLabel (text : Text) : Prop :=
  ∃ digits : Text, ∃ c : Char, ∃ rest : Text, digits ≠ [] ∧
    (∀ d ∈ digits, Text.isDecimalDigit d = true) ∧ Text.isBlank c = true ∧
    text = ("Line " : Text) ++ digits ++ ':' :: c :: rest

theorem afterLabel?_label {digits : Text} {c : Char} (hdigits : digits ≠ [])
    (hall : ∀ d ∈ digits, Text.isDecimalDigit d = true) (hc : Text.isBlank c = true)
    (rest : Text) :
    afterLabel? (("Line " : Text) ++ digits ++ ':' :: c :: rest) = some rest := by
  have htake : (digits ++ ':' :: c :: rest).takeWhile Text.isDecimalDigit = digits :=
    Text.takeWhile_append_cons hall (by decide) (c :: rest)
  have hdrop : (digits ++ ':' :: c :: rest).dropWhile Text.isDecimalDigit = ':' :: c :: rest :=
    Text.dropWhile_append_cons hall (by decide) (c :: rest)
  obtain ⟨d, more, rfl⟩ := List.exists_cons_of_ne_nil hdigits
  rw [afterLabel?, List.append_assoc, Text.after?_append]
  simp only [htake, hdrop, if_pos hc]

theorem exists_of_afterLabel? {text rest : Text} (hafter : afterLabel? text = some rest) :
    ∃ digits : Text, ∃ c : Char, digits ≠ [] ∧ (∀ d ∈ digits, Text.isDecimalDigit d = true) ∧
      Text.isBlank c = true ∧ text = ("Line " : Text) ++ digits ++ ':' :: c :: rest := by
  unfold afterLabel? at hafter
  split at hafter
  · cases hafter
  · rename_i behind hword
    split at hafter
    · rename_i d more c body htake hdrop
      split at hafter
      · rename_i hc
        cases hafter
        refine ⟨d :: more, c, List.cons_ne_nil d more, fun e he => ?_, hc, ?_⟩
        · exact List.mem_takeWhile_imp (htake ▸ he)
        · rw [Text.after?_eq_some hword, List.append_assoc, ← htake, ← hdrop,
            List.takeWhile_append_dropWhile]
      · cases hafter
    · cases hafter

theorem afterLabel?_eq_none_iff (text : Text) :
    afterLabel? text = none ↔ ¬ BeginsWithLabel text := by
  constructor
  · rintro hnone ⟨digits, c, rest, hdigits, hall, hc, rfl⟩
    rw [afterLabel?_label hdigits hall hc] at hnone
    cases hnone
  · intro hlabel
    cases hafter : afterLabel? text with
    | none => rfl
    | some rest =>
        obtain ⟨digits, c, hdigits, hall, hc, htext⟩ := exists_of_afterLabel? hafter
        exact absurd ⟨digits, c, rest, hdigits, hall, hc, htext⟩ hlabel

theorem not_beginsWithLabel_cons {c : Char} (hc : c ≠ 'L') (rest : Text) :
    ¬ BeginsWithLabel (c :: rest) := by
  rintro ⟨digits, d, more, -, -, -, htext⟩
  exact hc (List.cons.inj htext).1

theorem isDecimalDigit_of_isDigit {c : Char} (hdigit : c.isDigit = true) :
    Text.isDecimalDigit c = true := by
  have hrange : 48 ≤ c.toNat ∧ c.toNat ≤ 57 := by
    simp only [Char.isDigit, Bool.and_eq_true, decide_eq_true_eq, ge_iff_le,
      UInt32.le_iff_toNat_le] at hdigit
    exact hdigit
  have hrun : (Text.decimalZeros.any fun start => start ≤ c.toNat && c.toNat ≤ start + 9) = true :=
    List.any_eq_true.mpr ⟨0x30, by decide, by simpa using hrange⟩
  rw [Text.isDecimalDigit, hrun, Bool.or_true]

theorem ofNat_ne_nil (n : Nat) : Text.ofNat n ≠ [] :=
  List.ne_nil_of_length_pos Nat.length_toDigits_pos

theorem isDecimalDigit_of_mem_ofNat {n : Nat} {c : Char} (hc : c ∈ Text.ofNat n) :
    Text.isDecimalDigit c = true :=
  isDecimalDigit_of_isDigit (Nat.isDigit_of_mem_toDigits (by decide) (by decide) hc)

theorem afterLabel?_label_append (n : Nat) (rest : Text) :
    afterLabel? (label n ++ rest) = some rest := by
  have hlabel : label n ++ rest = ("Line " : Text) ++ Text.ofNat n ++ ':' :: ' ' :: rest :=
    List.append_assoc (("Line " : Text) ++ Text.ofNat n) [':', ' '] rest
  rw [hlabel]
  exact afterLabel?_label (ofNat_ne_nil n) (fun _ => isDecimalDigit_of_mem_ofNat) (by decide) rest

/-! ### Taking labels off -/

theorem suffix_of_afterLabel? {text rest : Text} (hafter : afterLabel? text = some rest) :
    rest <:+ text ∧ rest.length < text.length := by
  obtain ⟨digits, c, -, -, -, rfl⟩ := exists_of_afterLabel? hafter
  refine ⟨⟨("Line " : Text) ++ digits ++ [':', c], by simp⟩, ?_⟩
  simp only [List.length_append, List.length_cons]
  omega

/-- Each label that is taken off shortens the text, so as many steps as it has characters leave none
at its beginning. -/
theorem afterLabel?_dropLabelsFrom {bound : Nat} {text : Text} (hbound : text.length ≤ bound) :
    afterLabel? (dropLabelsFrom bound text) = none := by
  induction bound generalizing text with
  | zero =>
      rw [List.length_eq_zero_iff.mp (Nat.le_zero.mp hbound)]
      rfl
  | succ bound ih =>
      rw [dropLabelsFrom]
      cases hafter : afterLabel? text with
      | none => exact hafter
      | some rest =>
          have hshorter := (suffix_of_afterLabel? hafter).2
          exact ih (by omega)

theorem dropLabelsFrom_suffix (bound : Nat) (text : Text) : dropLabelsFrom bound text <:+ text := by
  induction bound generalizing text with
  | zero => exact List.suffix_refl text
  | succ bound ih =>
      rw [dropLabelsFrom]
      cases hafter : afterLabel? text with
      | none => exact List.suffix_refl text
      | some rest => exact (ih rest).trans (suffix_of_afterLabel? hafter).1

theorem not_beginsWithLabel_dropLabels (text : Text) : ¬ BeginsWithLabel (dropLabels text) :=
  (afterLabel?_eq_none_iff _).mp (afterLabel?_dropLabelsFrom (Nat.le_refl text.length))

/-! ### Taking line ends off -/

/-- A text without a line end at its end. -/
def Unended (text : Text) : Prop :=
  ∀ c, text.getLast? = some c → isLineEnd c = false

theorem unended_dropLineEnds (text : Text) : Unended (dropLineEnds text) := by
  intro c hc
  rw [dropLineEnds, Text.dropWhileEnd, List.getLast?_reverse] at hc
  exact Text.head_of_dropWhile hc

theorem Unended.suffix {text rest : Text} (htext : Unended text) (hrest : rest <:+ text) :
    Unended rest := by
  intro c hc
  obtain ⟨front, rfl⟩ := hrest
  have hne : rest ≠ [] := by
    rintro rfl
    cases hc
  exact htext c (by rw [List.getLast?_append_of_ne_nil front hne, hc])

theorem dropLineEnds_append_unended {front back : Text} (hfront : Unended front)
    (hback : Unended back) : dropLineEnds (front ++ back) = front ++ back := by
  have hkept := Text.dropWhileEnd_append hback []
  rw [List.append_nil] at hkept
  rw [dropLineEnds, Text.dropWhileEnd_append hfront, hkept]
  exact congrArg (front ++ ·) (List.append_nil back)

theorem unended_label (n : Nat) : Unended (label n) := by
  intro c hc
  have hlast : (label n).getLast? = some ' ' :=
    List.getLast?_append_of_ne_nil (("Line " : Text) ++ Text.ofNat n) (List.cons_ne_nil ':' [' '])
  rw [hlast] at hc
  cases hc
  rfl

/-- The message that is left of a library's message when labels and line ends are taken off. -/
def bare (message : Text) : Text :=
  dropLabels (dropLineEnds message)

theorem unended_bare (message : Text) : Unended (bare message) :=
  (unended_dropLineEnds message).suffix (dropLabelsFrom_suffix _ _)

end Message

namespace Diagnostic

open Message

/-! ### Two kinds of diagnostics -/

/-- The diagnostics with which the checks of one file report problems: the library's message and
line are anything at all. -/
inductive Reported (file : Text) : Diagnostic → Prop
  | library (line : Option Int) (message : Text) :
    Reported file (make file (withLabel line message) line .error)
  | form (content : List UInt8) {d : Diagnostic} :
    d ∈ (checkForm content file).diagnostics → Reported file d
  | schema (schema : XmlCheck.Schema) (document : Xml.Document) {found : List Diagnostic}
    {d : Diagnostic} :
    schema.diagnostics document file = .ok found → d ∈ found → Reported file d

inductive OfFile (file : Text) : Diagnostic → Prop
  | couldNotProcess (source error : Text) : OfFile file (couldNotProcess file source error)
  | withoutSchema (policy : NoSchemaPolicy) {d : Diagnostic} :
    d ∈ (Outcome.withoutSchema policy file).diagnostics → OfFile file d
  | excluded {d : Diagnostic} : d ∈ (Outcome.excluded file).diagnostics → OfFile file d

/-- An annotation that shows the line of a diagnostic and, encoded, a message and one line feed. -/
def AnnotatedAs (d : Diagnostic) (message : Text) : Prop :=
  ∃ shown : Text,
    d.annotation = ("::" : Text) ++ d.severity.name ++ " file=" ++ d.file ++ ",line=" ++
      Text.ofNat d.line ++ ",col=0::" ++ shown ∧
    decode shown = message ++ ['\n']

/-- The message behind the label of a diagnostic's line, as the annotation shows it. -/
structure TellsBare (d : Diagnostic) (message : Text) : Prop where
  labelled : d.message = label d.line ++ message
  unlabelled : ¬ BeginsWithLabel message
  unended : Unended message
  annotated : d.AnnotatedAs message

/-- The whole message of a diagnostic without line, as the annotation shows it. -/
structure TellsWhole (d : Diagnostic) : Prop where
  line : d.line = 0
  unlabelled : ¬ BeginsWithLabel d.message
  annotated : d.AnnotatedAs d.message

theorem annotatedAs_dropLabel (d : Diagnostic) : d.AnnotatedAs (dropLabel d.message) :=
  ⟨_, rfl, decode_encode _⟩

theorem dropLabel_of_not_beginsWithLabel {text : Text} (htext : ¬ BeginsWithLabel text) :
    dropLabel text = text := by
  rw [dropLabel, (afterLabel?_eq_none_iff text).mpr htext]
  rfl

theorem exists_eq_of_reported {file : Text} {d : Diagnostic} (hd : Reported file d) :
    ∃ (line : Option Int) (message : Text), d = make file (withLabel line message) line .error := by
  cases hd with
  | library line message => exact ⟨line, message, rfl⟩
  | form content hmem => exact exists_eq_reported_of_checkFormBy hmem
  | schema schema document hfound hmem =>
      unfold Schema.diagnostics at hfound
      cases hviolations : schema.violations document with
      | error cause =>
          rw [hviolations] at hfound
          cases hfound
      | ok violations =>
          rw [hviolations] at hfound
          cases hfound
          obtain ⟨violation, _, rfl⟩ := List.mem_map.mp hmem
          exact ⟨some violation.spot.line, violation.message, rfl⟩

theorem tellsBare_make (file : Text) (line : Option Int) (message : Text) :
    (make file (withLabel line message) line .error).TellsBare (bare message) := by
  have hmessage : (make file (withLabel line message) line .error).message =
      label (lineNumber line) ++ bare message :=
    dropLineEnds_append_unended (unended_label _) (unended_bare message)
  refine ⟨hmessage, not_beginsWithLabel_dropLabels _, unended_bare message, ?_⟩
  have htold := annotatedAs_dropLabel (make file (withLabel line message) line .error)
  rwa [hmessage, dropLabel, afterLabel?_label_append] at htold

theorem tellsWhole_make (file : Text) {c : Char} (hlabel : c ≠ 'L') (hend : isLineEnd c = false)
    (rest : Text) (severity : Severity) : (make file (c :: rest) (some 0) severity).TellsWhole := by
  have hunended : Unended [c] := by
    rintro d hd
    cases hd
    exact hend
  have hmessage : (make file (c :: rest) (some 0) severity).message = c :: dropLineEnds rest :=
    Text.dropWhileEnd_append hunended rest
  have hnone : ¬ BeginsWithLabel (make file (c :: rest) (some 0) severity).message := by
    rw [hmessage]
    exact not_beginsWithLabel_cons hlabel _
  have htold := annotatedAs_dropLabel (make file (c :: rest) (some 0) severity)
  rw [dropLabel_of_not_beginsWithLabel hnone] at htold
  exact ⟨rfl, hnone, htold⟩

theorem tellsWhole_of_ofFile {file : Text} {d : Diagnostic} (hd : OfFile file d) :
    d.TellsWhole := by
  cases hd with
  | couldNotProcess source error => exact tellsWhole_make file (by decide) rfl _ .error
  | withoutSchema policy hmem =>
      rw [List.mem_singleton.mp hmem]
      exact tellsWhole_make file (by decide) rfl _ .warning
  | excluded hmem =>
      rw [List.mem_singleton.mp hmem]
      exact tellsWhole_make file (by decide) rfl _ .warning

/-! ### Reading an annotation back -/

/-- Reads the annotation of a file back, as its line and its message. The name of the file is given,
since a name may go on like the rest of an annotation. -/
def readBack? (file annotation : Text) : Option (Nat × Text) := do
  let rest ← Text.after? ("::" : Text) annotation
  let rest ← (Text.after? Severity.error.name rest).or (Text.after? Severity.warning.name rest)
  let rest ← Text.after? (((" file=" : Text) ++ file ++ ",line=" : Text)) rest
  let shown ← Text.after? (",col=0::" : Text) (rest.dropWhile Char.isDigit)
  return (Nat.ofDigitChars 10 (rest.takeWhile Char.isDigit) 0, (decode shown).dropLast)

theorem after?_severity (severity : Severity) (rest : Text) :
    (Text.after? Severity.error.name (severity.name ++ rest)).or
      (Text.after? Severity.warning.name (severity.name ++ rest)) = some rest := by
  cases severity with
  | error => rw [Text.after?_append, Option.some_or]
  | warning =>
      have herror : Text.after? Severity.error.name (Severity.warning.name ++ rest) = none := rfl
      rw [herror, Option.none_or, Text.after?_append]

theorem readBack?_eq {d : Diagnostic} {message : Text} (hd : d.AnnotatedAs message) :
    readBack? d.file d.annotation = some (d.line, message) := by
  obtain ⟨shown, hshape, hdecode⟩ := hd
  have hdigits : ∀ c ∈ Text.ofNat d.line, c.isDigit = true := fun c hc =>
    Nat.isDigit_of_mem_toDigits (by decide) (by decide) hc
  have hparts : d.annotation = ("::" : Text) ++ (d.severity.name ++
      (((" file=" : Text) ++ d.file ++ ",line=") ++
        (Text.ofNat d.line ++ ((",col=0::" : Text) ++ shown)))) := by
    rw [hshape]
    simp only [List.append_assoc]
  have htake : (Text.ofNat d.line ++ ((",col=0::" : Text) ++ shown)).takeWhile Char.isDigit =
      Text.ofNat d.line := by
    rw [List.takeWhile_append_of_pos hdigits]
    exact List.append_nil _
  have hdrop : (Text.ofNat d.line ++ ((",col=0::" : Text) ++ shown)).dropWhile Char.isDigit =
      (",col=0::" : Text) ++ shown := by
    rw [List.dropWhile_append_of_pos hdigits]
    rfl
  rw [hparts]
  simp only [readBack?, Text.after?_append, after?_severity, Option.bind_eq_bind,
    Option.bind_some, htake, hdrop, hdecode, List.dropLast_concat]
  rw [Text.ofNat, Nat.ofDigitChars_toDigits (by decide) (by decide)]
  rfl

/-! ### What is told of each kind -/

theorem file_of_reported {file : Text} {d : Diagnostic} (hd : Reported file d) : d.file = file := by
  obtain ⟨line, message, rfl⟩ := exists_eq_of_reported hd
  rfl

theorem file_of_ofFile {file : Text} {d : Diagnostic} (hd : OfFile file d) : d.file = file := by
  cases hd with
  | couldNotProcess source error => rfl
  | withoutSchema policy hmem => rw [List.mem_singleton.mp hmem]; rfl
  | excluded hmem => rw [List.mem_singleton.mp hmem]; rfl

/-- A reported problem has its line as a label before a bare message, and its annotation shows that
line and that message; a problem of a file as a whole has line 0, and its annotation shows all of
its message. Either way the annotation reads back as what the diagnostic says. -/
theorem annotation_tells (file : Text) (d : Diagnostic) :
    (Reported file d → ∃ message, d.TellsBare message ∧
      readBack? file d.annotation = some (d.line, message)) ∧
    (OfFile file d → d.TellsWhole ∧ readBack? file d.annotation = some (0, d.message)) := by
  constructor
  · intro hd
    obtain ⟨line, message, heq⟩ := exists_eq_of_reported hd
    have htells : d.TellsBare (bare message) := heq ▸ tellsBare_make file line message
    refine ⟨bare message, htells, ?_⟩
    rw [← file_of_reported hd]
    exact readBack?_eq htells.annotated
  · intro hd
    have htells := tellsWhole_of_ofFile hd
    refine ⟨htells, ?_⟩
    rw [← file_of_ofFile hd, ← htells.line]
    exact readBack?_eq htells.annotated

/-- A problem whose message has a label, a percent sign and line ends of its own, and whose line is
below zero. -/
def labelledTwice : Diagnostic :=
  make "a.xml" (withLabel (some (-3)) "Line 9: 50%\r\n") (some (-3)) .error

def emptySchema : XmlCheck.Schema := ⟨#[], #[], [], [], [], #[]⟩

def oneElement : Xml.Document := ⟨⟨⟨⟨none, "r"⟩, [], [], 2⟩, []⟩⟩

theorem annotation_tells_of_each_kind :
    (∃ message, labelledTwice.TellsBare message ∧
      readBack? "a.xml" labelledTwice.annotation = some (labelledTwice.line, message)) ∧
    (∃ d ∈ (checkForm [] "a.xml").diagnostics, ∃ message, d.TellsBare message ∧
      readBack? "a.xml" d.annotation = some (d.line, message)) ∧
    (∃ found, emptySchema.diagnostics oneElement "a.xml" = .ok found ∧ ∃ d ∈ found, ∃ message,
      d.TellsBare message ∧ readBack? "a.xml" d.annotation = some (d.line, message)) ∧
    ∃ d : Diagnostic, d.message = "Could not process /a.xml. Error: Line 3: x".toList ∧
      d.TellsWhole ∧ readBack? "a.xml" d.annotation = some (0, d.message) := by
  refine ⟨(annotation_tells "a.xml" _).1 (.library (some (-3)) "Line 9: 50%\r\n"), ?_, ?_, ?_⟩
  · exact ⟨_, List.mem_singleton_self _,
      (annotation_tells "a.xml" _).1 (.form [] (List.mem_singleton_self _))⟩
  · have hfound : emptySchema.diagnostics oneElement "a.xml" = .ok [labelled "a.xml" 2
        (Schema.Violation.message ⟨.ofTag oneElement.root.tag, .noRootDeclaration⟩)] := rfl
    exact ⟨_, hfound, _, List.mem_singleton_self _, (annotation_tells "a.xml" _).1
      (.schema emptySchema oneElement hfound (List.mem_singleton_self _))⟩
  · exact ⟨couldNotProcess "a.xml" "/a.xml" "Line 3: x\n", by decide,
      (annotation_tells "a.xml" _).2 (.couldNotProcess "/a.xml" "Line 3: x\n")⟩

/-- Each diagnostic of an outcome is of one of the two kinds. -/
theorem reported_or_ofFile_of_settle {pipeline : Pipeline} {tree : FileTree} {here : List Text}
    {store : SchemaStore} {entry : BatchEntry} {d : Diagnostic}
    (hd : d ∈ (Batch.settle pipeline tree here store entry).1.diagnostics) :
    Reported entry.displayName d ∨ OfFile entry.displayName d := by
  cases entry with
  | excluded name => exact .inr (.excluded hd)
  | request request =>
      obtain ⟨after, stages, hruns⟩ : ∃ after stages, Pipeline.Runs pipeline tree here store request
          (pipeline.run tree here store request).1 after stages :=
        ⟨_, _, Pipeline.runs_run store request⟩
      have houtcome : (Batch.settle pipeline tree here store (.request request)).1 =
          Batch.outcomeOf request (pipeline.run tree here store request).1 := rfl
      rw [houtcome] at hd
      generalize (pipeline.run tree here store request).1 = result at hd hruns
      have hfailed : ∀ {failure : RunFailure}, result = .error failure →
          OfFile request.displayName d := by
        rintro failure rfl
        rw [List.mem_singleton.mp hd]
        exact .couldNotProcess request.source failure.message
      cases hruns with
      | contentless => exact .inr (hfailed rfl)
      | @malformed content first more _ hform =>
          refine .inl (.form content ?_)
          change d ∈ (checkForm content request.displayName).diagnostics
          rw [hform]
          exact hd
      | undeclared => exact .inr (.withoutSchema pipeline.policy hd)
      | declared _ hrest =>
          cases hrest with
          | unreadable => exact .inr (hfailed rfl)
          | unreferred => exact .inr (hfailed rfl)
          | unresolved =>
              rw [List.mem_singleton.mp hd]
              exact .inr (.couldNotProcess _ _)
          | against _ _ hagainst =>
              cases hagainst with
              | unreadable => exact .inr (hfailed rfl)
              | unchecked => exact .inr (hfailed rfl)
              | unloadable =>
                  rw [List.mem_singleton.mp hd]
                  exact .inr (.couldNotProcess _ _)
              | checked _ hvalidate => exact .inl (.schema _ _ hvalidate hd)

end Diagnostic

end XmlCheck
