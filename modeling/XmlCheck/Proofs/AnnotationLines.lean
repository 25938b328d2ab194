import XmlCheck.Report

/-!
# Annotations, line by line

An annotation is read by its line: the program that collects annotations sees neither more nor less
than one of them if each fills exactly one line. Severity, number and encoded message have no line
end, whatever the message is, so the lines of a report are its annotations exactly if no file of a
diagnostic has a line end in its name. Each line end in such a name makes one line more.
-/

namespace XmlCheck

open Message

/-- The lines of a text, cut at each line feed and at each carriage return. What stands behind the
last line end is a line if it is not empty. -/
def Text.lines : Text → List Text
  | [] => []
  | c :: rest =>
    if isLineEnd c then [] :: lines rest
    else
      match lines rest with
      | [] => [[c]]
      | line :: more => (c :: line) :: more

def Text.lineEnds (text : Text) : Nat :=
  text.countP isLineEnd

theorem Text.lineEnds_append (first second : Text) :
    lineEnds (first ++ second) = lineEnds first + lineEnds second :=
  List.countP_append

/-! ### Cutting lines -/

theorem Text.lines_append_feed {line : Text} (hline : line.lineEnds = 0) (rest : Text) :
    lines (line ++ '\n' :: rest) = line :: lines rest := by
  induction line with
  | nil => rfl
  | cons c line ih =>
      have hnone : ∀ d ∈ c :: line, ¬ isLineEnd d := List.countP_eq_zero.mp hline
      have hrest : lineEnds line = 0 :=
        List.countP_eq_zero.mpr fun d hd => hnone d (List.mem_cons_of_mem c hd)
      rw [List.cons_append, lines, if_neg (hnone c List.mem_cons_self), ih hrest]

theorem Text.lines_flatMap_feed {texts : List Text} (htexts : ∀ text ∈ texts, lineEnds text = 0) :
    lines (texts.flatMap fun text => text ++ ['\n']) = texts := by
  induction texts with
  | nil => rfl
  | cons text texts ih =>
      rw [List.flatMap_cons, List.append_assoc, List.singleton_append,
        lines_append_feed (htexts text List.mem_cons_self),
        ih fun other hother => htexts other (List.mem_cons_of_mem text hother)]

theorem Text.length_lines_cons_feed (rest : Text) (c : Char) (hc : isLineEnd c) :
    (lines (c :: rest)).length = (lines rest).length + 1 := by
  rw [lines, if_pos hc, List.length_cons]

/-- A text before a line end has one line more than it has line ends. -/
theorem Text.length_lines_append_feed (text rest : Text) :
    (lines (text ++ '\n' :: rest)).length = text.lineEnds + 1 + (lines rest).length := by
  induction text with
  | nil =>
      have hfeed := length_lines_cons_feed rest '\n' rfl
      rw [List.nil_append, hfeed, lineEnds, List.countP_nil]
      omega
  | cons c text ih =>
      unfold lineEnds at ih ⊢
      by_cases hc : isLineEnd c
      · rw [List.cons_append, length_lines_cons_feed _ c hc, ih, List.countP_cons_of_pos hc]
        omega
      · rw [List.cons_append, lines, if_neg hc, List.countP_cons_of_neg hc]
        cases hlines : lines (text ++ '\n' :: rest) with
        | nil =>
            rw [hlines, List.length_nil] at ih
            omega
        | cons line more =>
            rw [hlines] at ih
            exact ih

theorem Text.length_lines_flatMap_feed (texts : List Text) :
    (lines (texts.flatMap fun text => text ++ ['\n'])).length =
      texts.length + lineEnds texts.flatten := by
  induction texts with
  | nil => rfl
  | cons text texts ih =>
      rw [List.flatMap_cons, List.append_assoc, List.singleton_append, length_lines_append_feed,
        ih, List.length_cons, List.flatten_cons, lineEnds_append]
      omega

/-! ### Where an annotation has line ends -/

theorem Text.lineEnds_ofNat (n : Nat) : lineEnds (ofNat n) = 0 := by
  refine List.countP_eq_zero.mpr fun c hc hend => ?_
  have hdigit : c.isDigit = true := Nat.isDigit_of_mem_toDigits (by decide) (by decide) hc
  unfold isLineEnd at hend
  rcases Bool.or_eq_true_iff.mp hend with hreturn | hfeed
  · rw [beq_iff_eq.mp hreturn] at hdigit
    exact absurd hdigit (by decide)
  · rw [beq_iff_eq.mp hfeed] at hdigit
    exact absurd hdigit (by decide)

theorem Text.lineEnds_ofInt (n : Int) : lineEnds (ofInt n) = 0 := by
  cases n with
  | ofNat n => exact lineEnds_ofNat n
  | negSucc n =>
      have hdigits := lineEnds_ofNat (n + 1)
      unfold lineEnds at hdigits ⊢
      rw [ofInt, List.countP_cons_of_neg (by decide), hdigits]

theorem Severity.lineEnds_name (severity : Severity) : severity.name.lineEnds = 0 := by
  cases severity <;> rfl

theorem Summary.lineEnds_text (summary : Summary) : summary.text.lineEnds = 0 := by
  unfold Summary.text
  simp only [Text.lineEnds_append, Text.lineEnds_ofInt]
  split <;> rfl

theorem Message.encodeChar_of_not_lineEnd {c : Char} (hpercent : c ≠ '%') (hend : ¬ isLineEnd c) :
    encodeChar c = [c] := by
  have hreturn : c ≠ '\r' := fun h => hend (by rw [h]; rfl)
  have hfeed : c ≠ '\n' := fun h => hend (by rw [h]; rfl)
  unfold encodeChar
  rw [if_neg hpercent, if_neg hreturn, if_neg hfeed]

theorem Message.lineEnds_encodeChar (c : Char) : Text.lineEnds (encodeChar c) = 0 := by
  by_cases hpercent : c = '%'
  · rw [hpercent]
    rfl
  by_cases hend : isLineEnd c
  · rcases Bool.or_eq_true_iff.mp hend with h | h <;> rw [beq_iff_eq.mp h] <;> rfl
  · rw [encodeChar_of_not_lineEnd hpercent hend, Text.lineEnds, List.countP_singleton, if_neg hend]

theorem Message.lineEnds_encode (message : Text) : Text.lineEnds (encode message) = 0 := by
  induction message with
  | nil => rfl
  | cons c message ih =>
      have hcons : encode (c :: message) = encodeChar c ++ encode message := List.flatMap_cons
      rw [hcons, Text.lineEnds_append, lineEnds_encodeChar, ih]

theorem Message.decode_cons {c : Char} (hc : c ≠ '%') (rest : Text) :
    decode (c :: rest) = c :: decode rest := by
  rw [decode.eq_4] <;> intros <;> simp_all

/-- An encoded message reads back as the message. -/
theorem Message.decode_encode (message : Text) : decode (encode message) = message := by
  induction message with
  | nil => rfl
  | cons c message ih =>
      have hcons : encode (c :: message) = encodeChar c ++ encode message := List.flatMap_cons
      rw [hcons]
      by_cases hpercent : c = '%'
      · rw [hpercent]
        exact congrArg ('%' :: ·) ih
      by_cases hend : isLineEnd c
      · rcases Bool.or_eq_true_iff.mp hend with h | h
        · rw [beq_iff_eq.mp h]
          exact congrArg ('\r' :: ·) ih
        · rw [beq_iff_eq.mp h]
          exact congrArg ('\n' :: ·) ih
      · rw [encodeChar_of_not_lineEnd hpercent hend, List.singleton_append,
          decode_cons hpercent, ih]

/-- A text is the annotation of a diagnostic: it has the parts of one in order, and its message
reads back as that of the diagnostic without line label, with a line feed behind it. -/
def Diagnostic.ShownBy (d : Diagnostic) (text : Text) : Prop :=
  ∃ shown : Text,
    text = ("::" : Text) ++ d.severity.name ++ " file=" ++ d.file ++ ",line=" ++
      Text.ofNat d.line ++ ",col=0::" ++ shown ∧
    decode shown = dropLabel d.message ++ ['\n'] ∧ shown.lineEnds = 0

theorem Diagnostic.shownBy_annotation (d : Diagnostic) : d.ShownBy d.annotation :=
  ⟨_, rfl, decode_encode _, lineEnds_encode _⟩

theorem Diagnostic.lineEnds_annotation (d : Diagnostic) :
    d.annotation.lineEnds = d.file.lineEnds := by
  have hmarks : Text.lineEnds "::" = 0 ∧ Text.lineEnds " file=" = 0 ∧
      Text.lineEnds ",line=" = 0 ∧ Text.lineEnds ",col=0::" = 0 := by decide
  unfold annotation
  simp only [Text.lineEnds_append, hmarks, Severity.lineEnds_name, Text.lineEnds_ofNat,
    lineEnds_encode, Nat.zero_add, Nat.add_zero]

/-! ### The lines of a report -/

namespace AnnotationReport

/-- What is written about a batch: nothing at its start, each outcome, and the counts. -/
abbrev written (outcomes : List Outcome) (summary : Summary) : Written :=
  Reporter.annotations.writeAll (.start :: outcomes.map .outcome ++ [.finish summary])

/-- The diagnostics of a batch in the order in which they are told. -/
abbrev diagnostics (outcomes : List Outcome) : List Diagnostic :=
  outcomes.flatMap Outcome.diagnostics

theorem writeAll_eq (events : List ReportEvent) :
    Reporter.annotations.writeAll events =
      { text := (events.flatMap lines).flatMap fun line => line ++ ['\n'] } := by
  induction events with
  | nil => rfl
  | cons event events ih =>
      rw [Reporter.writeAll, ih, List.flatMap_cons, List.flatMap_append]
      rfl

theorem written_eq (outcomes : List Outcome) (summary : Summary) :
    written outcomes summary =
      { text := ((diagnostics outcomes).map Diagnostic.annotation ++ [summary.text]).flatMap
          fun line => line ++ ['\n'] } := by
  have hlines : (ReportEvent.start :: outcomes.map ReportEvent.outcome ++
        [ReportEvent.finish summary]).flatMap lines =
      (diagnostics outcomes).map Diagnostic.annotation ++ [summary.text] := by
    rw [List.cons_append, List.flatMap_cons, List.flatMap_append, List.flatMap_map,
      List.map_flatMap]
    rfl
  rw [written, writeAll_eq, hlines]

theorem lineEnds_annotations (diagnostics : List Diagnostic) :
    Text.lineEnds (diagnostics.flatMap Diagnostic.annotation) =
      Text.lineEnds (diagnostics.flatMap Diagnostic.file) := by
  induction diagnostics with
  | nil => rfl
  | cons d rest ih =>
      rw [List.flatMap_cons, List.flatMap_cons, Text.lineEnds_append, Text.lineEnds_append, ih,
        d.lineEnds_annotation]

/-- A report on a batch, cut at its line ends, has one line for each diagnostic, one for the counts,
and one more for each line end in the name of a diagnostic's file. So its lines are the annotations
in order and the counts exactly if no such name has a line end. -/
theorem lines_written_iff (outcomes : List Outcome) (summary : Summary) :
    (written outcomes summary).fault = none ∧
      (Text.lines (written outcomes summary).text).length = (diagnostics outcomes).length + 1 +
        Text.lineEnds ((diagnostics outcomes).flatMap Diagnostic.file) ∧
      (Text.lines (written outcomes summary).text =
          (diagnostics outcomes).map Diagnostic.annotation ++ [summary.text] ↔
        ∀ d ∈ diagnostics outcomes, d.file.lineEnds = 0) ∧
      ∀ d ∈ diagnostics outcomes, d.ShownBy d.annotation := by
  have hlength : (Text.lines (written outcomes summary).text).length =
      (diagnostics outcomes).length + 1 +
        Text.lineEnds ((diagnostics outcomes).flatMap Diagnostic.file) := by
    rw [written_eq, Text.length_lines_flatMap_feed, List.length_append, List.length_map,
      List.length_singleton, List.flatten_append, Text.lineEnds_append, List.flatten_singleton,
      Summary.lineEnds_text, ← List.flatMap_def, lineEnds_annotations,
      Nat.add_zero (Text.lineEnds _)]
  refine ⟨by rw [written_eq], hlength, ⟨fun hlines d hd => ?_, fun hfiles => ?_⟩,
    fun d _ => d.shownBy_annotation⟩
  · rw [hlines, List.length_append, List.length_map, List.length_singleton] at hlength
    have hnone : Text.lineEnds ((diagnostics outcomes).flatMap Diagnostic.file) = 0 := by omega
    exact List.countP_eq_zero.mpr fun c hc =>
      List.countP_eq_zero.mp hnone c (List.mem_flatMap_of_mem hd hc)
  · rw [written_eq]
    refine Text.lines_flatMap_feed fun line hline => ?_
    rcases List.mem_append.mp hline with hannotation | hcounts
    · obtain ⟨d, hd, rfl⟩ := List.mem_map.mp hannotation
      rw [d.lineEnds_annotation, hfiles d hd]
    · rw [List.mem_singleton.mp hcounts, Summary.lineEnds_text]

/-- The outcome of a file whose name has a line feed. -/
def brokenName : Outcome :=
  { file := "a\nb", isValid := false, diagnostics := [.labelled "a\nb" 3 "bad"] }

/-- A line feed in the name of a file makes two lines of one annotation. -/
theorem lines_written_brokenName :
    Text.lines (written [brokenName] { total := 1 }).text =
        (["::error file=a", "b,line=3,col=0::bad%0A", "0 of 1 file is valid"] : List Text) ∧
      Text.lines (written [brokenName] { total := 1 }).text ≠
        (diagnostics [brokenName]).map Diagnostic.annotation ++
          [Summary.text { total := 1 }] := by
  decide

end AnnotationReport

end XmlCheck
