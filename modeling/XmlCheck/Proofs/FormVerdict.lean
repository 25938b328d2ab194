import XmlCheck.Proofs.AnnotationReading
import XmlCheck.Proofs.OctetsOfText

/-!
# What the check of form makes of a parser's answer

A parser may answer with a document and log errors all the same, or fail and log nothing, so the
answer has to be weighed. Whatever it is, the check gives a document exactly if it has nothing to
report, and what it reports is what the log says of errors, or else the fault. Each report says what
the parser said under one label, that of its line.
-/

namespace XmlCheck

namespace Message

/-- Line labels, one after the other. -/
inductive Labels : Text → Prop
  | none : Labels []
  | more {digits rest : Text} {c : Char} (digitsNonempty : digits ≠ [])
    (decimal : ∀ d ∈ digits, Text.isDecimalDigit d = true) (blank : Text.isBlank c = true)
    (others : Labels rest) : Labels (("Line " : Text) ++ digits ++ ':' :: c :: rest)

theorem exists_labels_append_dropLabelsFrom (bound : Nat) (text : Text) :
    ∃ labels, Labels labels ∧ text = labels ++ dropLabelsFrom bound text := by
  induction bound generalizing text with
  | zero => exact ⟨[], .none, rfl⟩
  | succ bound ih =>
      rw [dropLabelsFrom]
      cases hafter : afterLabel? text with
      | none => exact ⟨[], .none, rfl⟩
      | some rest =>
          obtain ⟨digits, c, hdigits, hdecimal, hblank, htext⟩ := exists_of_afterLabel? hafter
          obtain ⟨labels, hlabels, hrest⟩ := ih rest
          refine ⟨_, .more hdigits hdecimal hblank hlabels, ?_⟩
          rw [htext, List.append_assoc (("Line " : Text) ++ digits)]
          exact congrArg (fun rest => ("Line " : Text) ++ digits ++ ':' :: c :: rest) hrest

theorem exists_dropLineEnds_append (text : Text) :
    ∃ ends : Text, (∀ c ∈ ends, isLineEnd c = true) ∧ text = dropLineEnds text ++ ends := by
  refine ⟨(text.reverse.takeWhile isLineEnd).reverse, fun c hc => ?_, ?_⟩
  · exact List.mem_takeWhile_imp (List.mem_reverse.mp hc)
  · rw [dropLineEnds, Text.dropWhileEnd, ← List.reverse_append, List.takeWhile_append_dropWhile,
      List.reverse_reverse]

end Message

namespace Diagnostic

open Message

/-- A diagnostic says what was said of a line, or of no line at all: the labels before the text and
the line ends behind it have made way for one label. -/
structure Says (d : Diagnostic) (file : Text) (line : Option Int) (said : Text) : Prop where
  file : d.file = file
  severity : d.severity = .error
  line : (d.line : Int) = max (line.getD 0) 0
  text : ∃ labels body ends : Text, said = labels ++ body ++ ends ∧ Labels labels ∧
    (∀ c ∈ ends, isLineEnd c = true) ∧ d.message = label d.line ++ body ∧ ¬ BeginsWithLabel body
  unended : Unended d.message

theorem says_reported (file : Text) (line : Option Int) (said : Text) :
    (reported file line said).Says file line said := by
  have htold := tellsBare_make file line said
  obtain ⟨ends, hends, hsaid⟩ := exists_dropLineEnds_append said
  obtain ⟨labels, hlabels, hbare⟩ :=
    exists_labels_append_dropLabelsFrom (dropLineEnds said).length (dropLineEnds said)
  refine ⟨rfl, rfl, Int.toNat_eq_max _, ⟨labels, bare said, ends, ?_, hlabels, hends,
    htold.labelled, htold.unlabelled⟩, unended_dropLineEnds _⟩
  rw [bare, dropLabels, ← hbare, ← hsaid]

end Diagnostic

/-! ### Blank contents -/

theorem isAsciiBlank_iff (c : Char) :
    Text.isAsciiBlank c = true ↔ (9 ≤ c.toNat ∧ c.toNat ≤ 13) ∨ c.toNat = 32 := by
  simp only [Text.isAsciiBlank, Bool.or_eq_true, Bool.and_eq_true, decide_eq_true_eq, beq_iff_eq]

theorem isBlankContent_iff (content : List UInt8) : isBlankContent content = true ↔
    ∀ b ∈ content, (9 ≤ b.toNat ∧ b.toNat ≤ 13) ∨ b.toNat = 32 := by
  simp only [isBlankContent, List.all_eq_true, isAsciiBlank_iff, Utf8.toNat_ofNat_octet]

/-- A character that is not ASCII is no blank, and nor is its first octet. -/
theorem Utf8.Spells.isBlankContent_iff {n : Nat} {octets : List UInt8} (hspells : Spells n octets) :
    isBlankContent octets = true ↔ (9 ≤ n ∧ n ≤ 13) ∨ n = 32 := by
  rw [XmlCheck.isBlankContent_iff]
  cases hspells with
  | one => simp
  | two hfirst hsecond =>
      unfold Follows at hsecond
      simp only [List.forall_mem_cons]
      omega
  | three hfirst hsecond hshortest =>
      unfold Follows at hsecond
      simp only [List.forall_mem_cons]
      omega
  | four hfirst hsecond hshortest =>
      unfold Follows at hsecond
      simp only [List.forall_mem_cons]
      omega

/-- A text is blank in UTF-8 exactly if it has nothing but ASCII white space. -/
theorem isBlankContent_encode (text : Text) :
    isBlankContent (Utf8.encode text) = true ↔ ∀ c ∈ text, Text.isAsciiBlank c = true := by
  have hchar : ∀ c, (Utf8.encodeChar c).all (fun b => Text.isAsciiBlank (Char.ofNat b.toNat)) =
      true ↔ Text.isAsciiBlank c = true := by
    intro c
    rw [isAsciiBlank_iff]
    exact (Utf8.spells_encodeChar c).isBlankContent_iff
  rw [isBlankContent, Utf8.encode, List.all_flatMap, List.all_eq_true]
  exact forall₂_congr fun c _ => hchar c

/-! ### Weighing an answer -/

namespace FormCheck

variable {file : Text} {reply : Xml.Reply}

theorem diagnostics_ofReply_of_errors
    (hresult : reply.errors ≠ [] ∨ ∃ document, reply.result = .ok document) :
    (ofReply file reply).diagnostics = reply.errors.map (ofEntry file) := by
  unfold ofReply
  split
  · rename_i first more _ herrors
    rw [herrors]
    rfl
  · rename_i herrors _
    rw [herrors]
    rfl
  · rename_i herrors hfault
    rcases hresult with hresult | ⟨document, hresult⟩
    · exact absurd herrors hresult
    · rw [hfault] at hresult
      cases hresult

theorem diagnostics_ofReply_of_fault {fault : Xml.ParseFault} (herrors : reply.errors = [])
    (hresult : reply.result = .error fault) :
    (ofReply file reply).diagnostics = [.reported file fault.line fault.text] := by
  simp only [ofReply, herrors, hresult, diagnostics]

theorem document?_ofReply (document : Xml.Document) :
    (ofReply file reply).document? = some document ↔
      reply.errors = [] ∧ reply.result = .ok document := by
  have hweighed : ofReply file reply = .document document ↔ _ := ofReply_eq_document_iff
  rw [← hweighed]
  cases ofReply file reply <;> simp [document?]

end FormCheck

/-- Whatever a parser answers, the check of a content gives a document or has something to report, and
never both. It reports that a blank content is empty; and of any other content each error of the
log, in the order of the log, or the fault if the log has no error. So a document is given up if the
log has one. Each report says what was said of a line. -/
theorem checkFormBy_weighs (parse : List UInt8 → Xml.Reply) (content : List UInt8) (file : Text) :
    let check := checkFormBy parse content file
    let reply := parse content
    (check.document?.isSome ↔ check.diagnostics = []) ∧
    (check.ok = true ↔ check.diagnostics = []) ∧
    (∀ document, check.document? = some document ↔ isBlankContent content = false ∧
      reply.errors = [] ∧ reply.result = .ok document) ∧
    (isBlankContent content = true →
      check.diagnostics = [⟨file, 0, "Line 0: Document is empty", .error⟩]) ∧
    (isBlankContent content = false →
      (reply.errors ≠ [] ∨ (∃ document, reply.result = .ok document) →
        List.Forall₂ (fun (entry : Xml.LogEntry) d => d.Says file (some entry.line) entry.message)
          reply.errors check.diagnostics) ∧
      ∀ fault, reply.errors = [] → reply.result = .error fault →
        ∃ d, check.diagnostics = [d] ∧ d.Says file fault.line fault.text) ∧
    ∀ text, content = Utf8.encode text →
      (isBlankContent content = true ↔ ∀ c ∈ text, Text.isAsciiBlank c = true) := by
  intro check reply
  refine ⟨check.document?_isSome_iff, check.ok_iff, fun document => ?_, fun hblank => ?_,
    fun hblank => ?_, ?_⟩
  · unfold check checkFormBy
    split
    · rename_i hblank
      simp [FormCheck.document?, hblank]
    · rename_i hblank
      rw [FormCheck.document?_ofReply, Bool.not_eq_true] at *
      simp [hblank, reply]
  · unfold check checkFormBy
    rw [if_pos hblank]
    rfl
  · have hcheck : check = .ofReply file reply := if_neg (by simp [hblank])
    rw [hcheck]
    refine ⟨fun hresult => ?_, fun fault herrors hresult => ?_⟩
    · rw [FormCheck.diagnostics_ofReply_of_errors hresult, List.forall₂_map_right_iff,
        List.forall₂_same]
      exact fun entry _ => Diagnostic.says_reported file (some entry.line) entry.message
    · exact ⟨_, FormCheck.diagnostics_ofReply_of_fault herrors hresult,
        Diagnostic.says_reported file fault.line fault.text⟩
  · rintro text rfl
    exact isBlankContent_encode text

end XmlCheck
