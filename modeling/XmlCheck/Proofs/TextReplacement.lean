import XmlCheck.Text.Basic
import Mathlib.Data.List.Infix

/-!
# Replacing in a text that is put together

An occurrence cannot lie across a character that it does not have. So a text that is cut at such
characters has the occurrences of its pieces, and replacing in the text is replacing in each piece.
-/

namespace XmlCheck.Text

variable {needle replacement : Text}

theorem isPrefix_of_append_cons {c : Char} (hc : c ∉ needle) (front : Text) {back : Text}
    (hbegins : needle <+: front ++ c :: back) : needle <+: front := by
  rcases Nat.lt_or_ge front.length needle.length with hlong | hshort
  · have hfront : front ++ [c] <+: needle :=
      List.prefix_of_prefix_length_le ⟨back, by simp⟩ hbegins
        (by rw [List.length_append, List.length_singleton]; omega)
    exact absurd (hfront.subset (by simp)) hc
  · exact List.prefix_of_prefix_length_le hbegins (List.prefix_append front _) hshort

theorem infix_append_cons_iff {c : Char} (hc : c ∉ needle) (front back : Text) :
    needle <:+: front ++ c :: back ↔ needle <:+: front ∨ needle <:+: back := by
  constructor
  · intro hwithin
    induction front with
    | nil =>
        rcases List.infix_cons_iff.mp hwithin with hbegins | hback
        · exact .inl (isPrefix_of_append_cons hc [] hbegins).isInfix
        · exact .inr hback
    | cons d front ih =>
        rcases List.infix_cons_iff.mp hwithin with hbegins | hrest
        · exact .inl (isPrefix_of_append_cons hc (d :: front) hbegins).isInfix
        · exact (ih hrest).imp_left fun h => List.infix_cons h
  · rintro (hfront | hback)
    · exact hfront.trans (List.prefix_append front _).isInfix
    · exact hback.trans ((List.suffix_cons c back).trans (List.suffix_append front _)).isInfix

/-- Where a part with a character at its end stands in a text, it stands in what is before a tail
without that character. -/
theorem infix_of_infix_append {part text tail : Text} {c : Char} (htail : c ∉ tail)
    (hpart : part ++ [c] <:+: text ++ tail) : part ++ [c] <:+: text := by
  obtain ⟨before, after, heq⟩ := hpart
  rcases List.append_eq_append_iff.mp heq with ⟨rest, htext, -⟩ | ⟨rest, hbefore, htaileq⟩
  · exact ⟨before, rest, htext.symm⟩
  · rcases List.eq_nil_or_concat rest with rfl | ⟨front, last, rfl⟩
    · exact ⟨before, [], by simpa using hbefore⟩
    · have hlast : last = c := by
        have hsame := congrArg List.getLast? hbefore
        simpa using hsame.symm
      refine absurd ?_ htail
      rw [htaileq, hlast]
      simp

/-- Where a part with a character in front stands in a text, it stands in what is behind a front
without that character. -/
theorem infix_of_append_infix {part front text : Text} {c : Char} (hfront : c ∉ front)
    (hpart : c :: part <:+: front ++ text) : c :: part <:+: text := by
  induction front with
  | nil => exact hpart
  | cons d front ih =>
      rcases List.infix_cons_iff.mp hpart with hbegins | hrest
      · exact absurd (List.cons_prefix_cons.mp hbegins).1 (List.ne_of_not_mem_cons hfront)
      · exact ih (List.not_mem_of_not_mem_cons hfront) hrest

/-- A text whose last character is one that a front does not have ends behind that front. -/
theorem eq_append_of_append_concat {front text part rest : Text} {c : Char} (hfront : c ∉ front)
    (heq : front ++ text = part ++ [c] ++ rest) :
    ∃ behind, text = behind ++ [c] ++ rest := by
  rcases List.append_eq_append_iff.mp heq with ⟨behind, hpart, htext⟩ | ⟨more, hmore, -⟩
  · rcases List.eq_nil_or_concat behind with rfl | ⟨init, last, rfl⟩
    · exact absurd (by rw [← List.append_nil front, ← hpart]; simp) hfront
    · have hlast : last = c := by
        have hsame := congrArg List.getLast? hpart
        simpa using hsame.symm
      exact ⟨init, by rw [htext, hlast, List.concat_eq_append]⟩
  · exact absurd (by rw [hmore]; simp) hfront

/-- A text cannot begin again behind a separator in it and go on into a second copy of itself, if
the words between the two do not have the separator. -/
theorem not_begins_again {passed rest shown between closing after : Text} {c : Char}
    (hbetween : c ∉ between) (hne : between ≠ []) (hshown : shown = passed ++ [c] ++ rest)
    (hback : shown ++ after = rest ++ (between ++ shown ++ closing)) : False := by
  obtain ⟨again, hagain⟩ : rest <+: shown :=
    List.prefix_of_prefix_length_le ⟨_, hback.symm⟩ (List.prefix_append shown after)
      (by rw [hshown, List.length_append]; omega)
  have hlength : again.length = passed.length + 1 := by
    have hsame := congrArg List.length (hagain.trans hshown)
    simp only [List.length_append, List.length_singleton] at hsame
    omega
  have hbegins : again <+: between ++ passed := by
    have hagainWithin : again <+: between ++ shown ++ closing := by
      have hwhole : rest ++ (again ++ after) = rest ++ (between ++ shown ++ closing) := by
        rw [← List.append_assoc, hagain, hback]
      exact ⟨after, List.append_cancel_left hwhole⟩
    have hpassedWithin : between ++ passed <+: between ++ shown ++ closing :=
      ⟨[c] ++ rest ++ closing, by rw [hshown]; simp only [List.append_assoc]⟩
    have hpos := List.length_pos_of_ne_nil hne
    exact List.prefix_of_prefix_length_le hagainWithin hpassedWithin
      (by rw [List.length_append]; omega)
  have hfew := hbegins.sublist.count_le c
  have hsame := congrArg (List.count c) (hagain.trans hshown)
  simp only [List.count_append, List.count_eq_zero.mpr hbetween, List.count_singleton_self]
    at hfew hsame
  omega

/-- A text that ends in another one after a separator is not found where one copy of this one stands
in words without the separator. -/
theorem not_infix_copy {opening closing : Text} {c : Char} (part shown : Text)
    (hopening : c ∉ opening) (hclosing : c ∉ closing) :
    ¬ part ++ c :: shown <:+: opening ++ shown ++ closing := by
  intro hwithin
  have hfew := hwithin.sublist.count_le c
  simp only [List.count_append, List.count_cons_self, List.count_eq_zero.mpr hopening,
    List.count_eq_zero.mpr hclosing] at hfew
  omega

/-- Nor is it found where two copies of this one stand apart in such words. -/
theorem not_infix_copies {opening between closing : Text} {c : Char} (part shown : Text)
    (hopening : c ∉ opening) (hbetween : c ∉ between) (hne : between ≠ [])
    (hclosing : c ∉ closing) :
    ¬ part ++ c :: shown <:+: opening ++ shown ++ (between ++ shown ++ closing) := by
  rintro ⟨before, after, heq⟩
  have hcut : before ++ part ++ [c] ++ (shown ++ after) =
      opening ++ shown ++ (between ++ shown ++ closing) := by
    rw [← heq]
    simp only [List.append_assoc, List.cons_append, List.nil_append]
  rcases List.append_eq_append_iff.mp hcut with ⟨rest, hfront, hback⟩ | ⟨more, hfront, hback⟩
  · obtain ⟨passed, hshown⟩ := eq_append_of_append_concat hopening hfront
    exact not_begins_again hbetween hne hshown hback
  · rcases List.eq_nil_or_concat more with rfl | ⟨init, last, rfl⟩
    · rw [List.append_nil] at hfront
      rw [List.nil_append] at hback
      have hends : opening ++ shown = before ++ part ++ [c] ++ [] := by
        rw [List.append_nil, hfront]
      obtain ⟨passed, hshown⟩ := eq_append_of_append_concat hopening hends
      exact not_begins_again hbetween hne hshown hback.symm
    · -- behind the first copy there are not enough separators
      have hlast : last = c := by
        have hsame := congrArg List.getLast? hfront
        simpa using hsame.symm
      have hmany := congrArg (List.count c) hback
      simp only [hlast, List.concat_eq_append, List.count_append, List.count_eq_zero.mpr hbetween,
        List.count_eq_zero.mpr hclosing, List.count_singleton_self] at hmany
      omega

/-! ### Replacing -/

theorem replaceFrom_skip (skip : Nat) (text : Text) :
    replaceFrom needle replacement skip text =
      replaceFrom needle replacement 0 (text.drop skip) := by
  induction skip generalizing text with
  | zero => rfl
  | succ skip ih =>
      cases text with
      | nil => rfl
      | cons c rest => exact ih rest

theorem replaceFrom_of_not_infix {text : Text} (hnone : ¬ needle <:+: text) :
    replaceFrom needle replacement 0 text = text := by
  induction text with
  | nil => rfl
  | cons c rest ih =>
      have hhere : needle.isPrefixOf (c :: rest) = false := by
        rw [Bool.eq_false_iff]
        exact fun h => hnone (List.isPrefixOf_iff_prefix.mp h).isInfix
      rw [replaceFrom, hhere, if_neg Bool.false_ne_true, ih fun h => hnone (List.infix_cons h)]

/-- What is not found is not replaced. -/
theorem replaceAll_of_not_infix {text : Text} (hnone : ¬ needle <:+: text) :
    replaceAll needle replacement text = text := by
  unfold replaceAll
  split
  · rfl
  · exact replaceFrom_of_not_infix hnone

theorem replaceAll_of_length_lt {text : Text} (hshort : text.length < needle.length) :
    replaceAll needle replacement text = text :=
  replaceAll_of_not_infix fun h => absurd h.length_le (by omega)

/-- An occurrence at the beginning is replaced, and the walk goes on behind it. -/
theorem replaceAll_needle_append (hneedle : needle ≠ []) (text : Text) :
    replaceAll needle replacement (needle ++ text) =
      replacement ++ replaceAll needle replacement text := by
  obtain ⟨c, rest, rfl⟩ := List.exists_cons_of_ne_nil hneedle
  have hhere : (c :: rest).isPrefixOf (c :: rest ++ text) = true :=
    List.isPrefixOf_iff_prefix.mpr (List.prefix_append _ _)
  unfold replaceAll
  rw [List.isEmpty_cons, if_neg Bool.false_ne_true, if_neg Bool.false_ne_true]
  rw [List.cons_append] at hhere ⊢
  rw [replaceFrom, if_pos hhere, List.length_cons, Nat.add_sub_cancel, replaceFrom_skip,
    List.drop_left]

theorem replaceAll_self (hneedle : needle ≠ []) :
    replaceAll needle replacement needle = replacement := by
  have hself : replaceAll needle replacement (needle ++ []) =
      replacement ++ replaceAll needle replacement [] := replaceAll_needle_append hneedle []
  rw [List.append_nil] at hself
  rw [hself, replaceAll]
  split <;> exact List.append_nil replacement

/-- No occurrence begins in a text without the first character of the needle. -/
theorem replaceAll_append_of_not_mem {c : Char} {rest front : Text} (hfront : c ∉ front)
    (text : Text) :
    replaceAll (c :: rest) replacement (front ++ text) =
      front ++ replaceAll (c :: rest) replacement text := by
  unfold replaceAll
  rw [List.isEmpty_cons, if_neg Bool.false_ne_true, if_neg Bool.false_ne_true]
  induction front with
  | nil => rfl
  | cons d front ih =>
      obtain ⟨hhead, hrest⟩ := not_or.mp (mt List.mem_cons.mpr hfront)
      have hhere : (c :: rest).isPrefixOf (d :: (front ++ text)) = false := by
        rw [List.isPrefixOf, beq_eq_false_iff_ne.mpr hhead, Bool.false_and]
      rw [List.cons_append, replaceFrom, hhere, if_neg Bool.false_ne_true, ih hrest]
      rfl

/-- The walk over the first piece never passes over more characters than are left of it. -/
theorem replaceFrom_append_cons {c : Char} (hc : c ∉ needle) (hneedle : needle ≠ []) {skip : Nat}
    {front : Text} (hskip : skip ≤ front.length) (back : Text) :
    replaceFrom needle replacement skip (front ++ c :: back) =
      replaceFrom needle replacement skip front ++ c :: replaceFrom needle replacement 0 back := by
  induction front generalizing skip with
  | nil =>
      obtain rfl : skip = 0 := Nat.le_zero.mp hskip
      have hhere : needle.isPrefixOf (c :: back) = false := by
        rw [Bool.eq_false_iff]
        intro h
        exact hneedle (List.prefix_nil.mp
          (isPrefix_of_append_cons hc [] (List.isPrefixOf_iff_prefix.mp h)))
      rw [List.nil_append, replaceFrom.eq_3, hhere, if_neg Bool.false_ne_true]
      rfl
  | cons d front ih =>
      cases skip with
      | succ skip => exact ih (Nat.le_of_succ_le_succ hskip)
      | zero =>
          rw [List.cons_append, replaceFrom, replaceFrom]
          by_cases hhere : needle <+: d :: front
          · have hthere : needle <+: d :: (front ++ c :: back) :=
              hhere.trans (List.prefix_append (d :: front) (c :: back))
            have hlength := hhere.length_le
            rw [if_pos (List.isPrefixOf_iff_prefix.mpr hhere),
              if_pos (List.isPrefixOf_iff_prefix.mpr hthere),
              ih (by rw [List.length_cons] at hlength; omega), List.append_assoc]
          · have hthere : ¬ needle <+: d :: (front ++ c :: back) := fun h =>
              hhere (isPrefix_of_append_cons hc (d :: front) h)
            rw [if_neg (mt List.isPrefixOf_iff_prefix.mp hhere),
              if_neg (mt List.isPrefixOf_iff_prefix.mp hthere), ih (Nat.zero_le _)]
            rfl

/-- Replacing in two pieces on either side of a character that the needle does not have. -/
theorem replaceAll_append_cons {c : Char} (hc : c ∉ needle) (front back : Text) :
    replaceAll needle replacement (front ++ c :: back) =
      replaceAll needle replacement front ++ c :: replaceAll needle replacement back := by
  unfold replaceAll
  by_cases hneedle : needle = []
  · rw [if_pos (List.isEmpty_iff.mpr hneedle), if_pos (List.isEmpty_iff.mpr hneedle),
      if_pos (List.isEmpty_iff.mpr hneedle)]
  · have hempty := mt List.isEmpty_iff.mp hneedle
    rw [if_neg hempty, if_neg hempty, if_neg hempty,
      replaceFrom_append_cons hc hneedle (Nat.zero_le _)]

end XmlCheck.Text
