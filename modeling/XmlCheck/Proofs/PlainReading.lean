import XmlCheck.Proofs.ReaderFrame

/-!
# Reading what is written plainly

A name is read up to the first character that it does not go on with, and a value between quotes up
to the closing one. Where a value has no reference and no line end in it, it is read as it is
written.
-/

namespace XmlCheck.Xml.Reader

/-! ### Steps one after the other -/

/-- A step gives a value, leaves a text to be read and does nothing else but note problems. -/
structure Reads {α : Type} (step : Reader α) (s : Progress) (a : α) (left : Text) : Prop where
  result : result step s = a
  rest : (after step s).rest = left
  advanced : s.Advanced (after step s)

section Reads

variable {α β : Type} {s : Progress}

theorem Reads.bind_after {step : Reader α} {next : α → Reader β} {a : α} {b : β}
    {middle left : Text} (hstep : Reads step s a middle)
    (hnext : Reads (next a) (after step s) b left) : Reads (step >>= next) s b left := by
  obtain ⟨rfl, -, hadvanced⟩ := hstep
  exact ⟨hnext.result, hnext.rest, hadvanced.trans hnext.advanced⟩

theorem Reads.bind {step : Reader α} {next : α → Reader β} {a : α} {b : β} {middle left : Text}
    (hstep : Reads step s a middle)
    (hnext : ∀ t, t.rest = middle → s.Advanced t → Reads (next a) t b left) :
    Reads (step >>= next) s b left :=
  hstep.bind_after (hnext _ hstep.rest hstep.advanced)

/-- What holds of the value of the second step holds of that of both. -/
theorem Reads.result_bind {step : Reader α} {next : α → Reader β} {a : α} {middle : Text}
    {P : β → Prop} (hstep : Reads step s a middle)
    (hnext : ∀ t, t.rest = middle → s.Advanced t → P (Reader.result (next a) t)) :
    P (Reader.result (step >>= next) s) := by
  obtain ⟨rfl, hrest, hadvanced⟩ := hstep
  exact hnext _ hrest hadvanced

theorem reads_pure {left : Text} (hrest : s.rest = left) (a : α) : Reads (pure a) s a left :=
  ⟨rfl, hrest, .refl s⟩

theorem reads_get_bind {next : Progress → Reader β} {b : β} {left : Text}
    (hnext : Reads (next s) s b left) : Reads (get >>= next) s b left :=
  ⟨hnext.result, hnext.rest, hnext.advanced⟩

theorem reads_report (problem : Problem) : Reads (report problem) s () s.rest :=
  ⟨rfl, s.rest_withFinding problem, advances_report problem s⟩

theorem reads_next? : Reads next? s s.rest.head? s.rest :=
  ⟨rfl, rfl, .refl s⟩

theorem reads_rest : Reads rest s s.rest s.rest :=
  ⟨rfl, rfl, .refl s⟩

theorem reads_startsWith (word : Text) :
    Reads (startsWith word) s (word.isPrefixOf s.rest) s.rest :=
  ⟨rfl, rfl, .refl s⟩

theorem reads_skip {word left : Text} {n : Nat} (hrest : s.rest = word ++ left)
    (hn : word.length = n) : Reads (skip n) s () left := by
  refine ⟨rfl, ?_, advances_skip n s⟩
  have hsteps := Progress.rest_steps n s
  rw [hrest, ← hn, List.drop_left] at hsteps
  rw [← hn]
  exact hsteps

/-- A run of characters of a class is read up to the first other one. -/
theorem reads_run {p : Char → Bool} {word left : Text} (hrest : s.rest = word ++ left)
    (hword : ∀ c ∈ word, p c = true) (hleft : ∀ c, left.head? = some c → p c = false) :
    Reads (run p) s word left := by
  have htake : s.rest.takeWhile p = word := by
    rw [hrest, List.takeWhile_append_of_pos hword]
    cases left with
    | nil => simp
    | cons c left => simp [hleft c rfl]
  refine reads_get_bind ?_
  rw [htake]
  exact (reads_skip hrest rfl).bind fun t ht _ => reads_pure ht word

theorem reads_skipSpaces {blanks left : Text} (hrest : s.rest = blanks ++ left)
    (hblanks : ∀ c ∈ blanks, isSpace c = true)
    (hleft : ∀ c, left.head? = some c → isSpace c = false) :
    Reads skipSpaces s (!blanks.isEmpty) left :=
  (reads_run hrest hblanks hleft).bind fun _ ht _ => reads_pure ht _

theorem reads_accept {word left : Text} (hrest : s.rest = word ++ left) :
    Reads (accept word) s true left := by
  have hfound : word.isPrefixOf s.rest = true := by
    rw [hrest]
    exact List.isPrefixOf_iff_prefix.mpr (List.prefix_append word left)
  refine (reads_startsWith word).bind fun t ht _ => ?_
  rw [hfound, if_pos rfl]
  exact (reads_skip (ht.trans hrest) rfl).bind fun u hu _ => reads_pure hu true

end Reads

/-! ### Names -/

/-- A name is followed by something that it does not go on with. -/
def EndsName (left : Text) : Prop :=
  ∀ c, left.head? = some c → isNameChar c = false ∧ c ≠ ':'

theorem isNameChar_of_isPlainName {name : Text} (hname : isPlainName name = true) :
    ∀ c ∈ name, isNameChar c = true := by
  cases name with
  | nil => cases hname
  | cons c rest =>
      obtain ⟨hstart, hrest⟩ := Bool.and_eq_true_iff.mp hname
      intro d hd
      rcases List.mem_cons.mp hd with rfl | hd
      · simp [isNameChar, hstart]
      · exact List.all_eq_true.mp hrest d hd

theorem reads_plainName? {s : Progress} {name left : Text} (hrest : s.rest = name ++ left)
    (hname : isPlainName name = true) (hleft : ∀ c, left.head? = some c → isNameChar c = false) :
    Reads plainName? s (some name) left := by
  refine reads_next?.bind fun t ht _ => ?_
  have hchars := isNameChar_of_isPlainName hname
  cases name with
  | nil => cases hname
  | cons c rest =>
      obtain ⟨hstart, -⟩ := Bool.and_eq_true_iff.mp hname
      rw [hrest, List.cons_append, List.head?_cons]
      simp only [hstart, if_true]
      exact (reads_run (ht.trans hrest) hchars hleft).bind fun u hu _ => reads_pure hu _

theorem reads_qName? {s : Progress} {binder : Option Text} {name left : Text}
    (hrest : s.rest = writtenName binder name ++ left) (hname : isPlainName name = true)
    (hbinder : ∀ p, binder = some p → isPlainName p = true) (hleft : EndsName left) :
    Reads qName? s (some (binder, name)) left := by
  have hnoColon : left.head? ≠ some ':' := fun hcolon => (hleft ':' hcolon).2 rfl
  have hnoName : ∀ c, left.head? = some c → isNameChar c = false := fun c hc => (hleft c hc).1
  refine reads_get_bind ?_
  cases binder with
  | none =>
      refine (reads_plainName? hrest hname hnoName).bind fun t ht _ => ?_
      refine reads_next?.bind fun u hu _ => ?_
      rw [ht, if_neg hnoColon]
      exact reads_pure (hu.trans ht) _
  | some p =>
      have hcolon : ∀ c, (':' :: name ++ left).head? = some c → isNameChar c = false := by
        intro c hc
        cases hc
        decide
      rw [writtenName, List.append_assoc] at hrest
      refine (reads_plainName? hrest (hbinder p rfl) hcolon).bind fun t ht _ => ?_
      refine reads_next?.bind fun u hu _ => ?_
      rw [ht, List.cons_append, List.head?_cons, if_pos rfl]
      have hskip : u.rest = [':'] ++ (name ++ left) := hu.trans ht
      refine (reads_skip hskip rfl).bind fun v hv _ => ?_
      refine (reads_plainName? hv hname hnoName).bind fun w hw _ => ?_
      refine reads_next?.bind fun x hx _ => ?_
      rw [hw, if_neg hnoColon]
      exact reads_pure (hx.trans hw) _

/-! ### Values -/

/-- A value that stands for itself between quotes: it has no references, and its only blanks are
spaces. -/
def IsPlainValue (quote : Char) (value : Text) : Prop :=
  ∀ c ∈ value, c ≠ quote ∧ c ≠ '&' ∧ (isSpace c = true → c = ' ')

instance (quote : Char) (value : Text) : Decidable (IsPlainValue quote value) :=
  List.decidableBAll _ value

theorem reads_valueBody {quote : Char} (hquote : quote ≠ '&' ∧ quote ≠ '\r') {value : Text}
    (hvalue : IsPlainValue quote value) {s : Progress} {left : Text}
    (hrest : s.rest = value ++ quote :: left) (hstopped : s.stopped = false) {bound : Nat}
    (hbound : value.length < bound) (found : Gathered) :
    Reads (valueBody quote bound found) s
      (some ⟨value.reverse ++ found.value, value.reverse ++ found.bare⟩) left := by
  induction value generalizing s bound found with
  | nil =>
      obtain ⟨bound, rfl⟩ := Nat.exists_eq_add_one_of_ne_zero (Nat.ne_of_gt hbound)
      refine reads_get_bind ?_
      rw [if_neg (by simp [hstopped])]
      refine reads_rest.bind fun t ht _ => ?_
      rw [hrest, List.nil_append]
      split
      · rename_i hnil
        cases hnil
      · rename_i hreference
        exact absurd (List.cons.inj hreference).1 hquote.1
      · rename_i hreference
        exact absurd (List.cons.inj hreference).1 hquote.1
      · rename_i hreturn
        exact absurd (List.cons.inj hreturn).1 hquote.2
      · rename_i c rest _ _ _ hcons
        obtain ⟨rfl, rfl⟩ := List.cons.inj hcons
        rw [if_pos rfl]
        have hclosing : t.rest = [quote] ++ left := ht.trans hrest
        exact (reads_skip hclosing rfl).bind fun u hu _ => reads_pure hu _
  | cons d value ih =>
      obtain ⟨hdquote, hdreference, hdblank⟩ := hvalue d List.mem_cons_self
      have hvalues : IsPlainValue quote value := fun c hc => hvalue c (List.mem_cons_of_mem d hc)
      obtain ⟨bound, rfl⟩ :=
        Nat.exists_eq_add_one_of_ne_zero (Nat.ne_of_gt (Nat.zero_lt_of_lt hbound))
      have hadded : found.add (if isSpace d = true then ' ' else d) = found.add d := by
        split
        · rename_i hblank
          rw [hdblank hblank]
        · rfl
      have hfurther (t : Progress) (ht : t.rest = [d] ++ (value ++ quote :: left))
          (hadvanced : s.Advanced t) :
          Reads (do
            skip 1
            valueBody quote bound (found.add (if isSpace d = true then ' ' else d))) t
            (some ⟨(d :: value).reverse ++ found.value, (d :: value).reverse ++ found.bare⟩)
            left := by
        refine (reads_skip ht rfl).bind fun u hu htu => ?_
        have hnext := ih hvalues hu ((hadvanced.trans htu).stopped.trans hstopped)
          (Nat.lt_of_succ_lt_succ hbound) (found.add d)
        rw [hadded]
        simpa only [Gathered.add, List.reverse_cons, List.append_assoc, List.singleton_append]
          using hnext
      refine reads_get_bind ?_
      rw [if_neg (by simp [hstopped])]
      refine reads_rest.bind fun t ht hst => ?_
      have htext := ht.trans hrest
      rw [hrest, List.cons_append]
      split
      · rename_i hnil
        cases hnil
      · rename_i hreference
        exact absurd (List.cons.inj hreference).1 hdreference
      · rename_i hreference
        exact absurd (List.cons.inj hreference).1 hdreference
      · rename_i hreturn
        obtain ⟨rfl, -⟩ := List.cons.inj hreturn
        exact absurd (hdblank rfl) (by decide)
      · rename_i c rest _ _ _ hcons
        obtain ⟨rfl, -⟩ := List.cons.inj hcons
        rw [if_neg hdquote]
        extract_lets further
        split
        · refine (reads_report _).bind fun u hu htu => ?_
          exact hfurther u (hu.trans htext) (hst.trans htu)
        · split
          · refine (reads_report _).bind fun u hu htu => ?_
            exact hfurther u (hu.trans htext) (hst.trans htu)
          · exact hfurther t htext hst

theorem reads_attributeValue? {quote : Char} (hquote : quote = '"' ∨ quote = '\x27') {value : Text}
    (hvalue : IsPlainValue quote value) {s : Progress} {left : Text}
    (hrest : s.rest = quote :: (value ++ quote :: left)) (hstopped : s.stopped = false)
    (hcounted : s.left = s.rest.length) :
    Reads (attributeValue? false) s (some (value, value)) left := by
  have hne : quote ≠ '&' ∧ quote ≠ '\r' := by
    rcases hquote with rfl | rfl <;> decide
  refine reads_next?.bind fun t ht hst => ?_
  rw [hrest, List.head?_cons]
  simp only [if_pos hquote]
  have htext : t.rest = [quote] ++ (value ++ quote :: left) := ht.trans hrest
  refine (reads_skip htext rfl).bind fun u hu htu => ?_
  have hsu := hst.trans htu
  refine reads_get_bind ?_
  have hbound : value.length < u.left + 1 := by
    rw [hsu.counted hcounted, hu, List.length_append]
    omega
  refine (reads_valueBody hne hvalue hu (hsu.stopped.trans hstopped) hbound {}).bind
    fun v hv _ => ?_
  have hbare : (value.reverse ++ ([] : Text)).reverse = value := by simp
  simp only [hbare]
  exact reads_pure hv _

end XmlCheck.Xml.Reader
