import XmlCheck.Proofs.PlainReading
import XmlCheck.Proofs.RootTag

/-!
# Start tags as they are written

Where a start tag is written plainly, the element has exactly what is written: each attribute has
the value between its quotes, and each prefix has the namespace that the tag binds it to. Plain
means that no value has a reference or a line end in it; blanks, quotes of either kind and any order
of the attributes are allowed.
-/

namespace XmlCheck.Xml.Reader

/-! ### Attributes -/

/-- An attribute as it is written in a start tag, with the blanks before it and around its equals
sign. -/
structure WrittenAttribute where
  gap : Text
  binder : Option Text
  key : Text
  beforeEquals : Text
  afterEquals : Text
  quote : Char
  value : Text
  deriving DecidableEq, Repr

namespace WrittenAttribute

def body (a : WrittenAttribute) : Text :=
  writtenName a.binder a.key ++ a.beforeEquals ++ '=' :: a.afterEquals ++ a.quote :: a.value ++
    [a.quote]

def text (a : WrittenAttribute) : Text :=
  a.gap ++ a.body

def raw (a : WrittenAttribute) : RawAttribute :=
  ⟨a.binder, a.key, a.value, a.value⟩

def bindsNamespace (a : WrittenAttribute) : Bool :=
  a.binder.isNone && a.key == "xmlns".toList || a.binder == some "xmlns".toList

/-- The attribute is written by the rules, and its value stands for itself. -/
structure Plain (a : WrittenAttribute) : Prop where
  gap_ne : a.gap ≠ []
  gap : ∀ c ∈ a.gap, isSpace c = true
  binder : ∀ p, a.binder = some p → isPlainName p = true
  key : isPlainName a.key = true
  beforeEquals : ∀ c ∈ a.beforeEquals, isSpace c = true
  afterEquals : ∀ c ∈ a.afterEquals, isSpace c = true
  quote : a.quote = '"' ∨ a.quote = '\x27'
  value : IsPlainValue a.quote a.value

instance (a : WrittenAttribute) : Decidable a.Plain :=
  decidable_of_iff (a.gap ≠ [] ∧ a.gap.all isSpace = true ∧ a.binder.all isPlainName = true ∧
      isPlainName a.key = true ∧ a.beforeEquals.all isSpace = true ∧
      a.afterEquals.all isSpace = true ∧ (a.quote = '"' ∨ a.quote = '\x27') ∧
      IsPlainValue a.quote a.value) <| by
    simp only [List.all_eq_true, Option.all_eq_true]
    exact ⟨fun ⟨h₁, h₂, h₃, h₄, h₅, h₆, h₇, h₈⟩ => ⟨h₁, h₂, h₃, h₄, h₅, h₆, h₇, h₈⟩,
      fun ⟨h₁, h₂, h₃, h₄, h₅, h₆, h₇, h₈⟩ => ⟨h₁, h₂, h₃, h₄, h₅, h₆, h₇, h₈⟩⟩

end WrittenAttribute

theorem isSpace_iff (c : Char) : isSpace c = true ↔ c = ' ' ∨ c = '\t' ∨ c = '\n' ∨ c = '\r' := by
  simp [isSpace, or_assoc]

theorem endsName_of_blanks {blanks left : Text} (hblanks : ∀ c ∈ blanks, isSpace c = true)
    (hleft : EndsName left) : EndsName (blanks ++ left) := by
  intro c hc
  cases blanks with
  | nil => exact hleft c hc
  | cons d blanks =>
      cases hc
      rcases (isSpace_iff c).mp (hblanks c List.mem_cons_self) with rfl | rfl | rfl | rfl <;> decide

theorem WrittenAttribute.Plain.isSpace_quote {a : WrittenAttribute} (ha : a.Plain) :
    isSpace a.quote = false := by
  rcases ha.quote with hquote | hquote <;> rw [hquote] <;> decide

theorem reads_attributePair? {a : WrittenAttribute} (ha : a.Plain) {s : Progress} {left : Text}
    (hrest : s.rest = a.body ++ left) (hstopped : s.stopped = false)
    (hcounted : s.left = s.rest.length) (hlists : s.tokenLists = []) (element : Text) :
    Reads (attributePair? element) s (some (a.binder, a.key, some (a.value, a.value))) left := by
  have hquoted : ∀ c, (a.quote :: (a.value ++ a.quote :: left)).head? = some c →
      isSpace c = false := by
    intro c hc
    cases hc
    exact ha.isSpace_quote
  have hequals : ∀ c, ('=' :: (a.afterEquals ++ a.quote :: (a.value ++ a.quote :: left))).head? =
      some c → isNameChar c = false ∧ c ≠ ':' ∧ isSpace c = false := by
    intro c hc
    cases hc
    decide
  have hname : EndsName (a.beforeEquals ++
      ('=' :: (a.afterEquals ++ a.quote :: (a.value ++ a.quote :: left)))) :=
    endsName_of_blanks ha.beforeEquals fun c hc => ⟨(hequals c hc).1, (hequals c hc).2.1⟩
  have htext : s.rest = writtenName a.binder a.key ++ (a.beforeEquals ++
      ('=' :: (a.afterEquals ++ a.quote :: (a.value ++ a.quote :: left)))) := by
    rw [hrest]
    simp [WrittenAttribute.body]
  refine (reads_qName? htext ha.key ha.binder hname).bind fun t ht hst => ?_
  refine (reads_skipSpaces ht ha.beforeEquals fun c hc => (hequals c hc).2.2).bind
    fun u hu htu => ?_
  have hsign : u.rest = ['='] ++ (a.afterEquals ++ a.quote :: (a.value ++ a.quote :: left)) := hu
  refine (reads_accept hsign).bind fun v hv huv => ?_
  rw [if_pos rfl]
  refine (reads_skipSpaces hv ha.afterEquals hquoted).bind fun w hw hvw => ?_
  have hsw := ((hst.trans htu).trans huv).trans hvw
  have hnoList : w.tokenLists.contains (element, writtenName a.binder a.key) = false := by
    rw [hsw.tokenLists, hlists]
    rfl
  refine reads_get_bind ?_
  rw [hnoList]
  refine (reads_attributeValue? ha.quote ha.value hw (hsw.stopped.trans hstopped)
    (hsw.counted hcounted)).bind fun x hx _ => ?_
  exact reads_pure hx _

/-! ### What attributes give a tag -/

/-- Whether the declaration of a namespace counts: the prefixes and namespaces of namespaces
themselves are left alone, and no prefix is unbound. -/
def namespaceCounts : Option Text → Text → Bool
  | none, space => space ≠ xmlSpace && space ≠ xmlnsSpace
  | some p, space =>
    p ≠ "xml".toList && space ≠ xmlSpace && p ≠ "xmlns".toList && space ≠ xmlnsSpace &&
      !space.isEmpty

namespace TagParts

/-- The parts with one more namespace, if its declaration counts and is the first for its prefix. -/
def withNamespace (parts : TagParts) (binder : Option Text) (space : Text) : TagParts :=
  if namespaceCounts binder space && !parts.namespaces.any (fun n => n.1 == binder) then
    { parts with namespaces := (binder, space) :: parts.namespaces }
  else parts

def withAttribute (parts : TagParts) (a : RawAttribute) : TagParts :=
  if a.binder.isNone && a.key == "xmlns".toList then parts.withNamespace none a.value
  else if a.binder = some "xmlns".toList then parts.withNamespace (some a.key) a.value
  else { parts with attributes := a :: parts.attributes }

end TagParts

theorem reads_reported {α : Type} (s : Progress) (problem : Problem) (a : α) :
    Reads (do report problem; return a) s a s.rest :=
  (reads_report problem).bind fun _ ht _ => reads_pure ht a

theorem Reads.of_eq {α : Type} {step : Reader α} {s : Progress} {a b : α} {left : Text}
    (hreads : Reads step s a left) (hab : a = b) : Reads step s b left :=
  hab ▸ hreads

theorem reads_checkNamespace (s : Progress) (binder : Option Text) (space : Text) :
    Reads (checkNamespace binder space) s (namespaceCounts binder space) s.rest := by
  cases binder with
  | none =>
      unfold checkNamespace namespaceCounts
      extract_lets checked
      have hchecked (u : Unit) (t : Progress) : Reads (checked u) t
          (decide (space ≠ xmlSpace) && decide (space ≠ xmlnsSpace)) t.rest := by
        unfold checked
        split
        · rename_i hspace
          exact (reads_reported t _ false).of_eq (by simp [hspace])
        · rename_i hxml
          split
          · rename_i hspace
            exact (reads_reported t _ false).of_eq (by simp [hspace])
          · rename_i hxmlns
            exact (reads_pure rfl true).of_eq (by simp [hxml, hxmlns])
      dsimp only
      split
      · exact hchecked () s
      · split
        · exact hchecked () s
        · exact (reads_report _).bind fun t ht _ => ht ▸ hchecked () t
  | some p =>
      unfold checkNamespace namespaceCounts
      dsimp only
      split
      · rename_i hp
        split
        · exact (reads_pure rfl false).of_eq (by simp [hp])
        · exact (reads_reported s _ false).of_eq (by simp [hp])
      · rename_i hp
        split
        · rename_i hspace
          exact (reads_reported s _ false).of_eq (by simp [hspace])
        · rename_i hxml
          split
          · rename_i hxmlns
            exact (reads_reported s _ false).of_eq (by simp [hxmlns])
          · rename_i hxmlns
            split
            · rename_i hspace
              exact (reads_reported s _ false).of_eq (by simp [hspace])
            · rename_i hxmlnsSpace
              split
              · rename_i hempty
                exact (reads_reported s _ false).of_eq (by simp [hempty])
              · rename_i hempty
                have hcounts : true = (decide (p ≠ "xml".toList) && decide (space ≠ xmlSpace) &&
                    decide (p ≠ "xmlns".toList) && decide (space ≠ xmlnsSpace) &&
                    !space.isEmpty) := by
                  simp only [hp, hxml, hxmlns, hxmlnsSpace, hempty, ne_eq, not_false_eq_true,
                    decide_true, Bool.not_false, Bool.and_self]
                split
                · exact (reads_pure rfl true).of_eq hcounts
                · exact (reads_reported s _ true).of_eq hcounts

theorem reads_addNamespace (s : Progress) (binder : Option Text) (space : Text) (parts : TagParts) :
    Reads (addNamespace binder space parts) s (parts.withNamespace binder space) s.rest := by
  unfold TagParts.withNamespace
  refine (reads_checkNamespace s binder space).bind fun t ht _ => ?_
  cases namespaceCounts binder space with
  | false => exact reads_pure ht parts
  | true =>
      cases hany : parts.namespaces.any fun n => n.1 == binder with
      | false => exact reads_pure ht _
      | true =>
          exact (reads_report _).bind fun u hu _ => reads_pure (hu.trans ht) parts

theorem reads_addAttribute (s : Progress) (a : RawAttribute) (parts : TagParts) :
    Reads (addAttribute a parts) s (parts.withAttribute a) s.rest := by
  unfold addAttribute TagParts.withAttribute
  split
  · exact reads_addNamespace s _ _ _
  · split
    · exact reads_addNamespace s _ _ _
    · exact reads_pure rfl _

/-! ### Lists of attributes -/

def EndsTag (left : Text) : Prop :=
  ['>'] <+: left ∨ "/>".toList <+: left

theorem EndsTag.head {left : Text} (hleft : EndsTag left) :
    left.head? = some '>' ∨ left.head? = some '/' := by
  rcases hleft with ⟨rest, rfl⟩ | ⟨rest, rfl⟩
  · exact .inl rfl
  · exact .inr rfl

theorem reads_atTagEnd (s : Progress) :
    Reads atTagEnd s ((['>'] : Text).isPrefixOf s.rest || ("/>" : Text).isPrefixOf s.rest) s.rest :=
  ⟨rfl, rfl, .refl s⟩

theorem reads_atTagEnd_of_ends {s : Progress} (hends : EndsTag s.rest) :
    Reads atTagEnd s true s.rest := by
  refine (reads_atTagEnd s).of_eq ?_
  rcases hends with hends | hends
  · rw [List.isPrefixOf_iff_prefix.mpr hends, Bool.true_or]
  · rw [List.isPrefixOf_iff_prefix.mpr hends, Bool.or_true]

theorem reads_atTagEnd_of_head {s : Progress} {c : Char} (hhead : s.rest.head? = some c)
    (hc : c ≠ '>' ∧ c ≠ '/') : Reads atTagEnd s false s.rest := by
  refine (reads_atTagEnd s).of_eq ?_
  obtain ⟨rest, hrest⟩ := List.head?_eq_some_iff.mp hhead
  rw [hrest]
  simp [List.isPrefixOf, Ne.symm hc.1, Ne.symm hc.2]

theorem exists_head_of_isPlainName {name : Text} (hname : isPlainName name = true) :
    ∃ c, name.head? = some c ∧ isNameStart c = true := by
  cases name with
  | nil => cases hname
  | cons c rest => exact ⟨c, rfl, (Bool.and_eq_true_iff.mp hname).1⟩

theorem exists_head_writtenName {binder : Option Text} {name : Text}
    (hname : isPlainName name = true) (hbinder : ∀ p, binder = some p → isPlainName p = true) :
    ∃ c, (writtenName binder name).head? = some c ∧ isNameStart c = true := by
  cases binder with
  | none => exact exists_head_of_isPlainName hname
  | some p =>
      obtain ⟨c, hc, hstart⟩ := exists_head_of_isPlainName (hbinder p rfl)
      refine ⟨c, ?_, hstart⟩
      rw [writtenName, List.head?_append, hc]
      rfl

theorem not_isNameStart_of_lt {c : Char} (hc : c.toNat < 0x20) : isNameStart c = false := by
  have hall : ∀ n < 0x20, isNameStart (Char.ofNat n) = false := by decide
  have hstart := hall c.toNat hc
  rwa [Char.ofNat_toNat] at hstart

theorem head_of_isNameStart {c : Char} (hstart : isNameStart c = true) :
    0x20 ≤ c.toNat ∧ (c ≠ '>' ∧ c ≠ '/') ∧ isSpace c = false := by
  refine ⟨?_, ⟨?_, ?_⟩, ?_⟩
  · refine Nat.le_of_not_lt fun hlow => ?_
    rw [not_isNameStart_of_lt hlow] at hstart
    cases hstart
  · rintro rfl
    exact absurd hstart (by decide)
  · rintro rfl
    exact absurd hstart (by decide)
  · cases hspace : isSpace c with
    | false => rfl
    | true =>
        rcases (isSpace_iff c).mp hspace with rfl | rfl | rfl | rfl <;>
          exact absurd hstart (by decide)

/-- The text of a start tag after the blanks that follow the name of the element: attributes,
perhaps blanks, and the end of the tag with what follows it. -/
def afterGap (gap ending : Text) : List WrittenAttribute → Text
  | [] => ending
  | a :: attributes => a.body ++ (attributes.flatMap WrittenAttribute.text ++ (gap ++ ending))

theorem head_body {a : WrittenAttribute} (ha : a.Plain) (left : Text) :
    ∃ c, (a.body ++ left).head? = some c ∧ isNameStart c = true := by
  obtain ⟨c, hc, hstart⟩ := exists_head_writtenName ha.key ha.binder
  refine ⟨c, ?_, hstart⟩
  simp [WrittenAttribute.body, List.head?_append, hc]

theorem isSpace_head_afterGap {written : List WrittenAttribute} (hplain : ∀ a ∈ written, a.Plain)
    {gap ending : Text} (hending : EndsTag ending) :
    ∀ c, (afterGap gap ending written).head? = some c → isSpace c = false := by
  intro c hc
  cases written with
  | nil =>
      rcases hending.head with hhead | hhead <;>
        · rw [afterGap, hhead] at hc
          cases hc
          decide
  | cons a rest =>
      obtain ⟨d, hd, hstart⟩ := head_body (hplain a List.mem_cons_self)
        (rest.flatMap WrittenAttribute.text ++ (gap ++ ending))
      rw [afterGap, hd] at hc
      cases hc
      exact (head_of_isNameStart hstart).2.2

/-- The blanks before the first attribute, or before the end of the tag. -/
theorem exists_blanks {written : List WrittenAttribute} (hplain : ∀ a ∈ written, a.Plain)
    {gap : Text} (hgap : ∀ c ∈ gap, isSpace c = true) (ending : Text) :
    ∃ blanks, written.flatMap WrittenAttribute.text ++ (gap ++ ending) =
        blanks ++ afterGap gap ending written ∧
      (∀ c ∈ blanks, isSpace c = true) ∧ (blanks = [] → written = []) := by
  cases written with
  | nil => exact ⟨gap, rfl, hgap, fun _ => rfl⟩
  | cons a rest =>
      have ha := hplain a List.mem_cons_self
      refine ⟨a.gap, ?_, ha.gap, fun hnone => absurd hnone ha.gap_ne⟩
      simp [WrittenAttribute.text, afterGap]

theorem reads_attributes {written : List WrittenAttribute} (hplain : ∀ a ∈ written, a.Plain)
    {gap ending : Text} (hgap : ∀ c ∈ gap, isSpace c = true) (hending : EndsTag ending)
    {s : Progress} (hrest : s.rest = afterGap gap ending written) (hstopped : s.stopped = false)
    (hcounted : s.left = s.rest.length) (hlists : s.tokenLists = []) (element : Text) {bound : Nat}
    (hbound : written.length < bound) (parts : TagParts) :
    Reads (attributes element bound parts) s
      (written.foldl (fun parts a => parts.withAttribute a.raw) parts) ending := by
  induction written generalizing s bound parts with
  | nil =>
      obtain ⟨bound, rfl⟩ := Nat.exists_eq_add_one_of_ne_zero (Nat.ne_of_gt hbound)
      refine reads_next?.bind fun t ht hst => ?_
      extract_lets more further
      have hends : EndsTag t.rest := (ht.trans hrest) ▸ hending
      refine (reads_atTagEnd_of_ends hends).bind fun u hu _ => reads_get_bind ?_
      rw [if_pos (by simp)]
      exact reads_pure ((hu.trans ht).trans hrest) parts
  | cons a rest ih =>
      have ha := hplain a List.mem_cons_self
      have hothers : ∀ b ∈ rest, b.Plain := fun b hb => hplain b (List.mem_cons_of_mem a hb)
      obtain ⟨bound, rfl⟩ :=
        Nat.exists_eq_add_one_of_ne_zero (Nat.ne_of_gt (Nat.zero_lt_of_lt hbound))
      rw [afterGap] at hrest
      obtain ⟨c, hc, hstart⟩ := head_body ha (rest.flatMap WrittenAttribute.text ++ (gap ++ ending))
      obtain ⟨hcode, htagEnd, -⟩ := head_of_isNameStart hstart
      obtain ⟨blanks, hblanks, hspaces, hnone⟩ := exists_blanks hothers hgap ending
      refine reads_next?.bind fun t ht hst => ?_
      extract_lets more further
      have hmore : more = true := by
        unfold more
        rw [hrest, hc]
        simp [hcode]
      have hhead : t.rest.head? = some c := by rw [ht, hrest, hc]
      refine (reads_atTagEnd_of_head hhead htagEnd).bind fun u hu htu => reads_get_bind ?_
      have hsu := hst.trans htu
      rw [if_neg (by simp [hmore, hsu.stopped, hstopped])]
      refine (reads_attributePair? ha ((hu.trans ht).trans hrest) (hsu.stopped.trans hstopped)
        (hsu.counted hcounted) (hsu.tokenLists.trans hlists) element).bind fun v hv huv => ?_
      refine (reads_addAttribute v a.raw parts).bind fun w hw hvw => ?_
      have hsw := (hsu.trans huv).trans hvw
      have htext : w.rest = blanks ++ afterGap gap ending rest := (hw.trans hv).trans hblanks
      unfold further
      -- without blanks no attribute follows, and the tag ends right here
      cases blanks with
      | nil =>
          obtain rfl := hnone rfl
          have hends : EndsTag w.rest := htext ▸ hending
          refine (reads_atTagEnd_of_ends hends).bind fun x hx _ => ?_
          rw [if_pos rfl]
          exact reads_pure (hx.trans htext) _
      | cons d blanks =>
          have hd : d ≠ '>' ∧ d ≠ '/' := by
            rcases (isSpace_iff d).mp (hspaces d List.mem_cons_self) with rfl | rfl | rfl | rfl <;>
              decide
          have hblank : w.rest.head? = some d := by
            rw [htext]
            rfl
          refine (reads_atTagEnd_of_head hblank hd).bind fun x hx hwx => ?_
          rw [if_neg (by simp)]
          refine (reads_skipSpaces (hx.trans htext) hspaces
            (isSpace_head_afterGap hothers hending)).bind fun y hy hxy => ?_
          have hsy := (hsw.trans hwx).trans hxy
          rw [List.isEmpty_cons, Bool.not_false, if_pos rfl]
          exact ih hothers hy (hsy.stopped.trans hstopped) (hsy.counted hcounted)
            (hsy.tokenLists.trans hlists) (Nat.lt_of_succ_lt_succ hbound) _

/-! ### Start tags -/

def resolvedIn (scope : Scope) (a : RawAttribute) : Attribute :=
  { name := ⟨a.binder.bind fun p => Scope.find? scope (some p), a.key⟩
    value := a.value
    bare := a.bare }

theorem reads_resolveAttributes (element : Text) (scope : Scope) (raw : List RawAttribute)
    (s : Progress) :
    Reads (resolveAttributes element scope raw) s (raw.map fun a => (a, resolvedIn scope a))
      s.rest := by
  induction raw generalizing s with
  | nil => exact reads_pure rfl []
  | cons a rest ih =>
      unfold resolveAttributes
      extract_lets found
      have hfound (space : Option Text) (t : Progress)
          (hspace : space = a.binder.bind fun p => Scope.find? scope (some p)) :
          Reads (found space) t ((a :: rest).map fun a => (a, resolvedIn scope a)) t.rest := by
        refine (ih t).bind fun u hu _ => ?_
        exact (reads_pure hu _).of_eq (by rw [List.map_cons, resolvedIn, hspace])
      cases hbinder : a.binder with
      | none => exact hfound none s (by rw [hbinder]; rfl)
      | some p =>
          dsimp only
          cases hspace : Scope.find? scope (some p) with
          | some space => exact hfound (some space) s (by rw [hbinder, Option.bind_some, hspace])
          | none =>
              refine (reads_report _).bind fun t ht _ => ?_
              exact ht ▸ hfound none t (by rw [hbinder, Option.bind_some, hspace])

/-- The first attribute with a name is kept. -/
theorem exists_reads_withoutRepeats (seen rest : List (RawAttribute × Attribute)) (s : Progress) :
    ∃ kept, Reads (withoutRepeats seen rest) s kept s.rest ∧
      ∀ name : QName, kept.find? (fun a => a.name = name) =
        ((seen.reverse ++ rest).map Prod.snd).find? fun a => a.name = name := by
  induction rest generalizing seen s with
  | nil => exact ⟨_, reads_pure rfl _, fun name => by rw [List.append_nil]⟩
  | cons a rest ih =>
      unfold withoutRepeats
      cases hseen : seen.find? fun b => b.2.name = a.2.name with
      | none =>
          obtain ⟨kept, hreads, hkept⟩ := ih (a :: seen) s
          refine ⟨kept, hreads, fun name => ?_⟩
          rw [hkept, List.reverse_cons, List.append_assoc, List.singleton_append]
      | some b =>
          have hdropped (name : QName) :
              ((seen.reverse ++ rest).map Prod.snd).find? (fun c => c.name = name) =
                ((seen.reverse ++ a :: rest).map Prod.snd).find? fun c => c.name = name := by
            rw [List.map_append, List.map_append, List.find?_append, List.find?_append,
              List.map_cons]
            by_cases hname : a.2.name = name
            · -- the one seen before has the same name
              have hfound : ((seen.reverse.map Prod.snd).find? fun c => c.name = name).isSome := by
                rw [List.find?_isSome]
                have hb := List.find?_some hseen
                have hmem := List.mem_reverse.mpr (List.mem_of_find?_eq_some hseen)
                refine ⟨b.2, List.mem_map_of_mem hmem, ?_⟩
                simpa [hname] using hb
              rw [Option.or_of_isSome hfound, Option.or_of_isSome hfound]
            · rw [List.find?_cons_of_neg (by simpa using hname)]
          have hnext (problem : Problem) :
              ∃ kept, Reads (report problem >>= fun _ => withoutRepeats seen rest) s kept s.rest ∧
                ∀ name : QName, kept.find? (fun c => c.name = name) =
                  ((seen.reverse ++ a :: rest).map Prod.snd).find? fun c => c.name = name := by
            have hreport := reads_report problem (s := s)
            obtain ⟨kept, hreads, hkept⟩ := ih seen (after (report problem) s)
            rw [hreport.rest] at hreads
            exact ⟨kept, hreport.bind_after hreads, fun name => (hkept name).trans (hdropped name)⟩
          dsimp only
          split
          · exact hnext _
          · exact hnext _

def writtenParts (written : List WrittenAttribute) : TagParts :=
  written.foldl (fun parts a => parts.withAttribute a.raw) {}

/-- The namespaces that a start tag declares, the first one in front. -/
def writtenScope (written : List WrittenAttribute) : Scope :=
  (writtenParts written).namespaces.reverse

/-- The attributes of a start tag that are no declarations of namespaces, with their namespaces. -/
def writtenAttributes (written : List WrittenAttribute) : List Attribute :=
  (writtenParts written).attributes.reverse.map (resolvedIn (writtenScope written))

theorem length_le_afterGap {written : List WrittenAttribute} (hplain : ∀ a ∈ written, a.Plain)
    (gap ending : Text) : written.length ≤ (afterGap gap ending written).length := by
  have htexts {list : List WrittenAttribute} (hlist : ∀ a ∈ list, a.Plain) :
      list.length ≤ (list.flatMap WrittenAttribute.text).length := by
    induction list with
    | nil => simp
    | cons a rest ih =>
        have hrest := ih fun b hb => hlist b (List.mem_cons_of_mem a hb)
        have hgap := List.length_pos_iff.mpr (hlist a List.mem_cons_self).gap_ne
        simp only [List.flatMap_cons, List.length_append, List.length_cons,
          WrittenAttribute.text]
        omega
  cases written with
  | nil => exact Nat.zero_le _
  | cons a rest =>
      have hrest := htexts fun b hb => hplain b (List.mem_cons_of_mem a hb)
      simp only [afterGap, WrittenAttribute.body, List.length_append, List.length_cons]
      omega

/-- A start tag up to its end, with the attributes and the blanks after them. -/
structure WrittenTag where
  binder : Option Text
  name : Text
  attributes : List WrittenAttribute
  gap : Text
  deriving DecidableEq, Repr

namespace WrittenTag

/-- The text of the tag after its first character. -/
def body (tag : WrittenTag) : Text :=
  writtenName tag.binder tag.name ++ tag.attributes.flatMap WrittenAttribute.text ++ tag.gap

def text (tag : WrittenTag) : Text :=
  '<' :: tag.body

/-- The tag is written by the rules, and the values of its attributes stand for themselves. -/
structure Plain (tag : WrittenTag) : Prop where
  binder : ∀ p, tag.binder = some p → isPlainName p = true
  name : isPlainName tag.name = true
  attributes : ∀ a ∈ tag.attributes, a.Plain
  gap : ∀ c ∈ tag.gap, isSpace c = true

instance (tag : WrittenTag) : Decidable tag.Plain :=
  decidable_of_iff (tag.binder.all isPlainName = true ∧ isPlainName tag.name = true ∧
      (∀ a ∈ tag.attributes, a.Plain) ∧ tag.gap.all isSpace = true) <| by
    simp only [List.all_eq_true, Option.all_eq_true]
    exact ⟨fun ⟨h₁, h₂, h₃, h₄⟩ => ⟨h₁, h₂, h₃, h₄⟩, fun ⟨h₁, h₂, h₃, h₄⟩ => ⟨h₁, h₂, h₃, h₄⟩⟩

end WrittenTag

variable {tag : WrittenTag} {ending : Text}

/-- What holds of every element with the attributes that are written holds of what the first start
tag of a document is read as. -/
theorem startTag?_of_written (hplain : tag.Plain) (hending : EndsTag ending) {s : Progress}
    (hrest : s.rest = tag.body ++ ending) (hfresh : s.Fresh) (line : Nat)
    {P : Option OpenElement → Prop}
    (hP : ∀ e : OpenElement, (∀ name, e.tag.attribute? name =
      ((writtenAttributes tag.attributes).find? fun a => a.name = name).map Attribute.value) →
        P (some e)) :
    P (result (startTag? line) s) := by
  obtain ⟨blanks, hblanks, hspaces, hnone⟩ := exists_blanks hplain.attributes hplain.gap ending
  have hends : EndsName (blanks ++ afterGap tag.gap ending tag.attributes) := by
    intro c hc
    cases blanks with
    | nil =>
        rw [hnone rfl, List.nil_append, afterGap] at hc
        rcases hending.head with hhead | hhead <;>
          · rw [hhead] at hc
            cases hc
            decide
    | cons d blanks =>
        cases hc
        rcases (isSpace_iff c).mp (hspaces c List.mem_cons_self) with rfl | rfl | rfl | rfl <;>
          decide
  have htext : s.rest = writtenName tag.binder tag.name ++
      (blanks ++ afterGap tag.gap ending tag.attributes) := by
    rw [hrest, WrittenTag.body, List.append_assoc, List.append_assoc, hblanks]
  unfold startTag?
  refine (reads_qName? htext hplain.name hplain.binder hends).result_bind fun t ht hst => ?_
  dsimp -zeta only
  extract_lets element
  refine (reads_skipSpaces ht hspaces (isSpace_head_afterGap hplain.attributes hending)).result_bind
    fun u hu htu => ?_
  have hsu := hst.trans htu
  have hbound : tag.attributes.length < u.left + 1 := by
    rw [hsu.counted hfresh.counted, hu]
    exact Nat.lt_succ_of_le (length_le_afterGap hplain.attributes tag.gap ending)
  rw [result_get_bind]
  have hfreshAt := hfresh.advanced hsu
  refine (reads_attributes hplain.attributes hplain.gap hending hu hfreshAt.stopped
    hfreshAt.counted hfreshAt.tokenLists element hbound {}).result_bind fun v hv huv => ?_
  have hsv := hsu.trans huv
  rw [result_get_bind, (hfresh.advanced hsv).defaults]
  refine Reads.result_bind (reads_pure hv _) fun w hw hvw => ?_
  have hsw := hsv.trans hvw
  extract_lets namespaces
  rw [result_get_bind]
  extract_lets scope
  have hscope : scope = writtenScope tag.attributes := by
    unfold scope outerScope
    rw [(hfresh.advanced hsw).openElements]
    exact List.append_nil _
  refine (reads_resolveAttributes _ _ _ w).result_bind fun x hx _ => ?_
  obtain ⟨kept, hkept, hfind⟩ := exists_reads_withoutRepeats [] _ x
  refine hkept.result_bind fun y hy _ => ?_
  extract_lets finish
  -- whatever namespace the name of the element has, its attributes are the kept ones
  have hfinish (space : Option Text) (z : Progress) : P (result (finish space) z) := by
    refine hP _ fun name => ?_
    change (kept.find? _).map Attribute.value = _
    rw [hfind, List.reverse_nil, List.nil_append, List.map_map, hscope]
    rfl
  have hspace (step : Reader (Option Text)) (z : Progress) : P (result (step >>= finish) z) :=
    hfinish _ _
  cases tag.binder with
  | none => exact hspace (pure _) y
  | some p =>
      dsimp only
      cases Scope.find? scope (some p) with
      | some space => exact hspace (pure _) y
      | none => exact hspace (pure none) _

/-- The root of a document that goes on with a plain start tag after its first comments and
instructions has the attributes that are written in the tag. -/
theorem attribute?_root {octets : List UInt8} {root : Element}
    (hroot : (parse false octets).root = some root) (hplain : tag.Plain) (hending : EndsTag ending)
    (hrest : (atRoot octets).rest = tag.text ++ ending) (name : QName) :
    root.tag.attribute? name =
      ((writtenAttributes tag.attributes).find? fun a => a.name = name).map Attribute.value := by
  have hfresh := fresh_atRoot octets
  have hmark : (atRoot octets).rest = ['<'] ++ (tag.body ++ ending) := hrest
  have hskip : Reads (skip 1) (atRoot octets) () (tag.body ++ ending) := reads_skip hmark rfl
  obtain ⟨c, hc, hstart⟩ := exists_head_writtenName hplain.name hplain.binder
  obtain ⟨more, hname⟩ := List.head?_eq_some_iff.mp hc
  have hmarkup : (atRoot octets).rest = '<' :: c :: (more ++
      tag.attributes.flatMap WrittenAttribute.text ++ tag.gap ++ ending) := by
    rw [hrest, WrittenTag.text, WrittenTag.body, hname]
    simp
  have hletter : c ≠ '!' := by
    rintro rfl
    exact absurd hstart (by decide)
  obtain ⟨e, he, htag⟩ := startTag?_of_written hplain hending hskip.rest
    (hfresh.advanced hskip.advanced) (atRoot octets).line
    (P := fun read => ∃ e, read = some e ∧ ∀ name, e.tag.attribute? name =
      ((writtenAttributes tag.attributes).find? fun a => a.name = name).map Attribute.value)
    fun e he => ⟨e, rfl, he⟩
  rw [tag_of_parse hroot hmarkup hletter he, htag]

/-! ### What the attributes of a start tag say -/

namespace TagParts

variable {parts : TagParts} {p space : Text}

def Binds (parts : TagParts) (p : Text) : Prop :=
  ∃ n ∈ parts.namespaces, n.1 = some p

def BindsOnly (parts : TagParts) (p space : Text) : Prop :=
  ∀ n ∈ parts.namespaces, n.1 = some p → n.2 = space

theorem mem_withNamespace {binder : Option Text} {n : Option Text × Text}
    (hn : n ∈ (parts.withNamespace binder space).namespaces) :
    n = (binder, space) ∨ n ∈ parts.namespaces := by
  unfold withNamespace at hn
  split at hn
  · exact List.mem_cons.mp hn
  · exact .inr hn

theorem mem_withNamespace_of_mem {binder : Option Text} {n : Option Text × Text}
    (hn : n ∈ parts.namespaces) : n ∈ (parts.withNamespace binder space).namespaces := by
  unfold withNamespace
  split
  · exact List.mem_cons_of_mem _ hn
  · exact hn

theorem binds_withNamespace (hcounts : namespaceCounts (some p) space = true) :
    (parts.withNamespace (some p) space).Binds p := by
  unfold withNamespace
  cases hany : parts.namespaces.any fun n => n.1 == some p with
  | true =>
      obtain ⟨n, hn, hp⟩ := List.any_eq_true.mp hany
      rw [if_neg (by simp)]
      exact ⟨n, hn, eq_of_beq hp⟩
  | false =>
      rw [if_pos (by simp [hcounts])]
      exact ⟨_, List.mem_cons_self, rfl⟩

/-- An attribute binds prefixes to what is bound already, or to its own value. -/
theorem mem_withAttribute {a : RawAttribute} {n : Option Text × Text}
    (hn : n ∈ (parts.withAttribute a).namespaces) :
    n ∈ parts.namespaces ∨ n = (none, a.value) ∨
      a.binder = some "xmlns".toList ∧ n = (some a.key, a.value) := by
  unfold withAttribute at hn
  split at hn
  · exact (mem_withNamespace hn).symm.imp_right .inl
  · split at hn
    · rename_i hbinder
      exact (mem_withNamespace hn).symm.imp_right fun hn => .inr ⟨hbinder, hn⟩
    · exact .inl hn

theorem BindsOnly.withAttribute (hparts : parts.BindsOnly p space) {a : RawAttribute}
    (ha : a.binder = some "xmlns".toList → a.key = p → a.value = space) :
    (parts.withAttribute a).BindsOnly p space := by
  intro n hn hp
  rcases mem_withAttribute hn with hn | rfl | ⟨hbinder, rfl⟩
  · exact hparts n hn hp
  · cases hp
  · exact ha hbinder (Option.some.inj hp)

theorem Binds.withAttribute (hparts : parts.Binds p) (a : RawAttribute) :
    (parts.withAttribute a).Binds p := by
  obtain ⟨n, hn, hp⟩ := hparts
  refine ⟨n, ?_, hp⟩
  unfold TagParts.withAttribute
  split
  · exact mem_withNamespace_of_mem hn
  · split
    · exact mem_withNamespace_of_mem hn
    · exact hn

theorem binds_withAttribute {a : RawAttribute} (hbinder : a.binder = some "xmlns".toList)
    (hcounts : namespaceCounts (some a.key) a.value = true) :
    (parts.withAttribute a).Binds a.key := by
  unfold withAttribute
  rw [if_neg (by simp [hbinder]), if_pos hbinder]
  exact binds_withNamespace hcounts

end TagParts

section Declaring

variable {written : List WrittenAttribute} {p space : Text}

theorem bindsOnly_foldl (hspace : ∀ a ∈ written, a.binder = some "xmlns".toList → a.key = p →
    a.value = space) {parts : TagParts} (hparts : parts.BindsOnly p space) :
    (written.foldl (fun parts a => parts.withAttribute a.raw) parts).BindsOnly p space := by
  induction written generalizing parts with
  | nil => exact hparts
  | cons a rest ih =>
      exact ih (fun b hb => hspace b (List.mem_cons_of_mem a hb))
        (hparts.withAttribute (hspace a List.mem_cons_self))

theorem binds_foldl {parts : TagParts} (hbound : parts.Binds p ∨ ∃ a ∈ written,
      a.binder = some "xmlns".toList ∧ a.key = p ∧ namespaceCounts (some p) a.value = true) :
    (written.foldl (fun parts a => parts.withAttribute a.raw) parts).Binds p := by
  induction written generalizing parts with
  | nil => exact hbound.resolve_right fun ⟨_, ha, _⟩ => List.not_mem_nil ha
  | cons a rest ih =>
      refine ih ?_
      rcases hbound with hparts | ⟨b, hb, hbinder, rfl, hcounts⟩
      · exact .inl (hparts.withAttribute a.raw)
      · rcases List.mem_cons.mp hb with rfl | hb
        · exact .inl (TagParts.binds_withAttribute hbinder hcounts)
        · exact .inr ⟨b, hb, hbinder, rfl, hcounts⟩

theorem lookup_eq_some {α β : Type} [BEq α] [LawfulBEq α] {list : List (α × β)} {k : α} {v : β}
    (hbound : ∃ n ∈ list, n.1 = k) (honly : ∀ n ∈ list, n.1 = k → n.2 = v) :
    list.lookup k = some v := by
  cases hfound : list.lookup k with
  | none =>
      obtain ⟨n, hn, hk⟩ := hbound
      exact absurd hk.symm (by simpa using List.lookup_eq_none_iff.mp hfound n hn)
  | some w =>
      obtain ⟨front, back, rfl, -⟩ := List.lookup_eq_some_iff.mp hfound
      exact congrArg some (honly (k, w) (by simp) rfl)

/-- A prefix that a start tag binds, and binds to one namespace only, has that namespace. -/
theorem find?_writtenScope (hbound : ∃ a ∈ written, a.binder = some "xmlns".toList ∧ a.key = p)
    (hspace : ∀ a ∈ written, a.binder = some "xmlns".toList → a.key = p → a.value = space)
    (hcounts : namespaceCounts (some p) space = true) :
    Scope.find? (writtenScope written) (some p) = some space := by
  obtain ⟨a, ha, hbinder, hkey⟩ := hbound
  have hbinds : (writtenParts written).Binds p :=
    binds_foldl (.inr ⟨a, ha, hbinder, hkey, by rwa [hspace a ha hbinder hkey]⟩)
  have hlookup : (writtenScope written).lookup (some p) = some space := by
    refine lookup_eq_some ?_ fun n hn => ?_
    · obtain ⟨n, hn, hp⟩ := hbinds
      exact ⟨n, List.mem_reverse.mpr hn, hp⟩
    · exact bindsOnly_foldl hspace (fun _ hm => absurd hm List.not_mem_nil) n
        (List.mem_reverse.mp hn)
  simp only [namespaceCounts, Bool.and_eq_true, decide_eq_true_eq, Bool.not_eq_true',
    List.isEmpty_eq_false_iff] at hcounts
  obtain ⟨⟨⟨⟨hxml, -⟩, -⟩, -⟩, hempty⟩ := hcounts
  unfold Scope.find?
  rw [if_neg (by simpa using hxml), hlookup]
  cases space with
  | nil => exact absurd rfl hempty
  | cons c rest => rfl

/-- The attributes that declare no namespace stay, the last first. -/
theorem attributes_foldl (written : List WrittenAttribute) (parts : TagParts) :
    (written.foldl (fun parts a => parts.withAttribute a.raw) parts).attributes =
      ((written.filter fun a => !a.bindsNamespace).map WrittenAttribute.raw).reverse ++
        parts.attributes := by
  induction written generalizing parts with
  | nil => rfl
  | cons a rest ih =>
      have hnamespace (binder : Option Text) (space : Text) :
          (parts.withNamespace binder space).attributes = parts.attributes := by
        unfold TagParts.withNamespace
        split <;> rfl
      rw [List.foldl_cons, ih]
      unfold TagParts.withAttribute
      split
      · rename_i hdefault
        have hbinds : a.bindsNamespace = true := Bool.or_eq_true_iff.mpr (.inl hdefault)
        rw [hnamespace, List.filter_cons_of_neg (by simp [hbinds])]
      · rename_i hdefault
        split
        · rename_i hprefix
          have hbinds : a.bindsNamespace = true :=
            Bool.or_eq_true_iff.mpr (.inr (beq_iff_eq.mpr hprefix))
          rw [hnamespace, List.filter_cons_of_neg (by simp [hbinds])]
        · rename_i hprefix
          have hbinds : a.bindsNamespace = false :=
            Bool.or_eq_false_iff.mpr ⟨eq_false_of_ne_true hdefault, beq_eq_false_iff_ne.mpr hprefix⟩
          rw [List.filter_cons_of_pos (by simp [hbinds])]
          simp

theorem find?_map_value {list : List Attribute} {q : Attribute → Bool} {value : Text}
    (hfound : ∃ a ∈ list, q a = true) (honly : ∀ a ∈ list, q a = true → a.value = value) :
    (list.find? q).map Attribute.value = some value := by
  cases hlist : list.find? q with
  | none =>
      obtain ⟨a, ha, hq⟩ := hfound
      exact absurd hq (List.find?_eq_none.mp hlist a ha)
  | some a =>
      exact congrArg some (honly a (List.mem_of_find?_eq_some hlist) (List.find?_some hlist))

/-- The value of an attribute whose prefix has a namespace and whose key no other attribute has. -/
theorem value_writtenAttributes {decl : WrittenAttribute} (hdecl : decl ∈ written)
    (hbinder : decl.binder = some p) (hp : p ≠ "xmlns".toList)
    (hscope : Scope.find? (writtenScope written) (some p) = some space)
    (honly : ∀ a ∈ written, a.key = decl.key → a = decl) :
    ((writtenAttributes written).find? fun a => a.name = ⟨some space, decl.key⟩).map
      Attribute.value = some decl.value := by
  have hmem (a : Attribute) : a ∈ writtenAttributes written ↔
      ∃ b ∈ written, b.bindsNamespace = false ∧ resolvedIn (writtenScope written) b.raw = a := by
    unfold writtenAttributes writtenParts
    rw [attributes_foldl]
    simp [and_assoc]
  have hplain : decl.bindsNamespace = false := by
    simpa [WrittenAttribute.bindsNamespace, hbinder] using hp
  refine find?_map_value ⟨_, (hmem _).mpr ⟨decl, hdecl, hplain, rfl⟩, ?_⟩ fun a ha hname => ?_
  · simp [resolvedIn, WrittenAttribute.raw, hbinder, hscope]
  · obtain ⟨b, hb, -, rfl⟩ := (hmem a).mp ha
    obtain rfl := honly b hb (congrArg QName.localName (of_decide_eq_true hname))
    rfl

end Declaring

end XmlCheck.Xml.Reader
