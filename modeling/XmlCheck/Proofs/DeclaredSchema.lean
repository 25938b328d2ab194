import XmlCheck.Proofs.FirstDeclaration
import XmlCheck.Proofs.RunHistory
import XmlCheck.Proofs.StartTag

/-!
# The schema that a document is held against

The identifier of a run is the first one that the text shows, wherever it stands in the text, and
that of the root only if the text shows none. So a document is held against the schema that its root
declares exactly if the first declaration in the text, if there is one, says the same.
-/

namespace XmlCheck

namespace Text

theorem dropWhile_eq_self {p : Char → Bool} {text : Text}
    (hhead : ∀ c, text.head? = some c → p c = false) : text.dropWhile p = text := by
  cases text with
  | nil => rfl
  | cons c rest => exact List.dropWhile_cons_of_neg (by simp [hhead c rfl])

theorem dropWhileEnd_append {p : Char → Bool} {front : Text}
    (hlast : ∀ c, front.getLast? = some c → p c = false) (back : Text) :
    dropWhileEnd p (front ++ back) = front ++ dropWhileEnd p back := by
  have hreverse : ∀ c, front.reverse.head? = some c → p c = false := by
    intro c hc
    rw [List.head?_reverse] at hc
    exact hlast c hc
  unfold dropWhileEnd
  rw [List.reverse_append, List.dropWhile_append, dropWhile_eq_self hreverse]
  split
  · rename_i hnone
    rw [List.isEmpty_iff.mp hnone, List.reverse_reverse, List.reverse_nil, List.append_nil]
  · rw [List.reverse_append, List.reverse_reverse]

theorem trimWith_eq {p : Char → Bool} {text : Text}
    (hhead : ∀ c, text.head? = some c → p c = false)
    (hlast : ∀ c, text.getLast? = some c → p c = false) : trimWith p text = text := by
  have hend := dropWhileEnd_append hlast []
  rw [List.append_nil] at hend
  rw [trimWith, dropWhile_eq_self hhead, hend]
  exact List.append_nil text

theorem head_of_dropWhile {p : Char → Bool} {list : Text} {c : Char}
    (hc : (list.dropWhile p).head? = some c) : p c = false := by
  have hstop := List.head?_dropWhile_not p list
  rw [hc] at hstop
  simpa using hstop

theorem trim_trim (text : Text) : trim (trim text) = trim text := by
  refine trimWith_eq (fun c hc => ?_) fun c hc => ?_
  · obtain ⟨front, hfront⟩ : dropWhileEnd isBlank (text.dropWhile isBlank) <+:
        text.dropWhile isBlank := by
      rw [← List.reverse_suffix]
      unfold dropWhileEnd
      rw [List.reverse_reverse]
      exact List.dropWhile_suffix _
    have hhead : (text.dropWhile isBlank).head? = some c := by
      rw [← hfront]
      unfold trim trimWith at hc
      rw [List.head?_append, hc]
      rfl
    exact head_of_dropWhile hhead
  · unfold trim trimWith dropWhileEnd at hc
    rw [List.getLast?_reverse] at hc
    exact head_of_dropWhile hc

end Text

namespace Declaration

theorem trim_of_ofValue? {value t : Text} (hvalue : ofValue? value = some t) : Text.trim t = t := by
  unfold ofValue? at hvalue
  dsimp only at hvalue
  split at hvalue
  · cases hvalue
    exact Text.trim_trim value
  · cases hvalue

theorem prefix_of_atStart? {text identifier : Text} (hfound : atStart? text = some identifier) :
    declaredName <+: text := by
  unfold atStart? at hfound
  split at hfound
  · cases hfound
  · rename_i rest hrest
    exact ⟨rest, (Text.after?_eq_some hrest).symm⟩

/-- The name does not begin again before its end. -/
theorem prefix_of_prefix_append {front rest : Text} (hfront : front ≠ [])
    (hname : declaredName <+: front ++ (declaredName ++ rest)) : declaredName <+: front := by
  have hlength : declaredName.length ≤ front.length := by
    refine Nat.le_of_not_lt fun hshort => ?_
    obtain ⟨back, hback⟩ : front <+: declaredName :=
      List.prefix_of_prefix_length_le (List.prefix_append _ _) hname (Nat.le_of_lt hshort)
    rw [← hback, List.prefix_append_right_inj, hback] at hname
    obtain ⟨c, front, rfl⟩ := List.exists_cons_of_ne_nil hfront
    have hlater : back <:+ declaredName.tail := by
      rw [← hback]
      exact List.suffix_append front back
    -- what is left of the name would begin like the name, with a letter that it has only once
    cases back with
    | nil =>
        rw [List.append_nil] at hback
        rw [hback] at hshort
        exact absurd hshort (Nat.lt_irrefl _)
    | cons d back =>
        obtain ⟨more, hmore⟩ := hname
        have hd : some d = some 'x' := congrArg List.head? hmore
        have hmem : d ∈ declaredName.tail := hlater.subset List.mem_cons_self
        rw [Option.some.inj hd] at hmem
        exact absurd hmem (by decide)
  exact List.prefix_of_prefix_length_le hname (List.prefix_append _ _) hlength

/-- A declaration begins where its name begins, so the text before the first name declares
nothing. -/
theorem scan?_append {earlier : Text} (hearlier : ¬ declaredName <:+: earlier) (rest : Text) :
    scan? (earlier ++ (declaredName ++ rest)) = scan? (declaredName ++ rest) := by
  induction earlier with
  | nil => rfl
  | cons c earlier ih =>
      have hback : ¬ declaredName <:+: earlier := fun hback =>
        hearlier (hback.trans (List.suffix_cons c earlier).isInfix)
      have hnone : atStart? (c :: earlier ++ (declaredName ++ rest)) = none := by
        cases hfound : atStart? (c :: earlier ++ (declaredName ++ rest)) with
        | none => rfl
        | some identifier =>
            have hname := prefix_of_prefix_append (List.cons_ne_nil c earlier)
              (prefix_of_atStart? hfound)
            exact absurd hname.isInfix hearlier
      rw [List.cons_append, scan?]
      rw [List.cons_append] at hnone
      rw [hnone]
      exact ih hback

theorem isBlank_of_isSpace {c : Char} (hc : Xml.isSpace c = true) : Text.isBlank c = true := by
  rcases (Xml.Reader.isSpace_iff c).mp hc with rfl | rfl | rfl | rfl <;> decide

open Xml.Reader

/-- An attribute in double quotes that has the name is a declaration of its value. -/
theorem declares_body {decl : WrittenAttribute} (hplain : decl.Plain)
    (hbinder : decl.binder = some "xsi".toList)
    (hkey : decl.key = "noNamespaceSchemaLocation".toList) (hquote : decl.quote = '"') {name : Text}
    (hvalue : decl.value = scheme ++ name) (hname : name ≠ []) :
    Declares decl.body decl.value where
  written := by
    have hwritten : writtenName decl.binder decl.key = declaredName := by
      rw [hbinder, hkey]
      rfl
    refine ⟨decl.beforeEquals, decl.afterEquals, fun c hc => ?_, fun c hc => ?_, ?_⟩
    · exact isBlank_of_isSpace (hplain.beforeEquals c hc)
    · exact isBlank_of_isSpace (hplain.afterEquals c hc)
    · rw [WrittenAttribute.body, hwritten, hquote]
      simp only [List.append_assoc, List.cons_append]
  identified := ⟨name, hname, hvalue⟩
  unquoted := fun hmem => (hplain.value '"' hmem).1 hquote.symm

theorem ofValue?_scheme (name : Text) :
    ofValue? (scheme ++ name) = some (Text.trim (scheme ++ name)) := by
  have hfront : (scheme ++ name).dropWhile Text.isBlank = scheme ++ name :=
    List.dropWhile_cons_of_neg (by decide)
  have hlast : ∀ c, scheme.getLast? = some c → Text.isBlank c = false := by
    intro c hc
    have hcolon : scheme.getLast? = some ':' := rfl
    rw [hcolon] at hc
    rw [← Option.some.inj hc]
    rfl
  have htrim : Text.trim (scheme ++ name) = scheme ++ Text.dropWhileEnd Text.isBlank name := by
    rw [Text.trim, Text.trimWith, hfront, Text.dropWhileEnd_append hlast]
  unfold ofValue?
  rw [htrim]
  exact if_pos (List.isPrefixOf_iff_prefix.mpr (List.prefix_append _ _))

/-! ### Documents that declare their schema plainly -/

/-- An attribute of a start tag links the document to a schema: its prefix has the namespace of such
links and no other, and no other attribute has its key. -/
structure Links (tag : WrittenTag) (decl : WrittenAttribute) : Prop where
  mem : decl ∈ tag.attributes
  binder : decl.binder = some "xsi".toList
  key : decl.key = "noNamespaceSchemaLocation".toList
  only : ∀ a ∈ tag.attributes, a.key = decl.key → a = decl
  bound : ∃ a ∈ tag.attributes, a.binder = some "xmlns".toList ∧ a.key = "xsi".toList
  space : ∀ a ∈ tag.attributes, a.binder = some "xmlns".toList → a.key = "xsi".toList →
    a.value = instanceSpace

instance (tag : WrittenTag) (decl : WrittenAttribute) : Decidable (Links tag decl) :=
  decidable_of_iff (decl ∈ tag.attributes ∧ decl.binder = some "xsi".toList ∧
      decl.key = "noNamespaceSchemaLocation".toList ∧
      (∀ a ∈ tag.attributes, a.key = decl.key → a = decl) ∧
      (∃ a ∈ tag.attributes, a.binder = some "xmlns".toList ∧ a.key = "xsi".toList) ∧
      ∀ a ∈ tag.attributes, a.binder = some "xmlns".toList → a.key = "xsi".toList →
        a.value = instanceSpace)
    ⟨fun ⟨h₁, h₂, h₃, h₄, h₅, h₆⟩ => ⟨h₁, h₂, h₃, h₄, h₅, h₆⟩,
      fun ⟨h₁, h₂, h₃, h₄, h₅, h₆⟩ => ⟨h₁, h₂, h₃, h₄, h₅, h₆⟩⟩

/-- A content comes to a plain start tag after its first comments and instructions, and the tag has
a link to a schema in double quotes that is the first one in the text. -/
structure DeclaresPlainly (content : List UInt8) (decl : WrittenAttribute) : Prop where
  tag : ∃ tag : WrittenTag, ∃ ending, tag.Plain ∧ EndsTag ending ∧
    (atRoot content).rest = tag.text ++ ending ∧ Links tag decl
  first : ∃ earlier later, Utf8.decodeLenient content = earlier ++ (decl.body ++ later) ∧
    ¬ declaredName <:+: earlier
  quote : decl.quote = '"'
  value : ∃ name, name ≠ [] ∧ decl.value = scheme ++ name

section DeclaresPlainly

variable {content : List UInt8} {decl : WrittenAttribute}

theorem DeclaresPlainly.scanOctets?_eq (hdeclares : DeclaresPlainly content decl) :
    scanOctets? content = some decl.value := by
  obtain ⟨tag, ending, hplain, -, -, hlinks⟩ := hdeclares.tag
  obtain ⟨earlier, later, htext, hearlier⟩ := hdeclares.first
  obtain ⟨name, hname, hvalue⟩ := hdeclares.value
  have hbody := declares_body (hplain.attributes decl hlinks.mem) hlinks.binder hlinks.key
    hdeclares.quote hvalue hname
  have hstart := hbody.atStart?_append later
  obtain ⟨rest, hrest⟩ := prefix_of_atStart? hstart
  unfold scanOctets?
  rw [htext, ← hrest, scan?_append hearlier, hrest]
  cases htext : decl.body ++ later with
  | nil =>
      rw [htext] at hrest
      cases hrest
  | cons c more =>
      rw [scan?, ← htext, hstart]

theorem DeclaresPlainly.declaredSchema?_eq (hdeclares : DeclaresPlainly content decl)
    {document : Xml.Document} (hroot : (Xml.parse false content).root = some document.root) :
    document.declaredSchema? = some (Text.trim decl.value) := by
  obtain ⟨tag, ending, hplain, hending, hrest, hlinks⟩ := hdeclares.tag
  obtain ⟨name, -, hvalue⟩ := hdeclares.value
  have hscope := find?_writtenScope hlinks.bound hlinks.space (by decide)
  have hattribute := value_writtenAttributes hlinks.mem hlinks.binder (by decide) hscope hlinks.only
  rw [hlinks.key] at hattribute
  unfold Xml.Document.declaredSchema?
  rw [attribute?_root hroot hplain hending hrest]
  rw [hattribute]
  dsimp only
  rw [hvalue, ofValue?_scheme]

end DeclaresPlainly

end Declaration

namespace Pipeline

open Xml.Reader

variable {pipeline : Pipeline} {tree : FileTree} {here : List Text} {store : SchemaStore}
  {request : Request} {content : List UInt8} {document : Xml.Document}

theorem Runs.schema_eq {result : Except RunFailure Outcome} {after : SchemaStore}
    {stages : List Stage} {outcome : Outcome}
    (hruns : Runs pipeline tree here store request result after stages)
    (hresult : result = .ok outcome) (hcontent : request.load tree here = .ok content)
    (hform : checkForm content request.displayName = .document document) :
    (∃ identifier, identifier? content document = some identifier ∧
        outcome.schema.map SchemaReference.identifier = some identifier) ∨
      identifier? content document = none ∧
        outcome = .withoutSchema pipeline.policy request.displayName := by
  subst hresult
  cases hruns with
  | malformed hload hbroken =>
      obtain rfl := Except.ok.inj (hcontent.symm.trans hload)
      rw [hform] at hbroken
      cases hbroken
  | undeclared hload hother hfound =>
      obtain rfl := Except.ok.inj (hcontent.symm.trans hload)
      rw [hform] at hother
      cases hother
      exact .inr ⟨hfound, rfl⟩
  | declared hdeclares hrest =>
      obtain ⟨hload, hother, hfound⟩ := hdeclares
      obtain rfl := Except.ok.inj (hcontent.symm.trans hload)
      rw [hform] at hother
      cases hother
      refine .inl ⟨_, hfound, ?_⟩
      cases hrest with
      | unresolved => rfl
      | against _ hrefer hagainst =>
          obtain ⟨_, _, rfl⟩ := reference_eq_ok.mp hrefer
          cases hagainst <;> rfl

theorem root_of_checkForm {file : Text} (hform : checkForm content file = .document document) :
    (Xml.parse false content).root = some document.root := by
  unfold checkForm checkFormBy at hform
  split at hform
  · cases hform
  · exact Xml.Parsed.root_of_reply (FormCheck.ofReply_eq_document_iff.mp hform).2

end Pipeline

end XmlCheck
