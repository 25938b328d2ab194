import XmlCheck.Proofs.ReaderFrame

/-!
# The tag of the root

What is read after the start tag of the root leaves that tag as it is: elements are opened inside
it and closed again, and they get children, but no tag is ever changed. So the root of a document
has the tag that its start tag was read as.
-/

namespace XmlCheck.Xml

namespace Reader

/-! ### Tags -/

theorem advances_checkNamespace (binder : Option Text) (space : Text) :
    Advances (checkNamespace binder space) := by
  unfold checkNamespace
  split
  · extract_lets checked
    have hchecked : ∀ u, Advances (checked u) := by
      intro u
      unfold checked
      split
      · exact Within.bind (advances_report _) fun _ => within_pure false
      · split
        · exact Within.bind (advances_report _) fun _ => within_pure false
        · exact within_pure true
    split
    · exact hchecked ()
    · split
      · exact hchecked ()
      · exact Within.bind (advances_report _) hchecked
  · split
    · split
      · exact within_pure false
      · exact Within.bind (advances_report _) fun _ => within_pure false
    · split
      · exact Within.bind (advances_report _) fun _ => within_pure false
      · split
        · exact Within.bind (advances_report _) fun _ => within_pure false
        · split
          · exact Within.bind (advances_report _) fun _ => within_pure false
          · split
            · exact Within.bind (advances_report _) fun _ => within_pure false
            · split
              · exact within_pure true
              · exact Within.bind (advances_report _) fun _ => within_pure true

theorem advances_addNamespace (binder : Option Text) (space : Text) (parts : TagParts) :
    Advances (addNamespace binder space parts) := by
  refine Within.bind (advances_checkNamespace binder space) fun counts => ?_
  split
  · split
    · exact Within.bind (advances_report _) fun _ => within_pure parts
    · exact within_pure _
  · exact within_pure parts

theorem advances_addAttribute (a : RawAttribute) (parts : TagParts) :
    Advances (addAttribute a parts) := by
  unfold addAttribute
  split
  · exact advances_addNamespace _ _ _
  · split
    · exact advances_addNamespace _ _ _
    · exact within_pure _

theorem advances_atTagEnd : Advances atTagEnd :=
  Within.bind (advances_startsWith _) fun _ =>
    Within.bind (advances_startsWith _) fun _ => within_pure _

theorem advances_addDefaults (element : Text) (defaults : List DefaultValue) (parts : TagParts) :
    Advances (addDefaults element defaults parts) := by
  induction defaults generalizing parts with
  | nil => exact within_pure parts
  | cons d rest ih =>
      unfold addDefaults
      split
      · exact ih parts
      · split
        extract_lets present
        split
        · exact ih parts
        · exact Within.bind (advances_addAttribute _ _) ih

theorem advances_resolveAttributes (element : Text) (scope : Scope) (raw : List RawAttribute) :
    Advances (resolveAttributes element scope raw) := by
  induction raw with
  | nil => exact within_pure []
  | cons a rest ih =>
      unfold resolveAttributes
      extract_lets found
      have hfound : ∀ space, Advances (found space) :=
        fun _ => Within.bind ih fun _ => within_pure _
      split
      · exact Within.bind (within_pure none) hfound
      · split
        · exact Within.bind (within_pure _) hfound
        · exact Within.bind (advances_report _) fun _ => Within.bind (within_pure none) hfound

theorem advances_withoutRepeats (seen rest : List (RawAttribute × Attribute)) :
    Advances (withoutRepeats seen rest) := by
  induction rest generalizing seen with
  | nil => exact within_pure _
  | cons a rest ih =>
      unfold withoutRepeats
      split
      · exact ih _
      · split
        · exact Within.bind (advances_report _) fun _ => ih _
        · exact Within.bind (advances_report _) fun _ => ih _

/-! ### Steps that keep the tree -/

abbrev KeepsTree {α : Type} (step : Reader α) : Prop :=
  Within Progress.SameTree step

theorem Advances.keepsTree {α : Type} {step : Reader α} (hstep : Advances step) :
    KeepsTree step :=
  hstep.mono fun _ _ => Progress.Advanced.toSameTree

theorem keepsTree_reportLast (problem : Problem) : KeepsTree (reportLast problem) :=
  Within.bind (advances_report problem).keepsTree fun _ => within_modify fun _ => ⟨rfl, rfl⟩

theorem keepsTree_entityText (bound : Nat) (opened : List Text) (name text : Text) :
    KeepsTree (entityText bound opened name text) := by
  induction bound generalizing opened name text with
  | zero => exact within_pure []
  | succ bound ih =>
      refine Within.bind within_get fun s => ?_
      split
      · exact within_pure []
      · split
        · exact within_pure []
        · exact Within.bind (advances_report _).keepsTree fun _ => within_pure []
        · exact Within.bind (advances_report _).keepsTree fun _ => within_pure []
        · refine Within.bind (advances_charOfCode _).keepsTree fun c => ?_
          split
          · exact Within.bind (ih _ _ _) fun _ => within_pure _
          · exact within_pure []
        · exact Within.bind (advances_report _).keepsTree fun _ => within_pure []
        · split
          · exact Within.bind (advances_report _).keepsTree fun _ => within_pure []
          · exact Within.bind (ih _ _ _) fun _ => within_pure _
        · refine Within.bind (advances_entityMeaning? _ _).keepsTree fun meaning => ?_
          split
          · exact ih _ _ _
          · exact Within.bind (ih _ _ _) fun _ => within_pure _
          · split
            · exact Within.bind (keepsTree_reportLast _) fun _ => within_pure []
            · split
              · exact Within.bind (keepsTree_reportLast _) fun _ => within_pure []
              · exact Within.bind (ih _ _ _) fun _ =>
                  Within.bind (ih _ _ _) fun _ => within_pure _
          · exact ih _ _ _

theorem keepsTree_valueBody (quote : Char) (bound : Nat) (found : Gathered) :
    KeepsTree (valueBody quote bound found) := by
  induction bound generalizing found with
  | zero => exact within_pure none
  | succ bound ih =>
      refine Within.bind within_get fun s => ?_
      split
      · exact within_pure none
      · refine Within.bind advances_rest.keepsTree fun text => ?_
        split
        · exact Within.bind (advances_report _).keepsTree fun _ => within_pure none
        · refine Within.bind advances_charReference?.keepsTree fun c => ?_
          split
          · exact ih _
          · exact ih _
        · refine Within.bind advances_entityName?.keepsTree fun name => ?_
          split
          · exact ih _
          · refine Within.bind (advances_entityMeaning? _ _).keepsTree fun meaning => ?_
            split
            · exact ih _
            · exact Within.bind within_get fun s =>
                Within.bind (keepsTree_entityText _ _ _ _) fun _ => ih _
            · exact ih _
        · exact Within.bind (advances_skip 2).keepsTree fun _ => ih _
        · split
          · exact Within.bind (advances_skip 1).keepsTree fun _ => within_pure _
          · extract_lets further
            have hfurther : ∀ u, KeepsTree (further u) :=
              fun _ => Within.bind (advances_skip 1).keepsTree fun _ => ih _
            split
            · exact Within.bind (advances_report _).keepsTree hfurther
            · split
              · exact Within.bind (advances_report _).keepsTree hfurther
              · exact hfurther ()

theorem keepsTree_attributeValue? (tokens : Bool) : KeepsTree (attributeValue? tokens) := by
  refine Within.bind advances_next?.keepsTree fun next => ?_
  split
  · split
    · refine Within.bind (advances_skip 1).keepsTree fun _ => Within.bind within_get fun s => ?_
      refine Within.bind (keepsTree_valueBody _ _ _) fun found => ?_
      split
      · exact within_pure _
      · exact within_pure none
    · exact Within.bind (advances_report _).keepsTree fun _ => within_pure none
  · exact Within.bind (advances_report _).keepsTree fun _ => within_pure none

theorem keepsTree_attributePair? (element : Text) : KeepsTree (attributePair? element) := by
  refine Within.bind advances_qName?.keepsTree fun name => ?_
  split
  · exact Within.bind (advances_report _).keepsTree fun _ => within_pure none
  · refine Within.bind advances_skipSpaces.keepsTree fun _ => ?_
    refine Within.bind (advances_accept _).keepsTree fun found => ?_
    split
    · refine Within.bind advances_skipSpaces.keepsTree fun _ => Within.bind within_get fun s => ?_
      exact Within.bind (keepsTree_attributeValue? _) fun _ => within_pure _
    · exact Within.bind (advances_report _).keepsTree fun _ => within_pure _

theorem keepsTree_attributes (element : Text) (bound : Nat) (parts : TagParts) :
    KeepsTree (attributes element bound parts) := by
  induction bound generalizing parts with
  | zero => exact within_pure parts
  | succ bound ih =>
      unfold attributes
      refine Within.bind advances_next?.keepsTree fun next => ?_
      extract_lets more further
      refine Within.bind advances_atTagEnd.keepsTree fun ended => Within.bind within_get fun s => ?_
      split
      · exact within_pure parts
      · refine Within.bind (keepsTree_attributePair? element) fun pair => ?_
        split
        · exact within_pure parts
        · have hfurther : ∀ parts, KeepsTree (further parts) := by
            intro parts
            refine Within.bind advances_atTagEnd.keepsTree fun ended => ?_
            split
            · exact within_pure parts
            · refine Within.bind advances_skipSpaces.keepsTree fun found => ?_
              split
              · exact ih parts
              · exact Within.bind (advances_report _).keepsTree fun _ => within_pure parts
          split
          · exact Within.bind (advances_addAttribute _ _).keepsTree hfurther
          · exact Within.bind (within_pure parts) hfurther

theorem keepsTree_startTag? (startLine : Nat) : KeepsTree (startTag? startLine) := by
  refine Within.bind advances_qName?.keepsTree fun name => ?_
  split
  · exact Within.bind (advances_report _).keepsTree fun _ => within_pure none
  · extract_lets written
    refine Within.bind advances_skipSpaces.keepsTree fun _ => Within.bind within_get fun s => ?_
    refine Within.bind (keepsTree_attributes _ _ _) fun parts => Within.bind within_get fun s => ?_
    refine Within.bind (advances_addDefaults _ _ _).keepsTree fun parts => ?_
    extract_lets namespaces
    refine Within.bind within_get fun s => ?_
    extract_lets scope
    refine Within.bind (advances_resolveAttributes _ _ _).keepsTree fun resolved => ?_
    refine Within.bind (advances_withoutRepeats _ _).keepsTree fun attributes => ?_
    extract_lets ending
    have hending : ∀ space, KeepsTree (ending space) :=
      fun _ => Within.bind within_get fun s => within_pure _
    split
    · exact Within.bind (within_pure _) hending
    · split
      · exact Within.bind (within_pure _) hending
      · exact Within.bind (advances_report _).keepsTree fun _ =>
          Within.bind (within_pure none) hending

theorem advances_endName (e : OpenElement) : Advances (endName e) := by
  unfold endName
  split
  · refine Within.bind advances_fullName? fun name => ?_
    split <;> exact within_pure _
  · refine Within.bind advances_qName? fun name => ?_
    split <;> exact within_pure _

theorem advances_characters (bound : Nat) (found : Text) : Advances (characters bound found) := by
  induction bound generalizing found with
  | zero => exact within_pure found
  | succ bound ih =>
      unfold characters
      extract_lets stopHere
      refine Within.bind advances_rest fun text => ?_
      extract_lets part
      refine Within.bind (advances_skip _) fun _ => Within.bind advances_rest fun text => ?_
      split
      · exact Within.bind (advances_report _) fun _ => Within.bind (advances_skip 1) fun _ => ih _
      · exact within_pure _

end Reader

namespace Progress

/-! ### The tag of the root -/

/-- The outermost open element and the root, as far as there are any, have a tag. -/
structure RootTag (tag : Tag) (s : Progress) : Prop where
  outermost : ∀ e, s.openElements.getLast? = some e → e.tag = tag
  root : ∀ r, s.root = some r → r.tag = tag

def SameRoot (s t : Progress) : Prop :=
  ∀ tag, RootTag tag s → RootTag tag t

theorem SameRoot.trans {s t u : Progress} (hst : SameRoot s t) (htu : SameRoot t u) :
    SameRoot s u :=
  fun tag => htu tag ∘ hst tag

instance : IsPreorder Progress SameRoot where
  refl _ _ := id
  trans _ _ _ := SameRoot.trans

theorem SameTree.sameRoot {s t : Progress} (hsame : s.SameTree t) : SameRoot s t := by
  rintro tag ⟨houtermost, hroot⟩
  constructor
  · rwa [hsame.openElements]
  · rwa [hsame.root]

/-- The innermost open element may get other children. -/
theorem sameRoot_children {s : Progress} {e : OpenElement} {rest : List OpenElement}
    (hopen : s.openElements = e :: rest) (children : List Node) :
    SameRoot s { s with openElements := { e with children } :: rest } := by
  rintro tag ⟨houtermost, hroot⟩
  refine ⟨fun f hf => ?_, hroot⟩
  cases rest with
  | nil =>
      cases hf
      exact houtermost e (by rw [hopen]; rfl)
  | cons outer rest =>
      refine houtermost f ?_
      rw [hopen, List.getLast?_cons_cons]
      rwa [List.getLast?_cons_cons] at hf

/-- An element that is opened inside another one is not the root. -/
theorem sameRoot_opened {s : Progress} (hopen : s.openElements ≠ []) (e : OpenElement) :
    SameRoot s { s with openElements := e :: s.openElements } := by
  rintro tag ⟨houtermost, hroot⟩
  refine ⟨fun f hf => houtermost f ?_, hroot⟩
  obtain ⟨outer, rest, hcons⟩ := List.exists_cons_of_ne_nil hopen
  dsimp only at hf
  rw [hcons, List.getLast?_cons_cons] at hf
  rwa [hcons]

/-- The open elements may be those of an earlier state again. -/
theorem SameRoot.reopened {s t : Progress} (hsame : SameRoot s t) {u : Progress}
    (hopen : u.openElements = s.openElements) (hroot : u.root = t.root) : SameRoot s u := by
  intro tag htag
  refine ⟨?_, ?_⟩
  · rw [hopen]
    exact htag.outermost
  · rw [hroot]
    exact (hsame tag htag).root

end Progress

namespace Reader

open Progress

abbrev KeepsRoot {α : Type} (step : Reader α) : Prop :=
  Within SameRoot step

theorem KeepsTree.keepsRoot {α : Type} {step : Reader α} (hstep : KeepsTree step) :
    KeepsRoot step :=
  hstep.mono fun _ _ => SameTree.sameRoot

theorem Advances.keepsRoot {α : Type} {step : Reader α} (hstep : Advances step) :
    KeepsRoot step :=
  hstep.keepsTree.keepsRoot

theorem sameRoot_closed (s : Progress) : SameRoot s (closed s) := by
  unfold closed
  split
  · exact refl s
  · rename_i e hopen
    rintro tag ⟨houtermost, hroot⟩
    refine ⟨fun f hf => (by cases hf), fun r hr => ?_⟩
    dsimp only at hr
    split at hr
    · cases hr
      exact houtermost e (by rw [hopen]; rfl)
    · exact hroot r hr
  · rename_i e outer rest hopen
    have hclosed : SameRoot s { s with openElements := outer :: rest } := by
      rintro tag ⟨houtermost, hroot⟩
      refine ⟨fun f hf => houtermost f ?_, hroot⟩
      rwa [hopen, List.getLast?_cons_cons]
    dsimp only
    split
    · exact hclosed.trans (sameRoot_children rfl _)
    · exact hclosed

theorem sameRoot_unwound (floor bound : Nat) (s : Progress) :
    SameRoot s (unwound floor bound s) := by
  induction bound generalizing s with
  | zero => exact refl s
  | succ bound ih =>
      rw [unwound]
      split
      · exact (sameRoot_closed s).trans (ih _)
      · exact refl s

theorem keepsRoot_addNode (node : Node) : KeepsRoot (addNode node) := by
  refine within_modify fun s => ?_
  split
  · rename_i e rest hopen
    split
    · exact sameRoot_children hopen _
    · exact refl s
  · exact refl s

theorem keepsRoot_addText (content : Text) : KeepsRoot (addText content) := by
  refine within_modify fun s => ?_
  split
  · rename_i e rest hopen
    split
    · exact sameRoot_children hopen _
    · exact refl s
  · exact refl s

theorem keepsRoot_addCharacterData (content : Text) : KeepsRoot (addCharacterData content) := by
  refine within_modify fun s => ?_
  split
  · rename_i e rest hopen
    split
    · exact sameRoot_children hopen _
    · exact refl s
  · exact refl s

def KeepsOpenRoot {α : Type} (step : Reader α) : Prop :=
  ∀ s, s.openElements ≠ [] → SameRoot s (after step s)

section KeepsOpenRoot

variable {α β : Type} {step : Reader α} {next : α → Reader β}

theorem KeepsRoot.keepsOpenRoot (hstep : KeepsRoot step) : KeepsOpenRoot step :=
  fun s _ => hstep s

theorem KeepsOpenRoot.bind (hstep : KeepsOpenRoot step) (hnext : ∀ a, KeepsRoot (next a)) :
    KeepsOpenRoot (step >>= next) :=
  fun s hopen => (hstep s hopen).trans (hnext _ _)

theorem KeepsTree.bind_open (hstep : KeepsTree step) (hnext : ∀ a, KeepsOpenRoot (next a)) :
    KeepsOpenRoot (step >>= next) := by
  intro s hopen
  have hsame := hstep s
  refine hsame.sameRoot.trans (hnext _ _ ?_)
  rwa [hsame.openElements]

end KeepsOpenRoot

theorem keepsRoot_tagEnd (e : OpenElement) :
    KeepsRoot (do
      if ← accept "/>" then modify closed
      else if ← accept ['>'] then return
      else
        report (.startTagOpen e.tag.name.localName e.startLine)
        modify closed) := by
  refine Within.bind (advances_accept _).keepsRoot fun empty => ?_
  split
  · exact within_modify sameRoot_closed
  · refine Within.bind (advances_accept _).keepsRoot fun ended => ?_
    split
    · exact within_pure ()
    · exact Within.bind (advances_report _).keepsRoot fun _ => within_modify sameRoot_closed

theorem keepsOpenRoot_startElement : KeepsOpenRoot startElement := by
  refine KeepsTree.bind_open within_get fun s => ?_
  split
  · exact (keepsTree_reportLast _).keepsRoot.keepsOpenRoot
  · refine (advances_skip 1).keepsTree.bind_open fun _ => ?_
    refine (keepsTree_startTag? s.line).bind_open fun tag => ?_
    split
    · exact KeepsRoot.keepsOpenRoot (within_pure ())
    · rename_i e
      have hpushed : KeepsOpenRoot
          (modify fun s => { s with openElements := e :: s.openElements }) :=
        fun s hopen => sameRoot_opened hopen e
      exact hpushed.bind fun _ => keepsRoot_tagEnd e

theorem keepsRoot_endElement : KeepsRoot endElement := by
  refine Within.bind within_get fun s => ?_
  split
  · exact within_pure ()
  · refine Within.bind (advances_skip 2).keepsRoot fun _ => ?_
    refine Within.bind (advances_endName _).keepsRoot fun other => ?_
    refine Within.bind advances_skipSpaces.keepsRoot fun _ => ?_
    refine Within.bind (advances_accept _).keepsRoot fun found => ?_
    extract_lets ending matched
    have hending : ∀ u, KeepsRoot (ending u) := fun _ => within_modify sameRoot_closed
    have hmatched : ∀ u, KeepsRoot (matched u) := by
      intro u
      unfold matched
      split
      · exact Within.bind (advances_report _).keepsRoot hending
      · exact hending ()
    split
    · exact hmatched ()
    · exact Within.bind (advances_report _).keepsRoot hmatched

theorem keepsRoot_text : KeepsRoot text := by
  refine Within.bind within_get fun s => ?_
  refine Within.bind (advances_characters _ _).keepsRoot fun found => ?_
  refine Within.bind (keepsRoot_addText _) fun _ => ?_
  refine Within.bind advances_rest.keepsRoot fun text => ?_
  split
  · split
    · extract_lets further
      have hfurther : ∀ u, KeepsRoot (further u) := fun _ =>
        Within.bind (advances_report _).keepsRoot fun _ => (advances_skip 1).keepsRoot
      split
      · exact Within.bind (advances_report _).keepsRoot hfurther
      · exact hfurther ()
    · exact within_pure ()
  · exact within_pure ()

theorem advances_checkClosed (floor : Nat) : Advances (checkClosed floor) := by
  refine Within.bind within_get fun s => ?_
  split
  · split
    · exact advances_report _
    · exact within_pure ()
  · exact within_pure ()

theorem sameRoot_withNodes (nodes : List Node) (s : Progress) : SameRoot s (withNodes nodes s) := by
  unfold withNodes
  split
  · rename_i e rest hopen
    exact sameRoot_children hopen _
  · exact refl s

theorem keepsRoot_content (bound floor : Nat) (opened : List Text) :
    KeepsRoot (content bound floor opened) := by
  induction bound generalizing floor opened with
  | zero => exact within_pure ()
  | succ bound ih =>
      intro s
      unfold content
      rw [after_get_bind]
      split
      · exact refl s
      · rename_i hgoes
        have hopen : s.openElements ≠ [] := by
          intro hnone
          simp [hnone] at hgoes
        have hnext : ∀ u : Unit, KeepsRoot (content bound floor opened) := fun _ => ih floor opened
        split
        · exact (advances_checkClosed floor).keepsRoot s
        · exact Within.bind advances_instruction.keepsRoot
            (fun _ => Within.bind (keepsRoot_addNode _) hnext) s
        · split
          · exact refl s
          · exact Within.bind keepsRoot_endElement hnext s
        · refine (advances_startsWith _).keepsTree.bind_open (fun isData => ?_) s hopen
          extract_lets further
          split
          · refine KeepsRoot.keepsOpenRoot ?_
            refine Within.bind advances_characterData?.keepsRoot fun data => ?_
            split
            · exact Within.bind (keepsRoot_addCharacterData _) hnext
            · exact hnext ()
          · refine (advances_startsWith _).keepsTree.bind_open fun isComment => ?_
            split
            · exact KeepsRoot.keepsOpenRoot (Within.bind advances_comment.keepsRoot
                fun _ => Within.bind (keepsRoot_addNode _) hnext)
            · exact keepsOpenRoot_startElement.bind hnext
        · refine Within.bind advances_charReference?.keepsRoot (fun c => ?_) s
          extract_lets further
          split
          · exact Within.bind (keepsRoot_addText _) hnext
          · exact hnext ()
        · refine advances_entityName?.keepsTree.bind_open (fun name => ?_) s hopen
          extract_lets further
          split
          · rename_i entity
            refine (advances_entityMeaning? _ _).keepsTree.bind_open fun meaning => ?_
            split
            · exact KeepsRoot.keepsOpenRoot (Within.bind (keepsRoot_addNode _) hnext)
            · exact KeepsRoot.keepsOpenRoot (Within.bind (keepsRoot_addText _) hnext)
            · intro t ht
              rw [after_get_bind]
              split
              · extract_lets referred place inside restored
                have hreferred : ∀ u, KeepsRoot (referred u) := by
                  intro u
                  unfold referred
                  split
                  · exact Within.bind (keepsRoot_addNode _) hnext
                  · exact hnext ()
                -- after the text of the entity, the elements are those before it
                have hrestored (u : Unit) (v : Progress) (hv : t.SameRoot v) :
                    t.SameRoot (after (restored u) v) := by
                  unfold restored
                  rw [after_bind, after_modify]
                  refine SameRoot.trans ?_ (hreferred () _)
                  extract_lets ended nodes back
                  have hended : t.SameRoot ended :=
                    hv.trans (sameRoot_unwound inside v.openElements.length v)
                  have hback : t.SameRoot back := hended.reopened rfl rfl
                  split
                  · exact hback.trans (sameRoot_withNodes nodes back)
                  · exact hback
                split
                · exact Within.bind (keepsTree_reportLast _).keepsRoot hreferred t
                · split
                  · rw [after_set_bind, after_bind]
                    generalize hplace : ({ t with
                      rest := _
                      left := _
                      line := _
                      column := _
                      brokenAt := _
                      shownAt := _
                      readEntities := _
                      openElements := place :: t.openElements } : Progress) = placed
                    have hplaced : t.SameRoot placed := by
                      refine (sameRoot_opened ht place).trans (SameTree.sameRoot ?_)
                      rw [← hplace]
                      exact ⟨rfl, rfl⟩
                    have hinside := hplaced.trans (ih inside (entity :: opened) placed)
                    rw [after_get_bind]
                    split
                    · rw [after_bind]
                      exact hrestored () _ (hinside.trans ((advances_report _).keepsRoot _))
                    · exact hrestored () _ hinside
                  · exact hreferred () t
              · exact hnext () t
            · exact KeepsRoot.keepsOpenRoot (Within.bind (keepsRoot_addNode _) hnext)
          · exact KeepsRoot.keepsOpenRoot (hnext ())
        · exact Within.bind keepsRoot_text hnext s

/-! ### Documents -/

/-- What is read from the start tag of the root on. -/
def fromRoot : Reader Unit := do
  startElement
  content (entityBound (← get) + 1) 0 []
  unless (← get).stopped do
    miscellany ((← get).left + 1)
    let s ← get
    if s.intact then
      if !s.rest.isEmpty then report .extraContent
      else if s.truncated then report .badEncodingBytes

/-- What is read after the first comments and instructions. -/
def fromDocumentType : Reader Unit := do
  if ← startsWith "<!DOCTYPE" then
    documentType
    miscellany ((← get).left + 1)
  if ← startsWith ['<'] then fromRoot
  else if (← get).intact then report .startTagExpected

def isEmptyAt (s : Progress) : Bool :=
  s.octets = some [] || (['\x00'] : Text).isPrefixOf s.rest

theorem after_document (s : Progress) :
    after document s = if isEmptyAt s then after (report .documentEmpty) s
      else after fromDocumentType (after beforeRoot s) := by
  unfold document
  rw [after_get_bind, after_startsWith_bind]
  change after (if isEmptyAt s = true then _ else _) s = _
  split
  · rfl
  · rw [after_startsWith_bind]
    unfold beforeRoot
    rw [after_startsWith_bind]
    extract_lets rooted typed further
    have hfurther (u : Unit) (t : Progress) :
        after (typed u) t = after fromDocumentType (after (further u) t) := by
      unfold typed further
      rw [after_get_bind, after_get_bind, after_bind]
      rfl
    cases ("<?xml" : Text).isPrefixOf s.rest with
    | false =>
        simp only [Bool.false_eq_true, if_false]
        exact hfurther () s
    | true =>
        simp only [if_true]
        rw [after_rest_bind, after_rest_bind]
        split
        · simp only [after_bind]
          exact hfurther () _
        · exact hfurther () s

/-- After what stands before the root, a document goes on with the start tag of the root. -/
theorem after_fromDocumentType {s : Progress} {c : Char} {more : Text}
    (hrest : s.rest = '<' :: c :: more) (hc : c ≠ '!') :
    after fromDocumentType s = after fromRoot s := by
  have htype : ("<!DOCTYPE" : Text).isPrefixOf s.rest = false := by
    rw [hrest]
    simp [List.isPrefixOf, Ne.symm hc]
  have htag : (['<'] : Text).isPrefixOf s.rest = true := by
    rw [hrest]
    rfl
  unfold fromDocumentType
  rw [after_startsWith_bind, htype]
  extract_lets rooted
  change after (rooted ()) s = _
  unfold rooted
  rw [after_startsWith_bind, htag]
  rfl

/-- The first element that is opened is the root. -/
theorem rootTag_startElement {s : Progress} (hopen : s.openElements = []) (hroot : s.root = none)
    {e : OpenElement} (he : result (startTag? s.line) (after (skip 1) s) = some e) :
    RootTag e.tag (after startElement s) := by
  have hsame := ((advances_skip 1).keepsTree s).trans
    (keepsTree_startTag? s.line (after (skip 1) s))
  have hdepth : ¬ depthLimit ≤ s.openElements.length := by
    rw [hopen]
    decide
  unfold startElement
  rw [after_get_bind, if_neg hdepth, after_bind, after_bind, he]
  refine keepsRoot_tagEnd e _ e.tag ⟨fun f hf => ?_, fun r hr => ?_⟩
  · dsimp only at hf
    rw [hsame.openElements, hopen] at hf
    cases hf
    rfl
  · dsimp only at hr
    rw [hsame.root, hroot] at hr
    cases hr

theorem rootTag_fromRoot {s : Progress} {tag : Tag} (htag : RootTag tag (after startElement s)) :
    RootTag tag (after fromRoot s) := by
  have hrest : KeepsRoot (do
      content (entityBound (← get) + 1) 0 []
      unless (← get).stopped do
        miscellany ((← get).left + 1)
        let s ← get
        if s.intact then
          if !s.rest.isEmpty then report .extraContent
          else if s.truncated then report .badEncodingBytes) := by
    refine Within.bind within_get fun s => Within.bind (keepsRoot_content _ _ _) fun _ => ?_
    refine Within.bind within_get fun s => ?_
    split
    · exact within_pure ()
    · refine Within.bind within_get fun s => ?_
      refine Within.bind (advances_miscellany _).keepsRoot fun _ => ?_
      refine Within.bind within_get fun s => Advances.keepsRoot ?_
      repeat' split
      all_goals first | exact advances_report _ | exact within_pure ()
  exact hrest _ tag htag

theorem fresh_start (octets : List UInt8) : (start false octets).Fresh := by
  unfold start
  split
  dsimp only
  split
  · exact Progress.Fresh.advanced ⟨rfl, rfl, rfl, rfl, rfl, rfl⟩ (Progress.advanced_withFinding _ _)
  · exact ⟨rfl, rfl, rfl, rfl, rfl, rfl⟩

/-- The state in which the reading of a document has passed what stands before the root. -/
def atRoot (octets : List UInt8) : Progress :=
  after beforeRoot (start false octets)

theorem fresh_atRoot (octets : List UInt8) : (atRoot octets).Fresh :=
  (fresh_start octets).advanced (advances_beforeRoot _)

/-- A document whose first markup after comments and instructions is a start tag has a root with
that tag. -/
theorem tag_of_parse {octets : List UInt8} {root : Element}
    (hroot : (parse false octets).root = some root) {c : Char} {more : Text}
    (hrest : (atRoot octets).rest = '<' :: c :: more) (hc : c ≠ '!') {e : OpenElement}
    (he : result (startTag? (atRoot octets).line) (after (skip 1) (atRoot octets)) = some e) :
    root.tag = e.tag := by
  have hfresh := fresh_start octets
  have hparse : (parse false octets).root =
      (unwound 0 (after document (start false octets)).openElements.length
        (after document (start false octets))).root := rfl
  rw [hparse, after_document] at hroot
  split at hroot
  · have hreport := advances_report .documentEmpty (start false octets)
    rw [hreport.openElements, hfresh.openElements, List.length_nil, unwound, hreport.root,
      hfresh.root] at hroot
    cases hroot
  · have hrooted : after fromDocumentType (after beforeRoot (start false octets)) =
        after fromRoot (atRoot octets) := after_fromDocumentType hrest hc
    rw [hrooted] at hroot
    have htag := rootTag_fromRoot (rootTag_startElement (fresh_atRoot octets).openElements
      (fresh_atRoot octets).root he)
    exact (sameRoot_unwound 0 _ _ _ htag).root root hroot

end Reader

end XmlCheck.Xml
