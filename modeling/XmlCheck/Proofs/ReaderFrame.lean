import Mathlib.Order.Defs.Unbundled
import XmlCheck.Xml.Parse

/-!
# What the steps of the reading leave as it is

Most steps of the reading only move on in the text and note problems. They leave the elements as
they are, and those that come before the first start tag stop nothing and declare nothing. Each step
is put together from others, and what all parts of a step keep, the step keeps.
-/

namespace XmlCheck.Xml

/-- The elements are the same ones. -/
structure Progress.SameTree (s t : Progress) : Prop where
  openElements : t.openElements = s.openElements
  root : t.root = s.root

/-- The reading has moved on in the text or has noted problems, and nothing else. -/
structure Progress.Advanced (s t : Progress) : Prop extends Progress.SameTree s t where
  defaults : t.defaults = s.defaults
  tokenLists : t.tokenLists = s.tokenLists
  stopped : t.stopped = s.stopped
  counted : s.left = s.rest.length → t.left = t.rest.length

structure Progress.Fresh (s : Progress) : Prop where
  openElements : s.openElements = []
  root : s.root = none
  defaults : s.defaults = []
  tokenLists : s.tokenLists = []
  stopped : s.stopped = false
  counted : s.left = s.rest.length

namespace Progress

theorem SameTree.refl (s : Progress) : SameTree s s :=
  ⟨rfl, rfl⟩

theorem SameTree.trans {s t u : Progress} (hst : SameTree s t) (htu : SameTree t u) :
    SameTree s u :=
  ⟨htu.openElements.trans hst.openElements, htu.root.trans hst.root⟩

theorem Advanced.refl (s : Progress) : Advanced s s :=
  ⟨SameTree.refl s, rfl, rfl, rfl, id⟩

theorem Advanced.trans {s t u : Progress} (hst : Advanced s t) (htu : Advanced t u) :
    Advanced s u :=
  ⟨hst.toSameTree.trans htu.toSameTree, htu.defaults.trans hst.defaults,
    htu.tokenLists.trans hst.tokenLists, htu.stopped.trans hst.stopped, htu.counted ∘ hst.counted⟩

theorem Fresh.advanced {s t : Progress} (hs : s.Fresh) (hst : s.Advanced t) : t.Fresh :=
  ⟨hst.openElements.trans hs.openElements, hst.root.trans hs.root, hst.defaults.trans hs.defaults,
    hst.tokenLists.trans hs.tokenLists, hst.stopped.trans hs.stopped, hst.counted hs.counted⟩

instance : IsPreorder Progress SameTree where
  refl := SameTree.refl
  trans _ _ _ := SameTree.trans

instance : IsPreorder Progress Advanced where
  refl := Advanced.refl
  trans _ _ _ := Advanced.trans

theorem advanced_withFinding (s : Progress) (problem : Problem) :
    Advanced s (s.withFinding problem) := by
  unfold withFinding
  split
  · exact Advanced.refl s
  · exact ⟨⟨rfl, rfl⟩, rfl, rfl, rfl, id⟩

theorem rest_withFinding (s : Progress) (problem : Problem) :
    (s.withFinding problem).rest = s.rest := by
  unfold withFinding
  split <;> rfl

theorem left_withFinding (s : Progress) (problem : Problem) :
    (s.withFinding problem).left = s.left := by
  unfold withFinding
  split <;> rfl

theorem rest_step (s : Progress) : s.step.rest = s.rest.drop 1 := by
  unfold step
  split
  · rename_i hrest
    rw [hrest]
    rfl
  · rename_i c rest hrest
    rw [hrest]
    dsimp only
    split <;> rfl

theorem advanced_step (s : Progress) : Advanced s s.step := by
  unfold step
  split
  · exact Advanced.refl s
  · rename_i c rest hrest
    have hbroken : Advanced s (if s.brokenAt = some s.left then
          { s with brokenAt := none }.withFinding .badEncodingBytes else s) ∧
        (if s.brokenAt = some s.left then
          { s with brokenAt := none }.withFinding .badEncodingBytes else s).left = s.left := by
      split
      · have hnone : Advanced s { s with brokenAt := none } := ⟨⟨rfl, rfl⟩, rfl, rfl, rfl, id⟩
        exact ⟨hnone.trans (advanced_withFinding _ _), left_withFinding _ _⟩
      · exact ⟨Advanced.refl s, rfl⟩
    dsimp only
    generalize (if s.brokenAt = some s.left then
      { s with brokenAt := none }.withFinding .badEncodingBytes else s) = t at hbroken ⊢
    obtain ⟨⟨⟨helements, hroot⟩, hdefaults, hlists, hstopped, -⟩, hleft⟩ := hbroken
    have hcounted : s.left = s.rest.length → t.left - 1 = rest.length := by
      intro hcounted
      rw [hleft, hcounted, hrest, List.length_cons, Nat.add_sub_cancel]
    split <;> exact ⟨⟨helements, hroot⟩, hdefaults, hlists, hstopped, hcounted⟩

theorem advanced_steps (n : Nat) (s : Progress) : Advanced s (steps n s) := by
  induction n generalizing s with
  | zero => exact Advanced.refl s
  | succ n ih => exact (advanced_step s).trans (ih s.step)

theorem rest_steps (n : Nat) (s : Progress) : (steps n s).rest = s.rest.drop n := by
  induction n generalizing s with
  | zero => rfl
  | succ n ih => rw [steps, ih, rest_step, List.drop_drop, Nat.add_comm]

end Progress

namespace Reader

def after {α : Type} (step : Reader α) (s : Progress) : Progress :=
  (StateT.run step s : Id _).2

def result {α : Type} (step : Reader α) (s : Progress) : α :=
  (StateT.run step s : Id _).1

theorem after_bind {α β : Type} (step : Reader α) (next : α → Reader β) (s : Progress) :
    after (step >>= next) s = after (next (result step s)) (after step s) :=
  rfl

theorem result_bind {α β : Type} (step : Reader α) (next : α → Reader β) (s : Progress) :
    result (step >>= next) s = result (next (result step s)) (after step s) :=
  rfl

theorem after_get_bind {β : Type} (next : Progress → Reader β) (s : Progress) :
    after (get >>= next) s = after (next s) s :=
  rfl

theorem result_get_bind {β : Type} (next : Progress → Reader β) (s : Progress) :
    result (get >>= next) s = result (next s) s :=
  rfl

theorem after_set_bind {β : Type} (t : Progress) (next : PUnit → Reader β) (s : Progress) :
    after (set t >>= next) s = after (next ⟨⟩) t :=
  rfl

theorem after_rest_bind {β : Type} (next : Text → Reader β) (s : Progress) :
    after (rest >>= next) s = after (next s.rest) s :=
  rfl

theorem after_startsWith_bind {β : Type} (word : Text) (next : Bool → Reader β) (s : Progress) :
    after (startsWith word >>= next) s = after (next (word.isPrefixOf s.rest)) s :=
  rfl

theorem after_modify (f : Progress → Progress) (s : Progress) : after (modify f) s = f s :=
  rfl

def Within (R : Progress → Progress → Prop) {α : Type} (step : Reader α) : Prop :=
  ∀ s, R s (after step s)

section Within

variable {R : Progress → Progress → Prop} {α β : Type}

theorem Within.mono {Q : Progress → Progress → Prop} {step : Reader α} (hstep : Within R step)
    (hle : ∀ s t, R s t → Q s t) : Within Q step :=
  fun s => hle _ _ (hstep s)

theorem within_modify {f : Progress → Progress} (hf : ∀ s, R s (f s)) : Within R (modify f) :=
  hf

variable [IsPreorder Progress R]

theorem within_pure (a : α) : Within R (pure a) :=
  fun s => refl s

theorem within_get : Within R get :=
  fun s => refl s

theorem Within.bind {step : Reader α} {next : α → Reader β} (hstep : Within R step)
    (hnext : ∀ a, Within R (next a)) : Within R (step >>= next) :=
  fun s => IsTrans.trans _ _ _ (hstep s) (hnext _ _)

end Within

/-! ### Steps that move on in the text -/

abbrev Advances {α : Type} (step : Reader α) : Prop :=
  Within Progress.Advanced step

theorem advances_report (problem : Problem) : Advances (report problem) :=
  within_modify fun s => s.advanced_withFinding problem

theorem advances_skip (n : Nat) : Advances (skip n) :=
  within_modify fun s => s.advanced_steps n

theorem advances_rest : Advances rest :=
  Within.bind within_get fun s => within_pure s.rest

theorem advances_next? : Advances next? :=
  Within.bind within_get fun s => within_pure s.rest.head?

theorem advances_startsWith (word : Text) : Advances (startsWith word) :=
  Within.bind within_get fun s => within_pure (word.isPrefixOf s.rest)

theorem advances_run (p : Char → Bool) : Advances (run p) :=
  Within.bind within_get fun s =>
    Within.bind (advances_skip (s.rest.takeWhile p).length) fun _ => within_pure _

theorem advances_skipSpaces : Advances skipSpaces :=
  Within.bind (advances_run isSpace) fun found => within_pure (!found.isEmpty)

theorem advances_accept (word : Text) : Advances (accept word) := by
  refine Within.bind (advances_startsWith word) fun found => ?_
  split
  · exact Within.bind (advances_skip word.length) fun _ => within_pure true
  · exact within_pure false

theorem advances_requireSpaces (problem : Problem) : Advances (requireSpaces problem) := by
  refine Within.bind advances_skipSpaces fun found => ?_
  split
  · exact within_pure ()
  · exact advances_report problem

theorem advances_plainName? : Advances plainName? := by
  refine Within.bind advances_next? fun next => ?_
  split
  · split
    · exact Within.bind (advances_run _) fun name => within_pure (some name)
    · exact within_pure none
  · exact within_pure none

theorem advances_fullName? : Advances fullName? := by
  refine Within.bind advances_next? fun next => ?_
  split
  · split
    · exact Within.bind (advances_run _) fun name => within_pure (some name)
    · exact within_pure none
  · exact within_pure none

/-- A name with too many colons is read from its start again. -/
theorem advanced_badQName? (start s : Progress) : start.Advanced (after (badQName? start) s) := by
  unfold badQName?
  rw [after_set_bind, after_bind]
  refine (advances_fullName? start).trans ?_
  split
  · exact advances_report _ _
  · exact .refl _

theorem advances_qName? : Advances qName? := by
  intro s
  have hbind {α β : Type} {step : Reader α} {next : α → Reader β} {t : Progress}
      (hstep : Advances step) (ht : s.Advanced t)
      (hnext : ∀ a u, s.Advanced u → s.Advanced (after (next a) u)) :
      s.Advanced (after (step >>= next) t) := hnext _ _ (ht.trans (hstep t))
  unfold qName?
  rw [after_get_bind]
  refine hbind advances_plainName? (.refl s) fun first t ht => ?_
  split
  · refine hbind advances_next? ht fun next u hu => ?_
    split
    · exact advanced_badQName? s u
    · exact hu
  · refine hbind advances_next? ht fun next u hu => ?_
    split
    · refine hbind (advances_skip 1) hu fun _ v hv => ?_
      refine hbind advances_plainName? hv fun second w hw => ?_
      split
      · refine hbind advances_next? hw fun next x hx => ?_
        split
        · exact advanced_badQName? s x
        · exact hx
      · exact advanced_badQName? s w
    · exact hu

theorem advances_charOfCode (code : Nat) : Advances (charOfCode code) := by
  unfold charOfCode
  split
  · exact Within.bind (advances_report _) fun _ => within_pure none
  · split
    · exact within_pure _
    · exact Within.bind (advances_report _) fun _ => within_pure none

theorem advances_charReference? : Advances charReference? := by
  refine Within.bind (advances_startsWith _) fun hex => ?_
  refine Within.bind (advances_skip _) fun _ => Within.bind advances_rest fun text => ?_
  split
  · exact Within.bind (advances_skip _) fun _ => advances_charOfCode _
  · exact Within.bind (advances_skip _) fun _ =>
      Within.bind (advances_report _) fun _ => advances_charOfCode 0

theorem advances_entityName? : Advances entityName? := by
  refine Within.bind (advances_skip 1) fun _ => Within.bind advances_fullName? fun name => ?_
  split
  · exact Within.bind (advances_report _) fun _ => within_pure none
  · refine Within.bind (advances_accept _) fun found => ?_
    split
    · exact within_pure _
    · exact Within.bind (advances_report _) fun _ => within_pure none

theorem advances_entityMeaning? (name : Text) (inAttribute : Bool) :
    Advances (entityMeaning? name inAttribute) := by
  unfold entityMeaning?
  split
  · exact within_pure _
  · refine Within.bind within_get fun s => ?_
    split
    · split
      · exact Within.bind (advances_report _) fun _ => within_pure none
      · exact within_pure none
    · exact Within.bind (advances_report _) fun _ => within_pure none
    · split
      · exact Within.bind (advances_report _) fun _ => within_pure none
      · exact within_pure _
    · exact within_pure _

theorem advances_commentTail (q r : Char) (bound : Nat) (before : Text) :
    Advances (commentTail q r bound before) := by
  induction bound generalizing q r before with
  | zero => exact within_pure ()
  | succ bound ih =>
      refine Within.bind advances_next? fun next => ?_
      split
      · exact advances_report _
      · split
        · exact advances_report _
        · split
          · exact advances_skip 1
          · extract_lets further
            have hfurther : ∀ u, Advances (further u) :=
              fun _ => Within.bind (advances_skip 1) fun _ => ih _ _ _
            split
            · exact Within.bind (advances_report _) hfurther
            · exact hfurther ()

theorem advances_commentSlow (before : Text) : Advances (commentSlow before) := by
  refine Within.bind advances_rest fun text => ?_
  split
  · exact advances_report _
  · split
    · exact Within.bind (advances_skip 1) fun _ => advances_report _
    · exact advances_report _
  · split
    · exact advances_report _
    · refine Within.bind (advances_skip 1) fun _ => ?_
      split
      · exact advances_report _
      · refine Within.bind (advances_skip 1) fun _ => ?_
        split
        · exact advances_report _
        · exact advances_commentTail _ _ _ _

theorem advances_commentBody (bound : Nat) (before : Text) :
    Advances (commentBody bound before) := by
  induction bound generalizing before with
  | zero => exact within_pure ()
  | succ bound ih =>
      refine Within.bind (advances_run _) fun found => Within.bind advances_rest fun text => ?_
      split
      · exact advances_skip 3
      · exact Within.bind (advances_report _) fun _ =>
          Within.bind (advances_skip 2) fun _ => ih _
      · exact Within.bind (advances_skip 1) fun _ => ih _
      · exact Within.bind (advances_skip 1) fun _ => ih _
      · exact advances_commentSlow _

theorem advances_comment : Advances comment :=
  Within.bind (advances_skip 4) fun _ => Within.bind within_get fun s =>
    advances_commentBody (s.left + 1) []

theorem advances_target? : Advances target? := by
  refine Within.bind advances_fullName? fun name => ?_
  split
  · exact within_pure none
  · extract_lets named
    have hnamed : ∀ u, Advances (named u) := fun _ => within_pure _
    split
    · exact Within.bind (advances_report _) hnamed
    · split
      · exact Within.bind (advances_report _) hnamed
      · split
        · exact Within.bind (advances_report _) hnamed
        · exact hnamed ()

theorem advances_instruction : Advances instruction := by
  refine Within.bind (advances_skip 2) fun _ => Within.bind advances_target? fun name => ?_
  split
  · exact advances_report _
  · refine Within.bind (advances_accept _) fun ended => ?_
    split
    · exact within_pure ()
    · refine Within.bind (advances_requireSpaces _) fun _ => ?_
      refine Within.bind advances_rest fun text => ?_
      refine Within.bind (advances_skip _) fun _ => Within.bind (advances_accept _) fun ended => ?_
      split
      · exact within_pure ()
      · exact advances_report _

theorem advances_characterData? : Advances characterData? := by
  refine Within.bind (advances_skip 9) fun _ => Within.bind advances_rest fun text => ?_
  refine Within.bind (advances_skip _) fun _ => Within.bind (advances_accept _) fun ended => ?_
  split
  · exact within_pure _
  · exact Within.bind (advances_report _) fun _ => within_pure none

theorem advances_miscellany (bound : Nat) : Advances (miscellany bound) := by
  induction bound with
  | zero => exact within_pure ()
  | succ bound ih =>
      refine Within.bind advances_skipSpaces fun _ => Within.bind within_get fun s => ?_
      split
      · exact within_pure ()
      · refine Within.bind (advances_startsWith _) fun found => ?_
        split
        · exact Within.bind advances_instruction fun _ => ih
        · refine Within.bind (advances_startsWith _) fun found => ?_
          split
          · exact Within.bind advances_comment fun _ => ih
          · exact within_pure ()

theorem advances_versionNumber? : Advances versionNumber? := by
  refine Within.bind advances_rest fun text => Within.bind advances_rest fun more => ?_
  split
  · exact Within.bind (advances_skip 2) fun _ =>
      Within.bind (advances_run _) fun _ => within_pure _
  · exact Within.bind (advances_skip 1) fun _ => within_pure none
  · exact within_pure none

theorem advances_encodingName? : Advances encodingName? := by
  refine Within.bind advances_next? fun next => ?_
  split
  · split
    · exact Within.bind (advances_run _) fun _ => within_pure _
    · exact Within.bind (advances_report _) fun _ => within_pure none
  · exact Within.bind (advances_report _) fun _ => within_pure none

theorem advances_quotedValue? {α : Type} {read : Reader (Option α)} (hread : Advances read)
    (keepsOpen : Bool) : Advances (quotedValue? read keepsOpen) := by
  refine Within.bind advances_skipSpaces fun _ => Within.bind (advances_accept _) fun found => ?_
  split
  · refine Within.bind advances_skipSpaces fun _ => Within.bind advances_next? fun next => ?_
    split
    · split
      · refine Within.bind (advances_skip 1) fun _ => Within.bind hread fun value => ?_
        refine Within.bind (advances_accept _) fun ended => ?_
        split
        · exact within_pure value
        · exact Within.bind (advances_report _) fun _ => within_pure _
      · exact Within.bind (advances_report _) fun _ => within_pure none
    · exact Within.bind (advances_report _) fun _ => within_pure none
  · exact Within.bind (advances_report _) fun _ => within_pure none

/-- Another encoding gives another text, which is all to be read. -/
theorem advances_changeEncoding (name : Text) : Advances (changeEncoding name) := by
  intro s
  unfold changeEncoding
  rw [after_get_bind]
  split
  · exact .refl s
  · have hread : s.Advanced { s with octets := none } := ⟨⟨rfl, rfl⟩, rfl, rfl, rfl, id⟩
    rw [after_set_bind]
    refine hread.trans ?_
    split
    · exact advances_report _ _
    · exact .refl _
    · extract_lets consumed decoded
      have hdecoded : Advances (modify fun t : Progress =>
          { t with
            rest := decoded.text
            left := decoded.text.length
            brokenAt := none
            truncated := decoded.truncated }) :=
        within_modify fun t => ⟨⟨rfl, rfl⟩, rfl, rfl, rfl, fun _ => rfl⟩
      refine Within.bind hdecoded (fun _ => ?_) _
      split
      · exact advances_report _
      · exact within_pure ()

theorem advances_standaloneWord? : Advances standaloneWord? := by
  refine Within.bind (advances_accept _) fun no => ?_
  split
  · exact within_pure _
  · refine Within.bind (advances_accept _) fun yes => ?_
    split
    · exact within_pure _
    · exact Within.bind (advances_report _) fun _ => within_pure none

theorem advances_skipToGreater : Advances skipToGreater :=
  Within.bind (advances_run _) fun _ => advances_skip 1

/-- Where a part of a declaration is followed by a blank, by its end, or by neither. -/
theorem advances_afterPart {further : Unit → Reader Unit} (hfurther : ∀ u, Advances (further u)) :
    Advances (do
      let next ← next?
      if (next.map isSpace).getD false = true then further ()
      else do
        let ended ← accept "?>"
        if ended = true then pure ()
        else do
          let u ← report .blankNeeded
          further u) := by
  refine Within.bind advances_next? fun next => ?_
  split
  · exact hfurther ()
  · refine Within.bind (advances_accept _) fun ended => ?_
    split
    · exact within_pure ()
    · exact Within.bind (advances_report _) hfurther

theorem advances_declaration : Advances declaration := by
  unfold declaration
  refine Within.bind (advances_skip 5) fun _ => Within.bind advances_skipSpaces fun _ => ?_
  refine Within.bind (advances_accept _) fun hasVersion => ?_
  -- the parts of the declaration, the last one first
  extract_lets ending standalone afterEncoding encoding afterNumber afterVersion
  have hending : ∀ u, Advances (ending u) := by
    intro u
    refine Within.bind advances_skipSpaces fun _ => Within.bind (advances_accept _) fun ended => ?_
    split
    · exact within_pure ()
    · refine Within.bind (advances_report _) fun _ => ?_
      refine Within.bind (advances_accept _) fun ended => ?_
      split
      · exact within_pure ()
      · exact advances_skipToGreater
  have hstandalone : ∀ u, Advances (standalone u) := by
    intro u
    refine Within.bind advances_skipSpaces fun _ => Within.bind (advances_accept _) fun found => ?_
    split
    · refine Within.bind (advances_quotedValue? advances_standaloneWord? true) fun value => ?_
      split
      · refine Within.bind (within_modify fun s => ?_) hending
        exact ⟨⟨rfl, rfl⟩, rfl, rfl, rfl, id⟩
      · exact hending ()
    · exact hending ()
  have hafterEncoding : ∀ name, Advances (afterEncoding name) := by
    intro name
    unfold afterEncoding
    split
    · exact Within.bind (advances_changeEncoding _) fun _ => advances_afterPart hstandalone
    · exact hstandalone ()
  have hencoding : ∀ u, Advances (encoding u) := by
    intro u
    refine Within.bind advances_skipSpaces fun _ => Within.bind (advances_accept _) fun found => ?_
    split
    · exact Within.bind (advances_quotedValue? advances_encodingName? false) hafterEncoding
    · exact Within.bind (within_pure none) hafterEncoding
  have hafterVersion : ∀ version, Advances (afterVersion version) := by
    intro version
    unfold afterVersion
    split
    · exact Within.bind (advances_report _) fun _ => advances_afterPart hencoding
    · split
      · exact advances_afterPart hencoding
      · exact Within.bind (advances_report _) fun _ => advances_afterPart hencoding
  split
  · exact Within.bind (advances_quotedValue? advances_versionNumber? true) hafterVersion
  · exact Within.bind (within_pure none) hafterVersion

/-! ### The steps before the root -/

/-- What is read before the root of a document without document type declaration. -/
def beforeRoot : Reader Unit := do
  if ← startsWith "<?xml" then
    if (((← rest).drop 5).head?.map isSpace).getD false then
      declaration
      let _ ← skipSpaces
  miscellany ((← get).left + 1)

theorem advances_beforeRoot : Advances beforeRoot := by
  unfold beforeRoot
  refine Within.bind (advances_startsWith _) fun found => ?_
  extract_lets between
  have hbetween : ∀ u, Advances (between u) :=
    fun _ => Within.bind within_get fun s => advances_miscellany (s.left + 1)
  split
  · refine Within.bind advances_rest fun text => ?_
    split
    · refine Within.bind advances_declaration fun _ => ?_
      exact Within.bind advances_skipSpaces fun _ => hbetween ()
    · exact hbetween ()
  · exact hbetween ()

end Reader

end XmlCheck.Xml
