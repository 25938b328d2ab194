import XmlCheck.Proofs.MarkupReading
import XmlCheck.Report

/-!
# Printing marked texts

A marked text is taken apart into stretches, each stretch is shown on its own, and the styles of a
line do not show without colours. So what is printed is put together from what the tokens show: a
character shows itself, a mark that is read as text shows with half of its backslashes. This holds
for texts without control characters and codes of pictures, and where no backslash stands right
before a bracket that begins no mark, since such a backslash is taken for a guard and dropped.
-/

namespace XmlCheck

namespace Console

variable {pictures : Pictures}

/-! ### Stretches of text -/

/-- No code between two colons is that of a picture. -/
def PictureFree (pictures : Pictures) (text : Text) : Prop :=
  ∀ code : Text, (∀ c ∈ code, c ≠ ':' ∧ Text.isBlank c = false) →
    ':' :: code ++ [':'] <:+: text → picture? pictures code = none

theorem PictureFree.of_infix {text part : Text} (hfree : PictureFree pictures text)
    (hpart : part <:+: text) : PictureFree pictures part :=
  fun code hcode hinside => hfree code hcode (hinside.trans hpart)

theorem withPictures_eq (text : Text) :
    (PictureFree pictures text → withPictures pictures none text = text) ∧
      ∀ code : Text, (∀ c ∈ code, c ≠ ':' ∧ Text.isBlank c = false) →
        PictureFree pictures (':' :: code.reverse ++ text) →
        withPictures pictures (some code) text = ':' :: code.reverse ++ text := by
  induction text with
  | nil =>
      refine ⟨fun _ => rfl, fun code _ _ => ?_⟩
      rw [withPictures, List.append_nil]
  | cons c rest ih =>
      obtain ⟨ihnone, ihsome⟩ := ih
      refine ⟨fun hfree => ?_, fun code hcode hfree => ?_⟩
      · rw [withPictures]
        split
        · rename_i hc
          subst hc
          exact ihsome [] (by simp) hfree
        · rw [ihnone (hfree.of_infix (List.suffix_cons c rest).isInfix)]
      · have hrest : PictureFree pictures rest :=
          hfree.of_infix ((List.suffix_cons c rest).trans (List.suffix_append _ _)).isInfix
        rw [withPictures]
        split
        · rename_i hc
          have hpicture : picture? pictures code.reverse = none := by
            refine hfree code.reverse (fun d hd => hcode d (List.mem_reverse.mp hd)) ?_
            exact ⟨[], rest, by simp [hc]⟩
          rw [hpicture, Option.getD_none, ihnone hrest, hc]
          simp
        · split
          · rw [ihnone hrest]
          · rename_i hcolon hblank
            rw [ihsome (c :: code) (fun d hd => ?_) (by simpa using hfree)]
            · simp
            · rcases List.mem_cons.mp hd with rfl | hd
              · exact ⟨hcolon, by simpa using hblank⟩
              · exact hcode d hd

theorem withoutGuards_eq {text : Text} (hguard : ¬ ['\\', '['] <:+: text) :
    withoutGuards text = text := by
  induction text with
  | nil => rfl
  | cons c rest ih =>
      have hrest : ¬ ['\\', '['] <:+: rest := fun h =>
        hguard (h.trans (List.suffix_cons c rest).isInfix)
      rw [withoutGuards]
      · rw [ih hrest]
      · rintro tail rfl rfl
        exact hguard ⟨[], tail, rfl⟩

def isControl (c : Char) : Bool :=
  c.toNat < 0x20 || (0x7F ≤ c.toNat && c.toNat ≤ 0x9F)

theorem not_isDropped {c : Char} (hc : isControl c = false) : isDropped c = false := by
  unfold isControl at hc
  have hlow : 0x20 ≤ c.toNat := by
    by_contra hlow
    simp [Nat.not_le.mp hlow] at hc
  have hcodes : ∀ code ∈ [7, 8, 11, 12, 13], code < 0x20 := by decide
  unfold isDropped
  rw [List.contains_eq_mem, decide_eq_false_iff_not]
  intro hmem
  have hcode := hcodes c.toNat hmem
  omega

/-- What a stretch has to be for it to be shown as it is. -/
theorem display_eq {content : Text} (hcontrol : ∀ c ∈ content, isControl c = false)
    (hpicture : PictureFree pictures content) (hguard : ¬ ['\\', '['] <:+: content) :
    display pictures content = content := by
  rw [display, withoutGuards_eq hguard, (withPictures_eq content).1 hpicture]
  exact List.filter_eq_self.mpr fun c hc => by rw [not_isDropped (hcontrol c hc)]; rfl

/-! ### From tokens to stretches -/

/-- A backslash does not stand right before an opening bracket that begins no mark. -/
def Unguarded (first second : Token) : Prop :=
  ¬ (first = .char '\\' ∧ second = .char '[')

/-- What is shown of a token that is text: half of the backslashes before a mark. -/
abbrev shown : Token → Text :=
  Token.written (· / 2)

def IsText (token : Token) : Prop :=
  ∀ n word, token = .mark n word → n % 2 = 1 ∧ IsMarkWord word

theorem not_infix_of_unguarded {text : Text} (hchain : (text.map Token.char).IsChain Unguarded) :
    ¬ ['\\', '['] <:+: text := by
  rintro ⟨before, after, rfl⟩
  have hsplit : (before ++ ['\\', '['] ++ after).map Token.char =
      before.map Token.char ++ .char '\\' :: .char '[' :: after.map Token.char := by simp
  exact List.isChain_iff_forall_rel_of_append_cons_cons.mp hchain hsplit ⟨rfl, rfl⟩

theorem not_infix_bracketed {word : Text} (hword : IsMarkWord word) :
    ¬ ['\\', '['] <:+: bracketed word := by
  obtain ⟨c, inside, rfl, hstarts, hinside⟩ := hword
  rintro ⟨before, after, heq⟩
  cases before with
  | nil => simp [bracketed] at heq
  | cons d before =>
      have hmem : '[' ∈ c :: inside ++ [']'] := by
        have htail : before ++ ['\\', '['] ++ after = c :: inside ++ [']'] :=
          (List.cons.inj heq).2
        rw [← htail]
        simp
      simp only [List.cons_append, List.mem_cons, List.mem_append, List.not_mem_nil,
        or_false] at hmem
      rcases hmem with rfl | hmem | hmem
      · exact absurd hstarts (by decide)
      · exact absurd (hinside '[' hmem) (by decide)
      · exact absurd hmem (by decide)

theorem not_infix_replicate (n : Nat) : ¬ ['\\', '['] <:+: List.replicate n '\\' := by
  intro hinside
  have hmem : '[' ∈ List.replicate n '\\' := hinside.subset (by simp)
  exact absurd (List.eq_of_mem_replicate hmem) (by decide)

/-- The text as a list of one, or of none if it is empty. -/
def filled (text : Text) : List Text :=
  if text.isEmpty then [] else [text]

theorem filled_nil : filled [] = [] :=
  rfl

theorem flatten_filled (text : Text) : (filled text).flatten = text := by
  unfold filled
  split
  · rename_i hempty
    rw [List.isEmpty_iff.mp hempty]
    rfl
  · simp

theorem eq_of_mem_filled {text part : Text} (hmem : part ∈ filled text) : part = text := by
  unfold filled at hmem
  split at hmem
  · cases hmem
  · exact List.mem_singleton.mp hmem

theorem plain_filled_reverse (content : Text) :
    (if content.isEmpty then [] else [Stretch.plain content.reverse]) =
      (filled content.reverse).map .plain := by
  unfold filled
  cases content <;> simp

theorem markStretches_of_odd {n : Nat} (hodd : n % 2 = 1) (word : Text) (position : Nat) :
    markStretches n word position =
      (filled (List.replicate (n / 2) '\\') ++ [bracketed word]).map .plain := by
  unfold markStretches filled
  rw [if_pos hodd]
  dsimp only
  split <;> rfl

theorem markStretches_of_even {n : Nat} (heven : n % 2 = 0) (word : Text) (position : Nat) :
    markStretches n word position =
      (filled (List.replicate (n / 2) '\\')).map .plain ++ [.mark word (position + n)] := by
  unfold markStretches filled
  rw [if_neg (by omega)]
  dsimp only
  split <;> rfl

/-- Tokens that are text make stretches that have the same text, with no guard in any of them if
there is none among the tokens. The last stretch is still open; what comes next goes on from there.
-/
theorem exists_gather_eq (tokens : List Token) (htext : ∀ token ∈ tokens, IsText token)
    (content : Text) (position : Nat) :
    ∃ (parts : List Text) (last : Text) (next : Nat),
      (∀ more, gather content position (tokens ++ more) =
        parts.map .plain ++ gather last next more) ∧
      parts.flatten ++ last.reverse = content.reverse ++ tokens.flatMap shown ∧
      ((content.reverse.map Token.char ++ tokens).IsChain Unguarded →
        ∀ part ∈ last.reverse :: parts, ¬ ['\\', '['] <:+: part) := by
  induction tokens generalizing content position with
  | nil =>
      refine ⟨[], content, position, fun more => rfl, by simp, fun hchain part hpart => ?_⟩
      rw [List.append_nil] at hchain
      rw [List.mem_singleton.mp hpart]
      exact not_infix_of_unguarded hchain
  | cons token tokens ih =>
      have hrest : ∀ token ∈ tokens, IsText token :=
        fun other hother => htext other (List.mem_cons_of_mem token hother)
      cases token with
      | char c =>
          obtain ⟨parts, last, next, hgather, hflat, hguard⟩ :=
            ih hrest (c :: content) (position + 1)
          refine ⟨parts, last, next, hgather, ?_, fun hchain => hguard (by simpa using hchain)⟩
          rw [hflat]
          simp [Token.written]
      | mark n word =>
          obtain ⟨hodd, hword⟩ := htext _ List.mem_cons_self n word rfl
          obtain ⟨parts, last, next, hgather, hflat, hguard⟩ :=
            ih hrest [] (position + n + word.length + 2)
          refine ⟨filled content.reverse ++
            (filled (List.replicate (n / 2) '\\') ++ [bracketed word]) ++ parts, last, next,
            fun more => ?_, ?_, fun hchain part hpart => ?_⟩
          · rw [List.cons_append, gather, plain_filled_reverse, markStretches_of_odd hodd, hgather]
            simp only [List.map_append, List.append_assoc]
          · rw [List.flatten_append, List.append_assoc, hflat]
            simp [flatten_filled, Token.written]
          · have hnext : (([] : Text).reverse.map Token.char ++ tokens).IsChain Unguarded :=
              (hchain.right_of_append).tail
            have hpart : part = last.reverse ∨ part ∈ filled content.reverse ∨
                part ∈ filled (List.replicate (n / 2) '\\') ∨ part = bracketed word ∨
                part ∈ parts := by
              simpa [or_assoc] using hpart
            rcases hpart with rfl | hpart | hpart | rfl | hpart
            · exact hguard hnext _ List.mem_cons_self
            · rw [eq_of_mem_filled hpart]
              exact not_infix_of_unguarded hchain.left_of_append
            · rw [eq_of_mem_filled hpart]
              exact not_infix_replicate _
            · exact not_infix_bracketed hword
            · exact hguard hnext _ (List.mem_cons_of_mem _ hpart)

/-! ### From stretches to lines -/

/-- What may be shown: no control characters and no codes of pictures. -/
structure Presentable (pictures : Pictures) (text : Text) : Prop where
  noControl : ∀ c ∈ text, isControl c = false
  pictureFree : PictureFree pictures text

theorem Presentable.of_infix {text part : Text} (hpresentable : Presentable pictures text)
    (hpart : part <:+: text) : Presentable pictures part where
  noControl c hc := hpresentable.noControl c (hpart.subset hc)
  pictureFree := hpresentable.pictureFree.of_infix hpart

theorem styled_parts {parts : List Text} (hpresentable : Presentable pictures parts.flatten)
    (hguard : ∀ part ∈ parts, ¬ ['\\', '['] <:+: part) {openWords : List Text}
    {more : List Stretch} {row : Styled}
    (hmore : styled (display pictures) openWords more = .ok row) :
    ∃ full, styled (display pictures) openWords (parts.map .plain ++ more) = .ok full ∧
      full.map Prod.fst = parts.flatten ++ row.map Prod.fst := by
  induction parts with
  | nil => exact ⟨row, hmore, rfl⟩
  | cons part parts ih =>
      rw [List.flatten_cons] at hpresentable
      obtain ⟨full, hstyled, hfull⟩ := ih
        (hpresentable.of_infix (List.suffix_append part parts.flatten).isInfix)
        fun other hother => hguard other (List.mem_cons_of_mem part hother)
      have hpart := hpresentable.of_infix (List.prefix_append part parts.flatten).isInfix
      have hdisplay : display pictures part = part :=
        display_eq hpart.noControl hpart.pictureFree (hguard part List.mem_cons_self)
      refine ⟨part.map (fun c => (c, styleOf openWords)) ++ full, ?_, ?_⟩
      · rw [List.map_cons, List.cons_append, styled, hstyled, hdisplay]
        rfl
      · rw [List.map_append, hfull, List.map_map, List.flatten_cons, List.append_assoc]
        exact congrArg (· ++ _) (List.map_id' part)

theorem exists_linesOf_append {row : Styled} (hrow : ∀ c ∈ row.map Prod.fst, isControl c = false)
    (rest : Styled) : ∃ line lines, linesOf rest = line :: lines ∧
      linesOf (row ++ rest) = (row ++ line) :: lines := by
  induction row with
  | nil =>
      cases rest with
      | nil => exact ⟨[], [], rfl, rfl⟩
      | cons entry rest =>
          rw [List.nil_append, linesOf]
          split
          · exact ⟨_, _, rfl, rfl⟩
          · split <;> exact ⟨_, _, rfl, rfl⟩
  | cons entry row ih =>
      obtain ⟨c, style⟩ := entry
      have hc : c ≠ '\n' := by
        rintro rfl
        exact absurd (hrow '\n' List.mem_cons_self) (by decide)
      obtain ⟨line, lines, hrest, hlines⟩ := ih fun d hd => hrow d (List.mem_cons_of_mem c hd)
      refine ⟨line, lines, hrest, ?_⟩
      rw [List.cons_append, linesOf, hlines]
      dsimp only
      rw [if_neg hc, List.cons_append]

theorem linesOf_eq {row : Styled} (hrow : ∀ c ∈ row.map Prod.fst, isControl c = false) :
    linesOf row = [row] := by
  obtain ⟨line, lines, hnone, hlines⟩ := exists_linesOf_append hrow []
  cases hnone
  rwa [List.append_nil] at hlines

theorem flatMap_consPiece (style : Option Style) (content : Text) (pieces : Pieces) :
    (consPiece style content pieces).flatMap (writtenPiece false) =
      content ++ pieces.flatMap (writtenPiece false) := by
  have hpiece (style : Option Style) (content : Text) :
      writtenPiece false (style, content) = content := by
    cases style <;> rfl
  unfold consPiece
  split
  · rename_i other more rest
    split
    · rw [List.flatMap_cons, List.flatMap_cons, hpiece, hpiece, List.append_assoc]
    · rw [List.flatMap_cons, hpiece]
  · rw [List.flatMap_singleton, hpiece, List.flatMap_nil, List.append_nil]

theorem exists_flatMap_pieces_append {row : Styled}
    (hrow : ∀ c ∈ row.map Prod.fst, isControl c = false) (rest : Styled) (column : Nat) :
    ∃ next, (pieces column (row ++ rest)).flatMap (writtenPiece false) =
      row.map Prod.fst ++ (pieces next rest).flatMap (writtenPiece false) := by
  induction row generalizing column with
  | nil => exact ⟨column, rfl⟩
  | cons entry row ih =>
      obtain ⟨c, style⟩ := entry
      have hc : c ≠ '\t' := by
        rintro rfl
        exact absurd (hrow '\t' List.mem_cons_self) (by decide)
      obtain ⟨next, hnext⟩ := ih (fun d hd => hrow d (List.mem_cons_of_mem c hd))
        (column + Text.charWidth c)
      refine ⟨next, ?_⟩
      rw [List.cons_append, pieces, if_neg hc, flatMap_consPiece, hnext]
      rfl

theorem flatMap_pieces {row : Styled} (hrow : ∀ c ∈ row.map Prod.fst, isControl c = false)
    (column : Nat) : (pieces column row).flatMap (writtenPiece false) = row.map Prod.fst := by
  obtain ⟨next, hpieces⟩ := exists_flatMap_pieces_append hrow [] column
  rw [List.append_nil] at hpieces
  rw [hpieces, pieces, List.flatMap_nil, List.append_nil]

theorem print_eq {text : Text} {row : Styled}
    (hrow : styled (display pictures) [] (stretches text) = .ok row)
    (hcontrol : ∀ c ∈ row.map Prod.fst, isControl c = false) :
    print pictures false text = .ok (row.map Prod.fst ++ ['\n']) := by
  have hline : writtenLine false row = row.map Prod.fst := flatMap_pieces hcontrol 0
  rw [print, hrow, Except.map, linesOf_eq hcontrol, List.map_singleton, hline]
  rfl

theorem isMarkWord_word (style : Style) : IsMarkWord style.word := by
  cases style <;> exact ⟨_, _, rfl, by decide, eq_false_of_any (by decide)⟩

theorem isMarkWord_end (style : Style) : IsMarkWord ('/' :: style.word) := by
  cases style <;> exact ⟨_, _, rfl, by decide, eq_false_of_any (by decide)⟩

theorem styled_begin (style : Style) (position : Nat) (more : List Stretch) :
    styled (display pictures) [] (.mark style.word position :: more) =
      styled (display pictures) [style.word] more := by
  cases style <;> rfl

theorem styled_end (style : Style) (position : Nat) :
    styled (display pictures) [style.word] [.mark ('/' :: style.word) position] = .ok [] := by
  cases style <;> rfl

/-- Tokens that are shown as a text: all of them are text, and no guard stands among them. -/
structure Shows (tokens : List Token) (text : Text) : Prop where
  isText : ∀ token ∈ tokens, IsText token
  unguarded : tokens.IsChain Unguarded
  shown : tokens.flatMap shown = text

/-- A line with a style has the mark that begins the style in front of its other tokens. -/
theorem tokens_marked (style : Style) (content : Text) :
    tokens (ConsoleReport.marked style content) =
      .mark 0 style.word :: tokens (content ++ bracketed ('/' :: style.word)) := by
  rw [ConsoleReport.marked, List.append_assoc]
  exact tokens_mark 0 (isMarkWord_word style) _

/-- A line with a style shows the tokens between its marks, and half of the backslashes before the
mark at its end. -/
theorem print_marked (style : Style) {content text : Text} {shownTokens : List Token} {n : Nat}
    (htokens : tokens (content ++ bracketed ('/' :: style.word)) =
      shownTokens ++ [.mark n ('/' :: style.word)])
    (heven : n % 2 = 0) (hshows : Shows shownTokens text)
    (hpresentable : Presentable pictures (text ++ List.replicate (n / 2) '\\')) :
    print pictures false (ConsoleReport.marked style content) =
      .ok (text ++ List.replicate (n / 2) '\\' ++ ['\n']) := by
  obtain ⟨parts, last, next, hgather, hflat, hguard⟩ := exists_gather_eq shownTokens hshows.isText
    [] (0 + 0 + style.word.length + 2)
  replace hguard := hguard hshows.unguarded
  have hstretches : stretches (ConsoleReport.marked style content) = .mark style.word 0 ::
      ((parts ++ filled last.reverse ++ filled (List.replicate (n / 2) '\\')).map .plain ++
        [.mark ('/' :: style.word) (next + n)]) := by
    rw [stretches, tokens_marked, htokens, gather, hgather, gather, gather, plain_filled_reverse,
      plain_filled_reverse, markStretches_of_even heven, markStretches_of_even (Nat.zero_mod 2)]
    simp only [Nat.zero_div, List.replicate_zero, List.reverse_nil, filled_nil, List.map_append,
      List.append_assoc, List.map_nil, List.nil_append, List.cons_append, Nat.add_zero]
  have hflatten : (parts ++ filled last.reverse ++
      filled (List.replicate (n / 2) '\\')).flatten =
        text ++ List.replicate (n / 2) '\\' := by
    rw [List.flatten_append, List.flatten_append, flatten_filled, flatten_filled, hflat,
      hshows.shown]
    rfl
  have hguards : ∀ part ∈ parts ++ filled last.reverse ++
      filled (List.replicate (n / 2) '\\'), ¬ ['\\', '['] <:+: part := by
    intro part hpart
    rcases List.mem_append.mp hpart with hpart | hpart
    · rcases List.mem_append.mp hpart with hpart | hpart
      · exact hguard part (List.mem_cons_of_mem _ hpart)
      · rw [eq_of_mem_filled hpart]
        exact hguard _ List.mem_cons_self
    · rw [eq_of_mem_filled hpart]
      exact not_infix_replicate _
  obtain ⟨row, hstyled, hrow⟩ := styled_parts (hflatten ▸ hpresentable) hguards
    (styled_end style (next + n))
  rw [hflatten, List.map_nil, List.append_nil] at hrow
  rw [← hrow] at hpresentable ⊢
  refine print_eq ?_ hpresentable.noControl
  rw [hstretches, styled_begin, hstyled]

/-- A line without style shows its tokens. -/
theorem print_unmarked {content text : Text} (hshows : Shows (tokens content) text)
    (hpresentable : Presentable pictures text) :
    print pictures false content = .ok (text ++ ['\n']) := by
  obtain ⟨parts, last, next, hgather, hflat, hguard⟩ := exists_gather_eq (tokens content)
    hshows.isText [] 0
  replace hguard := hguard hshows.unguarded
  have hstretches : stretches content = (parts ++ filled last.reverse).map .plain ++ [] := by
    have hend := hgather []
    rw [List.append_nil, gather, plain_filled_reverse] at hend
    rw [stretches, hend, List.map_append, List.append_nil]
  have hflatten : (parts ++ filled last.reverse).flatten = text := by
    rw [List.flatten_append, flatten_filled, hflat, hshows.shown]
    rfl
  have hguards : ∀ part ∈ parts ++ filled last.reverse, ¬ ['\\', '['] <:+: part := by
    intro part hpart
    rcases List.mem_append.mp hpart with hpart | hpart
    · exact hguard part (List.mem_cons_of_mem _ hpart)
    · rw [eq_of_mem_filled hpart]
      exact hguard _ List.mem_cons_self
  have hnothing : styled (display pictures) [] [] = .ok [] := rfl
  obtain ⟨row, hstyled, hrow⟩ := styled_parts (hflatten ▸ hpresentable) hguards hnothing
  rw [hflatten, List.map_nil, List.append_nil] at hrow
  rw [← hrow] at hpresentable ⊢
  refine print_eq ?_ hpresentable.noControl
  rw [hstretches, hstyled]

end Console

end XmlCheck
