import XmlCheck.Proofs.ConsoleVerbatim

/-!
# Where printing faults

Printing stops at one thing only: a mark that ends a style which was not begun. A line of a block
never has one, whatever text stands in it, since the marks of the text have become text and the
line's own marks belong together. The line that names a file and its schema has one exactly if the
name of the file begins a mark that ends a style and the path of the schema has the bracket at its
end (`print_opening_ok_iff`): each of the two is turned into text alone, and neither has a mark.
-/

namespace XmlCheck

namespace Console

variable {pictures : Pictures}

/-! ### Tokens that are text -/

theorem isMarkWord_of_mem_tokens {text word : Text} {n : Nat}
    (hmem : Token.mark n word ∈ tokens text) : IsMarkWord word := by
  induction text using readingInduction with
  | nil =>
      rw [tokens_nil] at hmem
      cases hmem
  | mark m other rest hother ih =>
      rw [tokens_mark m hother] at hmem
      rcases List.mem_cons.mp hmem with heq | hmem
      · cases heq
        exact hother
      · exact ih hmem
  | char c rest hc hmark ih =>
      rw [tokens_char hc hmark] at hmem
      rcases List.mem_cons.mp hmem with heq | hmem
      · cases heq
      · exact ih hmem
  | backslashes m rest hhead hmark ih =>
      rw [tokens_backslashes (m + 1) hhead hmark] at hmem
      rcases List.mem_append.mp hmem with hmem | hmem
      · cases List.eq_of_mem_replicate hmem
      · exact ih hmem

theorem isText_char (c : Char) : IsText (.char c) :=
  fun _ _ heq => nomatch heq

def AllText (tokens : List Token) : Prop :=
  ∀ token ∈ tokens, IsText token

theorem allText_nil : AllText [] :=
  fun _ htoken => nomatch htoken

theorem AllText.append {first second : List Token} (hfirst : AllText first)
    (hsecond : AllText second) : AllText (first ++ second) :=
  fun token htoken => (List.mem_append.mp htoken).elim (hfirst token) (hsecond token)

theorem allText_chars (text : Text) : AllText (text.map .char) := by
  intro token htoken
  obtain ⟨c, _, rfl⟩ := List.mem_map.mp htoken
  exact isText_char c

theorem allText_backslashes (n : Nat) : AllText (List.replicate n (.char '\\')) := by
  intro token htoken
  rw [List.eq_of_mem_replicate htoken]
  exact isText_char '\\'

/-- What `escape` makes of the marks of a text. -/
theorem allText_escaped (text : Text) :
    AllText ((tokens text).map (Token.recounted guarded)) := by
  intro token htoken
  obtain ⟨original, horiginal, rfl⟩ := List.mem_map.mp htoken
  cases original with
  | char c => exact isText_char c
  | mark n word =>
      rintro m other heq
      cases heq
      refine ⟨?_, isMarkWord_of_mem_tokens horiginal⟩
      unfold guarded
      omega

/-! ### Styles of stretches -/

/-- The characters of stretches of text, all with the style of the open marks. -/
def plainRow (pictures : Pictures) (openWords : List Text) (parts : List Text) : Styled :=
  parts.flatMap fun part => (display pictures part).map fun c => (c, styleOf openWords)

theorem styled_plain_append (openWords : List Text) (parts : List Text) (more : List Stretch) :
    styled (display pictures) openWords (parts.map .plain ++ more) =
      (styled (display pictures) openWords more).map (plainRow pictures openWords parts ++ ·) := by
  induction parts with
  | nil =>
      cases hmore : styled (display pictures) openWords more <;>
        simp [hmore, plainRow, Except.map]
  | cons part parts ih =>
      rw [List.map_cons, List.cons_append, styled, ih]
      cases styled (display pictures) openWords more <;> simp [plainRow, Except.map]

/-- Tokens that are text only put characters in front of what the rest of a line shows. -/
theorem styled_gather_append {tokens : List Token} (htext : AllText tokens)
    (openWords : List Text) (content : Text) (position : Nat) :
    ∃ (row : Styled) (last : Text) (next : Nat), ∀ more,
      styled (display pictures) openWords (gather content position (tokens ++ more)) =
        (styled (display pictures) openWords (gather last next more)).map (row ++ ·) := by
  obtain ⟨parts, last, next, hgather, -, -⟩ := exists_gather_eq tokens htext content position
  refine ⟨plainRow pictures openWords parts, last, next, fun more => ?_⟩
  rw [hgather, styled_plain_append]

theorem styled_gather_mark {n : Nat} (heven : n % 2 = 0) (word : Text) (openWords : List Text)
    (content : Text) (position : Nat) (more : List Token) :
    ∃ (row : Styled) (next : Nat),
      styled (display pictures) openWords (gather content position (.mark n word :: more)) =
        (styled (display pictures) openWords (.mark word (position + n) :: gather [] next more)).map
          (row ++ ·) := by
  refine ⟨plainRow pictures openWords
      (filled content.reverse ++ filled (List.replicate (n / 2) '\\')),
    position + n + word.length + 2, ?_⟩
  rw [gather, plain_filled_reverse, markStretches_of_even heven, ← styled_plain_append]
  simp only [List.map_append, List.append_assoc, List.singleton_append]

theorem styled_gather_ok {tokens : List Token} (htext : AllText tokens) (openWords : List Text)
    (content : Text) (position : Nat) :
    ∃ row, styled (display pictures) openWords (gather content position tokens) = .ok row := by
  obtain ⟨row, last, next, hgather⟩ := styled_gather_append htext openWords content position
  have hnone := hgather []
  rw [List.append_nil, gather, plain_filled_reverse, ← List.append_nil ((filled _).map _),
    styled_plain_append] at hnone
  exact ⟨_, hnone⟩

/-- Nothing can end where no style was begun. -/
theorem styled_end_fault (ended : Text) (position : Nat) (more : List Stretch) :
    ∃ fault,
      styled (display pictures) [] (.mark ('/' :: ended) position :: more) = .error fault := by
  have hname : markName ('/' :: ended) = '/' :: markName ended := rfl
  cases hended : Text.trim (markName ended) with
  | nil => exact ⟨⟨['/'], position⟩, by simp [styled, hname, hended]⟩
  | cons c name =>
      refine ⟨⟨'/' :: ended, position⟩, ?_⟩
      simp [styled, hname, hended, close?]

theorem styled_begin_word {word : Text} (hword : word.head? ≠ some '/') (position : Nat)
    (openWords : List Text) (more : List Stretch) :
    styled (display pictures) openWords (.mark word position :: more) =
      styled (display pictures) (settledWord word :: openWords) more := by
  have hname (ended : Text) : markName word ≠ '/' :: ended := by
    intro hname
    obtain ⟨parameters, hsplit⟩ := List.takeWhile_prefix (· != '=') (l := word)
    rw [show word.takeWhile (· != '=') = '/' :: ended from hname] at hsplit
    exact hword (hsplit ▸ rfl)
  rw [styled]
  split
  · rename_i ended hended
    exact absurd hended (hname ended)
  · rfl

/-! ### Lines -/

def Printed (pictures : Pictures) (text : Text) : Prop :=
  ∃ row, styled (display pictures) [] (stretches text) = .ok row

theorem printed_iff (inColour : Bool) (text : Text) :
    Printed pictures text ↔ ∃ output, print pictures inColour text = .ok output := by
  unfold Printed print
  cases styled (display pictures) [] (stretches text) <;> simp [Except.map]

theorem printed_of_allText {text : Text} (htext : AllText (tokens text)) : Printed pictures text :=
  styled_gather_ok htext [] [] 0

/-- A mark between tokens that are text is at fault exactly if it ends a style. -/
theorem printed_iff_of_mark {text word : Text} {before after : List Token} {n : Nat}
    (htokens : tokens text = before ++ .mark n word :: after) (hbefore : AllText before)
    (hafter : AllText after) (heven : n % 2 = 0) :
    Printed pictures text ↔ word.head? ≠ some '/' := by
  obtain ⟨row, last, next, hgather⟩ := styled_gather_append hbefore [] [] 0
  obtain ⟨markRow, position, hmark⟩ := styled_gather_mark heven word [] last next after
  have hstyled := hgather (.mark n word :: after)
  rw [← htokens, hmark] at hstyled
  unfold Printed stretches
  rw [hstyled]
  by_cases hends : word.head? = some '/'
  · obtain ⟨ended, rfl⟩ : ∃ ended, word = '/' :: ended := List.head?_eq_some_iff.mp hends
    obtain ⟨fault, hfault⟩ := styled_end_fault ended (next + n) (gather [] position after)
    rw [hfault]
    simp [Except.map]
  · obtain ⟨more, hmore⟩ := styled_gather_ok hafter [settledWord word] [] position
    rw [styled_begin_word hends, hmore]
    simpa [Except.map] using hends

theorem styled_marked (style : Style) (content : Text) :
    styled (display pictures) [] (stretches (ConsoleReport.marked style content)) =
      styled (display pictures) [style.word] (gather [] (style.word.length + 2)
        (tokens (content ++ bracketed ('/' :: style.word)))) := by
  rw [stretches, tokens_marked, gather, markStretches_of_even (Nat.zero_mod 2),
    ← styled_begin style (0 + 0), Nat.zero_add, Nat.zero_add]
  rfl

/-- A style ends where the line does, if the mark at the end is not taken for text; neither way is
at fault. -/
theorem styled_gather_end (style : Style) {tokens : List Token} (htext : AllText tokens)
    (content : Text) (position n : Nat) :
    ∃ row, styled (display pictures) [style.word]
      (gather content position (tokens ++ [.mark n ('/' :: style.word)])) = .ok row := by
  rcases Nat.mod_two_eq_zero_or_one n with heven | hodd
  · obtain ⟨row, last, next, hgather⟩ :=
      styled_gather_append htext [style.word] content position
    obtain ⟨markRow, place, hmark⟩ :=
      styled_gather_mark heven ('/' :: style.word) [style.word] last next []
    have hend : styled (display pictures) [style.word]
        (.mark ('/' :: style.word) (next + n) :: gather [] place []) = .ok [] :=
      styled_end style (next + n)
    rw [hgather, hmark, hend]
    exact ⟨_, rfl⟩
  · refine styled_gather_ok (htext.append fun token htoken => ?_) _ _ _
    rw [List.mem_singleton.mp htoken]
    rintro m word heq
    cases heq
    exact ⟨hodd, isMarkWord_end style⟩

/-- The line of a block is printed, whatever the text. -/
theorem printed_marked_escape (style : Style) {margin : Text} (hmargin : Margin margin)
    (text : Text) : Printed pictures (ConsoleReport.marked style (margin ++ escape text)) := by
  obtain ⟨front, hsplit, hfront⟩ := exists_eq_append_backslashes text
  generalize backslashesAtEnd text = n at hsplit
  subst hsplit
  unfold Printed
  rw [styled_marked, tokens_margin_escape style hmargin hfront]
  exact styled_gather_end style ((allText_chars margin).append (allText_escaped front)) _ _ _

/-! ### The name of a file and the path of its schema -/

/-- A name opens a mark: after some backslashes it has an opening bracket, a character that may
start a mark and no bracket behind that. -/
structure MarkOpened (name front : Text) (n : Nat) (c : Char) (inside : Text) : Prop where
  name_eq : name = front ++ (List.replicate n '\\' ++ '[' :: c :: inside)
  front_end : front.getLast? ≠ some '\\'
  starts : startsMark c = true
  noBracket : ∀ d ∈ inside, isBracket d = false

theorem OpensMark.exists_markOpened {name : Text} (hopens : OpensMark name) :
    ∃ front n c inside, MarkOpened name front n c inside := by
  obtain ⟨before, c, inside, rfl, hstarts, hinside⟩ := hopens
  obtain ⟨front, hsplit, hfront⟩ := exists_eq_append_backslashes before
  refine ⟨front, backslashesAtEnd before, c, inside, ?_, hfront, hstarts, hinside⟩
  rw [← List.append_assoc, ← hsplit]

/-- The name of a file opens a mark that ends a style, with an even number of backslashes before it,
and the first bracket in the path of its schema ends the mark. -/
structure EndsStyleAcross (file path : Text) : Prop where
  begins : ∃ front n inside, MarkOpened file front n '/' inside ∧ n % 2 = 0
  ends : firstBracket? path = some ']'

/-- A mark that a text opens stays open when the text is escaped, with its backslashes kept. -/
theorem escape_of_opens {front inside : Text} (hfront : front.getLast? ≠ some '\\') (n : Nat)
    {c : Char} (hstarts : startsMark c = true) (hinside : ∀ d ∈ inside, isBracket d = false) :
    escape (front ++ (List.replicate n '\\' ++ '[' :: c :: inside)) =
      rewritten guarded front ++ (List.replicate n '\\' ++ '[' :: c :: closedOff inside) := by
  have hbracketless : '[' ∉ c :: inside := by
    intro hmem
    rcases List.mem_cons.mp hmem with rfl | hmem
    · exact absurd hstarts (by decide)
    · exact absurd (hinside '[' hmem) (by decide)
  have hmark : markAt? ('[' :: c :: inside) = none := by
    refine (markAt?_eq_none_iff c inside).mpr fun _ hfirst => ?_
    obtain ⟨_, _, rfl, _, _⟩ := dropWhile_eq_of_firstBracket? hfirst
    exact absurd (hinside ']' (by simp)) (by decide)
  have hapart : Apart front (List.replicate n '\\' ++ '[' :: c :: inside) :=
    apart_backslashes hfront n (fun d hd => by cases hd; decide)
      fun _ hfirst => absurd (Option.some.inj hfirst) (by decide)
  have hc : c ≠ '\\' := by
    rintro rfl
    exact absurd hstarts (by decide)
  rw [escape_eq, rewritten_append guarded hapart,
    rewritten_backslashes guarded n (by simp) hmark,
    rewritten_char guarded (by decide) hmark, rewritten_of_not_mem guarded hbracketless]
  have hclosed := closedOff_append_cons hc
    (rewritten guarded front ++ (List.replicate n '\\' ++ ['['])) inside
  simpa using hclosed

theorem escape_of_closes {front : Text} (hfront : ∀ d ∈ front, isBracket d = false) (rest : Text) :
    escape (front ++ ']' :: rest) = front ++ ']' :: escape rest := by
  have hbracketless : '[' ∉ front := fun hmem => absurd (hfront '[' hmem) (by decide)
  have hmark : markAt? (']' :: rest) = none := markAt?_of_ne (by decide) rest
  have hapart : Apart front (']' :: rest) := by
    refine apart_of_opens (fun c hc => by cases hc; decide) ?_ fun _ => ⟨by simp, hmark⟩
    rintro ⟨before, c, inside, rfl, -, -⟩
    exact absurd (by simp) hbracketless
  rw [escape_eq, rewritten_append guarded hapart, rewritten_of_not_mem guarded hbracketless,
    rewritten_char guarded (by decide) hmark, closedOff_append_cons (by decide), escape_eq]

theorem allText_escape_append (text : Text) {c : Char} {rest : Text} (hbackslash : c ≠ '\\')
    (hstarts : startsMark c = false) (hbracket : c ≠ '[')
    (hfirst : OpensMark text → firstBracket? (c :: rest) ≠ some ']')
    (hrest : AllText (tokens (c :: rest))) : AllText (tokens (escape text ++ c :: rest)) := by
  obtain ⟨front, hsplit, hfront⟩ := exists_eq_append_backslashes text
  generalize backslashesAtEnd text = n at hsplit
  subst hsplit
  rw [tokens_escape_append hfront n hbackslash hstarts hbracket
    fun hopens => hfirst (hopens.append_backslashes n)]
  exact (allText_escaped front).append ((allText_backslashes _).append hrest)

def openingLine (file path : Text) : Text :=
  (" Validating " : Text) ++ escape file ++ " against " ++ escape path ++ "..."

theorem tokens_openingLine (file path : Text) :
    tokens (openingLine file path) = (" Validating " : Text).map .char ++
      tokens (escape file ++ ((" against " : Text) ++ (escape path ++ "..."))) := by
  have hverb : Margin " Validating " := by decide
  have hline : openingLine file path = (" Validating " : Text) ++
      (escape file ++ ((" against " : Text) ++ (escape path ++ "..."))) := by
    unfold openingLine
    rw [List.append_assoc, List.append_assoc, List.append_assoc]
  rw [hline, hverb.tokens_append]

theorem allText_dots_append (path : Text) : AllText (tokens (escape path ++ ("..." : Text))) := by
  have hdots : AllText (tokens ("..." : Text)) := by
    rw [tokens_of_not_mem (by decide)]
    exact allText_chars "..."
  exact allText_escape_append path (by decide) (by decide) (by decide) (fun _ => by decide) hdots

theorem printed_opening_of_apart {file path : Text}
    (hseam : OpensMark file → firstBracket? path ≠ some ']') :
    Printed pictures (openingLine file path) := by
  have hagainst : Margin " against " := by decide
  have hafter : AllText (tokens ((" against " : Text) ++ (escape path ++ "..."))) := by
    rw [hagainst.tokens_append]
    exact (allText_chars _).append (allText_dots_append path)
  have hfirst : OpensMark file →
      firstBracket? ((" against " : Text) ++ (escape path ++ "...")) ≠ some ']' := by
    rw [firstBracket?_against_escape]
    exact hseam
  have hfile : AllText (tokens (escape file ++ ((" against " : Text) ++ (escape path ++ "...")))) :=
    allText_escape_append file (by decide) (by decide) (by decide) hfirst hafter
  refine printed_of_allText ?_
  rw [tokens_openingLine]
  exact (allText_chars _).append hfile

theorem mem_closedOff {c : Char} {text : Text} (hc : c ∈ closedOff text) : c ∈ text ∨ c = '\\' := by
  unfold closedOff at hc
  split at hc
  · exact .inl hc
  · exact (List.mem_append.mp hc).imp_right List.mem_singleton.mp
  · exact .inl hc

/-- A mark that begins in the name of the file and ends in the path of the schema. -/
def markAcross (c : Char) (inside path : Text) : Text :=
  c :: (closedOff inside ++ ((" against " : Text) ++ path))

theorem isMarkWord_across {c : Char} {inside path : Text} (hstarts : startsMark c = true)
    (hinside : ∀ d ∈ inside, isBracket d = false) (hpath : ∀ d ∈ path, isBracket d = false) :
    IsMarkWord (markAcross c inside path) := by
  have hagainst : ∀ d ∈ (" against " : Text), isBracket d = false := by simp [isBracket]
  refine ⟨c, _, rfl, hstarts, fun d hd => ?_⟩
  rcases List.mem_append.mp hd with hd | hd
  · rcases mem_closedOff hd with hd | rfl
    · exact hinside d hd
    · decide
  · exact (List.mem_append.mp hd).elim (hagainst d) (hpath d)

theorem tokens_openingLine_across {file front inside path : Text} (rest : Text) {n : Nat} {c : Char}
    (hopened : MarkOpened file front n c inside) (hpath : ∀ d ∈ path, isBracket d = false) :
    tokens (openingLine file (path ++ ']' :: rest)) =
      (" Validating " : Text).map .char ++ (tokens front).map (Token.recounted guarded) ++
        .mark n (markAcross c inside path) :: tokens (escape rest ++ ("..." : Text)) := by
  obtain ⟨rfl, hfront, hstarts, hinside⟩ := hopened
  have hword := isMarkWord_across hstarts hinside hpath
  have hapart : Apart front (List.replicate n '\\' ++
      (bracketed (markAcross c inside path) ++ (escape rest ++ ("..." : Text)))) :=
    apart_backslashes hfront n (fun d hd => by cases hd; decide)
      fun _ hfirst => absurd (Option.some.inj hfirst) (by decide)
  have hline : rewritten guarded front ++ (List.replicate n '\\' ++ '[' :: c :: closedOff inside) ++
      ((" against " : Text) ++ (path ++ ']' :: escape rest ++ ("..." : Text))) =
        rewritten guarded front ++ (List.replicate n '\\' ++
          (bracketed (markAcross c inside path) ++ (escape rest ++ ("..." : Text)))) := by
    unfold bracketed markAcross
    simp only [List.append_assoc, List.cons_append, List.nil_append]
  rw [tokens_openingLine, escape_of_opens hfront n hstarts hinside, escape_of_closes hpath, hline,
    tokens_rewritten_append guarded hapart, tokens_mark n hword, List.append_assoc]

/-- The line that names a file and its schema is printed unless a mark that ends a style begins in
the one and ends in the other. -/
theorem printed_openingLine_iff (file path : Text) :
    Printed pictures (openingLine file path) ↔ ¬ EndsStyleAcross file path := by
  constructor
  · rintro hprinted ⟨⟨front, n, inside, hopened, heven⟩, hends⟩
    obtain ⟨start, rest, rfl, hstart, -⟩ := dropWhile_eq_of_firstBracket? hends
    have htokens := tokens_openingLine_across rest hopened hstart
    exact (printed_iff_of_mark htokens ((allText_chars _).append (allText_escaped front))
      (allText_dots_append rest) heven).mp hprinted rfl
  · intro hnot
    by_cases hseam : OpensMark file → firstBracket? path ≠ some ']'
    · exact printed_opening_of_apart hseam
    · obtain ⟨hopens, hends⟩ := Classical.not_imp.mp hseam
      rw [ne_eq, not_not] at hends
      obtain ⟨front, n, c, inside, hopened⟩ := hopens.exists_markOpened
      obtain ⟨start, rest, rfl, hstart, -⟩ := dropWhile_eq_of_firstBracket? hends
      have htokens := tokens_openingLine_across rest hopened hstart
      have hbefore := (allText_chars " Validating ").append (allText_escaped front)
      rcases Nat.mod_two_eq_zero_or_one n with heven | hodd
      · refine (printed_iff_of_mark htokens hbefore (allText_dots_append rest) heven).mpr ?_
        intro hslash
        obtain rfl : c = '/' := Option.some.inj hslash
        exact hnot ⟨⟨front, n, inside, hopened, heven⟩, hends⟩
      · -- an odd number of backslashes makes a text of the mark
        refine printed_of_allText ?_
        rw [htokens, List.append_cons]
        refine (hbefore.append fun token htoken => ?_).append (allText_dots_append rest)
        rw [List.mem_singleton.mp htoken]
        rintro m word heq
        cases heq
        exact ⟨hodd, isMarkWord_across hopened.starts hopened.noBracket hstart⟩

/-! ### Labels -/

theorem withoutGuards_append {chars : Text} (hchars : '\\' ∉ chars) (text : Text) :
    withoutGuards (chars ++ text) = chars ++ withoutGuards text := by
  induction chars with
  | nil => rfl
  | cons c chars ih =>
      have hc : '\\' ≠ c := List.ne_of_not_mem_cons hchars
      rw [List.cons_append, withoutGuards, ih (List.not_mem_of_not_mem_cons hchars)]
      · rfl
      · rintro rest rfl _
        exact hc rfl

theorem withPictures_append {chars : Text} (hchars : ':' ∉ chars) (text : Text) :
    withPictures pictures none (chars ++ text) = chars ++ withPictures pictures none text := by
  induction chars with
  | nil => rfl
  | cons c chars ih =>
      have hc : ':' ≠ c := List.ne_of_not_mem_cons hchars
      rw [List.cons_append, withPictures, if_neg (Ne.symm hc),
        ih (List.not_mem_of_not_mem_cons hchars)]
      rfl

theorem Margin.display_append {margin : Text} (hmargin : Margin margin) (text : Text) :
    display pictures (margin ++ text) = margin ++ display pictures text := by
  have hkept : margin.filter (fun c => !isDropped c) = margin :=
    List.filter_eq_self.mpr fun c hc => by rw [not_isDropped (hmargin.noControl c hc)]; rfl
  rw [display, withoutGuards_append hmargin.noBackslash, withPictures_append hmargin.noColon,
    List.filter_append, hkept]
  rfl

theorem gather_chars (chars content : Text) (position : Nat) (tokens : List Token) :
    gather content position (chars.map .char ++ tokens) =
      gather (chars.reverse ++ content) (position + chars.length) tokens := by
  induction chars generalizing content position with
  | nil => rfl
  | cons c chars ih =>
      rw [List.map_cons, List.cons_append, gather, ih, List.reverse_cons, List.append_assoc,
        List.length_cons, Nat.add_right_comm, Nat.add_assoc]
      rfl

theorem exists_gather_begins (tokens : List Token) {content : Text} (hcontent : content ≠ [])
    (position : Nat) :
    ∃ more rest, gather content position tokens = .plain (content.reverse ++ more) :: rest := by
  have hfilled : content.isEmpty = false := by
    cases content with
    | nil => exact absurd rfl hcontent
    | cons c content => rfl
  induction tokens generalizing content position with
  | nil => exact ⟨[], [], by rw [gather, hfilled, List.append_nil]; rfl⟩
  | cons token tokens ih =>
      cases token with
      | char c =>
          obtain ⟨more, rest, hgather⟩ := ih (List.cons_ne_nil c content) (position + 1) rfl
          refine ⟨c :: more, rest, ?_⟩
          rw [gather, hgather, List.reverse_cons, List.append_assoc]
          rfl
      | mark n word =>
          refine ⟨[], markStretches n word position ++
            gather [] (position + n + word.length + 2) tokens, ?_⟩
          rw [gather, hfilled, List.append_nil]
          rfl

/-- Characters at the head of a row are the first ones written. -/
theorem print_of_styled_append {text : Text} {row rest : Styled}
    (hrow : ∀ c ∈ row.map Prod.fst, isControl c = false)
    (hstyled : styled (display pictures) [] (stretches text) = .ok (row ++ rest)) :
    ∃ more, print pictures false text = .ok (row.map Prod.fst ++ more) := by
  obtain ⟨line, lines, -, hlines⟩ := exists_linesOf_append hrow rest
  obtain ⟨next, hpieces⟩ := exists_flatMap_pieces_append hrow line 0
  have hwritten : writtenLine false (row ++ line) =
      row.map Prod.fst ++ (pieces next line).flatMap (writtenPiece false) := hpieces
  have hjoin (first : Text) (more : List Text) :
      Text.join ['\n'] ((row.map Prod.fst ++ first) :: more) =
        row.map Prod.fst ++ Text.join ['\n'] (first :: more) := by
    cases more with
    | nil => rfl
    | cons second more => simp only [Text.join, List.append_assoc]
  rw [print, hstyled, Except.map, hlines, List.map_cons, hwritten, hjoin, List.append_assoc]
  exact ⟨_, rfl⟩

/-- The line of a block begins with its margin as it is. -/
theorem print_margin_escape (style : Style) {margin : Text} (hmargin : Margin margin)
    (hne : margin ≠ []) (text : Text) :
    ∃ more, print pictures false (ConsoleReport.marked style (margin ++ escape text)) =
      .ok (margin ++ more) := by
  obtain ⟨row, hrow⟩ := printed_marked_escape style hmargin text
  -- the margin is gathered into the first stretch, which has the style of the mark before it
  have hstyled := hrow
  obtain ⟨front, hsplit, hfront⟩ := exists_eq_append_backslashes text
  obtain ⟨inner, rest, hgather⟩ := exists_gather_begins
    ((tokens front).map (Token.recounted guarded) ++
      [.mark (if backslashesAtEnd text = 1 then 2 else backslashesAtEnd text)
        ('/' :: style.word)])
    (List.append_ne_nil_of_left_ne_nil (List.reverse_ne_nil_iff.mpr hne) [])
    (style.word.length + 2 + margin.length)
  rw [hsplit, styled_marked, tokens_margin_escape style hmargin hfront, List.append_assoc,
    gather_chars, hgather, List.append_nil, List.reverse_reverse, styled,
    hmargin.display_append] at hstyled
  cases hrest : styled (display pictures) [style.word] rest with
  | error fault =>
      rw [hrest] at hstyled
      cases hstyled
  | ok tail =>
      rw [hrest, Except.map, List.map_append, List.append_assoc] at hstyled
      rw [← Except.ok.inj hstyled] at hrow
      have hfirst : (margin.map fun c => (c, styleOf [style.word])).map Prod.fst = margin := by
        rw [List.map_map]
        exact List.map_id' margin
      have hprint := print_of_styled_append (by rw [hfirst]; exact hmargin.noControl) hrow
      rwa [hfirst] at hprint

end Console

namespace ConsoleReport

variable {pictures : Pictures}

open Console

/-! ### Reports -/

theorem printAll_append (inColour : Bool) (lines others : List Text) :
    printAll pictures inColour (lines ++ others) =
      (printAll pictures inColour lines).andThen (printAll pictures inColour others) := by
  induction lines with
  | nil => rfl
  | cons line lines ih =>
      rw [List.cons_append, printAll, printAll]
      cases print pictures inColour line with
      | error fault => rfl
      | ok text =>
          dsimp only
          rw [ih, Written.andThen_assoc]

theorem fault_printAll_iff (inColour : Bool) (lines : List Text) :
    (printAll pictures inColour lines).fault = none ↔ ∀ line ∈ lines, Printed pictures line := by
  induction lines with
  | nil => simp [printAll]
  | cons line lines ih =>
      rw [printAll, List.forall_mem_cons, ← ih, printed_iff inColour]
      cases print pictures inColour line <;> simp [Written.andThen]

theorem printed_nil : Printed pictures [] :=
  printed_of_allText (by rw [tokens_nil]; exact allText_nil)

theorem printed_head : ∀ line ∈ head, Printed pictures line := by
  have hunderline : Margin (List.replicate title.length '=') := by decide
  intro line hline
  simp only [head, List.mem_cons, List.not_mem_nil, or_false] at hline
  rcases hline with rfl | rfl | rfl
  · exact printed_marked_escape .title (margin_indent 0) title
  · rw [← hunderline.escape_eq]
    exact printed_marked_escape .good (margin_indent 0) _
  · exact printed_nil

theorem printed_block {label : Text} (hlabel : Margin (blockLabel label)) (style : Style)
    (first : Text) (more : List Text) :
    ∀ line ∈ block label style first more, Printed pictures line := by
  intro line hline
  rcases List.mem_append.mp hline with hline | hline
  · rcases List.mem_cons.mp hline with rfl | hline
    · rw [hlabel.escape_eq]
      exact printed_marked_escape style hlabel first
    · obtain ⟨text, _, rfl⟩ := List.mem_map.mp hline
      exact printed_marked_escape style (margin_indent _) text
  · rw [List.mem_singleton.mp hline]
    exact printed_nil

theorem printAll_cons {line head shown : Text} {lines : List Text}
    (hline : print pictures false line = .ok (head ++ shown))
    (hlines : ∀ other ∈ lines, Printed pictures other) :
    ∃ more, printAll pictures false (line :: lines) = { text := head ++ more } := by
  have hfault := (fault_printAll_iff false lines).mpr hlines
  refine ⟨shown ++ (printAll pictures false lines).text, ?_⟩
  rw [printAll, hline]
  simp only [Written.andThen, hfault, List.append_assoc]

/-- A block is printed whole, with its label in front. -/
theorem printAll_block {label : Text} (hlabel : Margin (blockLabel label)) (style : Style)
    (first : Text) (more : List Text) :
    ∃ rest, printAll pictures false (block label style first more) =
      { text := blockLabel label ++ rest } := by
  have hne : blockLabel label ≠ [] := List.cons_ne_nil _ _
  obtain ⟨shown, hfirst⟩ : ∃ shown, print pictures false
      (marked style (blockLabel label ++ escape first)) = .ok (blockLabel label ++ shown) :=
    print_margin_escape style hlabel hne first
  have hprinted : ∀ line ∈ block label style first more, Printed pictures line :=
    printed_block hlabel style first more
  unfold block at hprinted ⊢
  dsimp only at hprinted ⊢
  rw [hlabel.escape_eq, List.cons_append] at hprinted ⊢
  exact printAll_cons hfirst fun other hother => hprinted other (List.mem_cons_of_mem _ hother)

/-- The name of the file and the path of its schema end a style where they are put together. -/
structure NamesEndStyle (outcome : Outcome) (reference : SchemaReference) : Prop where
  schema : outcome.schema = some reference
  displayPath_ne : reference.displayPath ≠ []
  across : EndsStyleAcross outcome.file reference.displayPath

/-- Where the names end a style, nothing is written of the line that has them. -/
theorem NamesEndStyle.printAll_opening {outcome : Outcome} {reference : SchemaReference}
    (hnames : NamesEndStyle outcome reference) (inColour : Bool) :
    ∃ fault, printAll pictures inColour (opening outcome) = { fault := some fault } := by
  obtain ⟨hschema, hpath, hacross⟩ := hnames
  have hempty : reference.displayPath.isEmpty = false :=
    eq_false_of_ne_true fun h => hpath (List.isEmpty_iff.mp h)
  have hopening : opening outcome = [openingLine outcome.file reference.displayPath, []] := by
    simp only [opening, hschema, hempty]
    rfl
  have hnot : ¬ Printed pictures (openingLine outcome.file reference.displayPath) :=
    fun hprinted => (printed_openingLine_iff _ _).mp hprinted hacross
  rw [hopening, printAll]
  rw [printed_iff inColour] at hnot
  cases hprint : print pictures inColour (openingLine outcome.file reference.displayPath) with
  | ok text => exact absurd ⟨text, hprint⟩ hnot
  | error fault => exact ⟨fault, rfl⟩

theorem fault_printAll_opening (inColour : Bool) {outcome : Outcome}
    (hnames : ∀ reference, ¬ NamesEndStyle outcome reference) :
    (printAll pictures inColour (opening outcome)).fault = none := by
  rw [fault_printAll_iff]
  unfold opening
  split
  · rename_i reference hschema
    split
    · exact fun line hline => nomatch hline
    · rename_i hpath
      have hline : Printed pictures (openingLine outcome.file reference.displayPath) :=
        (printed_openingLine_iff _ _).mpr fun hacross => hnames reference
          ⟨hschema, fun h => hpath (List.isEmpty_iff.mpr h), hacross⟩
      exact List.forall_mem_cons.mpr ⟨hline, List.forall_mem_singleton.mpr printed_nil⟩
  · exact fun line hline => nomatch hline

end ConsoleReport

end XmlCheck
