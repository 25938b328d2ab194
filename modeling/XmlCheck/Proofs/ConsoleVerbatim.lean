import Mathlib.Data.List.Forall2
import XmlCheck.Proofs.PrintedText
import XmlCheck.Proofs.TextReplacement

/-!
# What the console shows

A text that is put into a line with marks is shown as it is under three conditions. It has no code
of a picture, since codes are replaced. A backslash stands before an opening bracket only where the
bracket begins a mark, since another one is taken for a guard and dropped. And the backslashes at
its end are as many as what follows leaves: at most one before the mark that ends the style of a
line, and not a single one where text follows. The line that names a file and its schema has one
more: no mark begins in the name of the file and ends in the path of the schema.
-/

namespace XmlCheck

namespace Console

variable {pictures : Pictures}

/-! ### Tokens that show a text -/

namespace Shows

theorem nil : Shows [] [] where
  isText token htoken := by cases htoken
  unguarded := .nil
  shown := rfl

theorem char_cons {c : Char} {tokens : List Token} {text : Text} (hshows : Shows tokens text)
    (hguard : c = '\\' → tokens.head? ≠ some (.char '[')) :
    Shows (.char c :: tokens) (c :: text) where
  isText token htoken := by
    rcases List.mem_cons.mp htoken with rfl | htoken
    · intro n word heq
      cases heq
    · exact hshows.isText token htoken
  unguarded := by
    refine List.isChain_cons.mpr ⟨fun token htoken => ?_, hshows.unguarded⟩
    rintro ⟨hc, rfl⟩
    cases hc
    exact hguard rfl htoken
  shown := by
    rw [List.flatMap_cons, hshows.shown]
    rfl

/-- A mark with an odd number of backslashes. -/
theorem mark_cons {n : Nat} {word : Text} {tokens : List Token} {text : Text}
    (hshows : Shows tokens text) (hword : IsMarkWord word) :
    Shows (.mark (guarded n) word :: tokens)
      (List.replicate n '\\' ++ (bracketed word ++ text)) where
  isText token htoken := by
    rcases List.mem_cons.mp htoken with rfl | htoken
    · intro m other heq
      cases heq
      refine ⟨?_, hword⟩
      unfold guarded
      omega
    · exact hshows.isText token htoken
  unguarded := by
    refine List.isChain_cons.mpr ⟨fun token _ => ?_, hshows.unguarded⟩
    rintro ⟨hmark, -⟩
    cases hmark
  shown := by
    have hhalf : guarded n / 2 = n := by
      unfold guarded
      omega
    rw [List.flatMap_cons, hshows.shown]
    simp only [Token.written, hhalf, List.append_assoc]

theorem backslashes_append (n : Nat) {tokens : List Token} {text : Text}
    (hshows : Shows tokens text) (hhead : tokens.head? ≠ some (.char '[')) :
    Shows (List.replicate n (.char '\\') ++ tokens) (List.replicate n '\\' ++ text) := by
  induction n with
  | zero => exact hshows
  | succ n ih =>
      refine ih.char_cons fun _ => ?_
      cases n with
      | zero => exact hhead
      | succ n => simp [List.replicate_succ]

theorem chars_append {chars : Text} (hchars : '\\' ∉ chars) {tokens : List Token} {text : Text}
    (hshows : Shows tokens text) : Shows (chars.map .char ++ tokens) (chars ++ text) := by
  induction chars with
  | nil => exact hshows
  | cons c chars ih =>
      have hc : '\\' ≠ c := List.ne_of_not_mem_cons hchars
      exact (ih (List.not_mem_of_not_mem_cons hchars)).char_cons fun h => absurd h.symm hc

end Shows

/-- Each backslash before an opening bracket stands before a mark. -/
def GuardsMarks (text : Text) : Prop :=
  ∀ before after, text = before ++ '\\' :: '[' :: after → markAt? ('[' :: after) ≠ none

theorem guardsMarks_iff (text : Text) :
    GuardsMarks text ↔
      ∀ tail ∈ text.tails, tail.take 2 = ['\\', '['] → markAt? (tail.drop 1) ≠ none := by
  constructor
  · rintro hguards tail htail htake
    obtain ⟨before, rfl⟩ := (List.mem_tails tail text).mp htail
    have hsplit := List.take_append_drop 2 tail
    rw [htake] at hsplit
    rw [← hsplit] at hguards ⊢
    exact hguards before (tail.drop 2) rfl
  · rintro htails before after rfl
    exact htails ('\\' :: '[' :: after) ((List.mem_tails _ _).mpr (List.suffix_append _ _)) rfl

instance : DecidablePred GuardsMarks :=
  fun text => decidable_of_iff _ (guardsMarks_iff text).symm

theorem GuardsMarks.of_append {before text : Text} (hguards : GuardsMarks (before ++ text)) :
    GuardsMarks text := by
  intro first after htext
  refine hguards (before ++ first) after ?_
  rw [htext, List.append_assoc]

theorem GuardsMarks.of_apart {text tail : Text} (hapart : Apart text tail)
    (hguards : GuardsMarks (text ++ tail)) : GuardsMarks text := by
  intro before after htext hnone
  refine hguards before (after ++ tail) (by rw [htext, List.append_assoc]; rfl) ?_
  exact hapart.mark (before ++ ['\\']) ('[' :: after) (by rw [htext, List.append_assoc]; rfl)
    (List.cons_ne_nil _ _) hnone

/-- A text whose marks have been turned into text shows itself. -/
theorem Shows.escaped_append {text : Text} (hguards : GuardsMarks text)
    (hlast : text.getLast? ≠ some '\\') {more : List Token} {moreText : Text}
    (hmore : Shows more moreText) :
    Shows ((tokens text).map (Token.recounted guarded) ++ more) (text ++ moreText) := by
  induction text using readingInduction with
  | nil =>
      rw [tokens_nil]
      exact hmore
  | mark n word rest hword ih =>
      have hrest : rest.getLast? ≠ some '\\' := by
        intro hrest
        simp [hrest] at hlast
      rw [tokens_mark n hword, List.append_assoc, List.append_assoc]
      refine Shows.mark_cons (ih ?_ hrest) hword
      rw [← List.append_assoc] at hguards
      exact hguards.of_append
  | char c rest hc hmark ih =>
      have hrest : rest.getLast? ≠ some '\\' := by
        intro hrest
        simp [List.getLast?_cons, hrest] at hlast
      rw [tokens_char hc hmark]
      have hafter : GuardsMarks ([c] ++ rest) := hguards
      exact (ih hafter.of_append hrest).char_cons fun h => absurd h hc
  | backslashes n rest hhead hmark ih =>
      rw [tokens_backslashes (n + 1) hhead hmark, List.map_append, List.map_replicate,
        List.append_assoc, List.append_assoc]
      cases rest with
      | nil =>
          refine absurd ?_ hlast
          rw [List.append_nil, List.replicate_succ', List.getLast?_append]
          rfl
      | cons c rest =>
          have hc : c ≠ '\\' := fun h => hhead (congrArg some h)
          have hbracket : c ≠ '[' := by
            rintro rfl
            refine hguards (List.replicate n '\\') rest ?_ hmark
            rw [List.replicate_succ', List.append_assoc]
            rfl
          have hrest : (c :: rest).getLast? ≠ some '\\' := by
            intro hrest
            rw [List.getLast?_append, hrest] at hlast
            exact hlast rfl
          refine Shows.backslashes_append (n + 1) (ih hguards.of_append hrest) ?_
          rw [tokens_char hc hmark]
          intro hbegins
          cases hbegins
          exact hbracket rfl

/-! ### Texts without marks -/

/-- A text that no reading of marks changes: it has no backslash, and no opening bracket in it
begins a mark, whatever follows. -/
structure Unmarked (text : Text) : Prop where
  noBackslash : '\\' ∉ text
  noMark : text.IsChain fun c d => c = '[' → startsMark d = false
  noOpenEnd : text.getLast? ≠ some '['

theorem Unmarked.tokens_append {text : Text} (hunmarked : Unmarked text) (tail : Text) :
    tokens (text ++ tail) = text.map .char ++ tokens tail := by
  obtain ⟨hbackslash, hchain, hend⟩ := hunmarked
  induction text with
  | nil => rfl
  | cons c rest ih =>
      have hc : '\\' ≠ c := List.ne_of_not_mem_cons hbackslash
      have hrest : '\\' ∉ rest := List.not_mem_of_not_mem_cons hbackslash
      have hmark : markAt? (c :: (rest ++ tail)) = none := by
        by_cases hbracket : c = '['
        · subst hbracket
          cases rest with
          | nil => exact absurd rfl hend
          | cons d rest =>
              refine (markAt?_eq_none_iff d (rest ++ tail)).mpr fun hstarts => ?_
              rw [(List.isChain_cons_cons.mp hchain).1 rfl] at hstarts
              cases hstarts
        · exact markAt?_of_ne hbracket _
      have hendrest : rest.getLast? ≠ some '[' := by
        intro hlast
        simp [List.getLast?_cons, hlast] at hend
      rw [List.cons_append, tokens_char (Ne.symm hc) hmark, ih hrest hchain.tail hendrest]
      rfl

theorem Unmarked.escape_eq {text : Text} (hunmarked : Unmarked text) : escape text = text := by
  have htokens := hunmarked.tokens_append []
  rw [List.append_nil, tokens_nil, List.append_nil] at htokens
  have hwritten : rewritten guarded text = text := by
    rw [rewritten, htokens, List.flatMap_map]
    exact List.flatMap_singleton' text
  have hlast : text.getLast? ≠ some '\\' :=
    fun hlast => hunmarked.noBackslash (List.mem_of_getLast? hlast)
  rw [Console.escape_eq, hwritten, closedOff_of_getLast?_ne hlast]

/-! ### Codes of pictures in texts put together -/

theorem PictureFree.append_colonFree {text tail : Text} (hfree : PictureFree pictures text)
    (htail : ':' ∉ tail) : PictureFree pictures (text ++ tail) :=
  fun code hcode hinside => hfree code hcode (Text.infix_of_infix_append htail hinside)

theorem PictureFree.colonFree_append {text head : Text} (hfree : PictureFree pictures text)
    (hhead : ':' ∉ head) : PictureFree pictures (head ++ text) :=
  fun code hcode hinside => hfree code hcode (Text.infix_of_append_infix hhead hinside)

/-- No code has a blank in it. -/
theorem PictureFree.append_blank {text tail : Text} (htext : PictureFree pictures text)
    (htail : PictureFree pictures tail) : PictureFree pictures (text ++ ' ' :: tail) := by
  rintro code hcode ⟨before, after, heq⟩
  have hblank : ' ' ∉ ':' :: code ++ [':'] := by
    intro hmem
    rcases List.mem_append.mp hmem with hmem | hmem
    · rcases List.mem_cons.mp hmem with hcolon | hmem
      · exact absurd hcolon (by decide)
      · exact absurd (hcode ' ' hmem).2 (by decide)
    · exact absurd (List.mem_singleton.mp hmem) (by decide)
  rcases List.append_eq_append_iff.mp heq with ⟨rest, hbefore, -⟩ | ⟨rest, hbefore, hrest⟩
  · exact htext code hcode ⟨before, rest, hbefore.symm⟩
  · cases rest with
    | nil => exact htext code hcode ⟨before, [], by simpa using hbefore⟩
    | cons c rest =>
        obtain ⟨rfl, htaileq⟩ := List.cons.inj hrest
        rcases List.append_eq_append_iff.mp hbefore with ⟨more, -, hcodeeq⟩ | ⟨more, -, hmore⟩
        · refine absurd ?_ hblank
          rw [hcodeeq]
          simp
        · cases more with
          | nil => exact absurd (List.cons.inj hmore).1 (by decide)
          | cons d more =>
              refine htail code hcode ⟨more, after, ?_⟩
              have hrest : rest = more ++ (':' :: code ++ [':']) := (List.cons.inj hmore).2
              rw [htaileq, hrest]
              rfl

theorem pictureFree_of_count {text : Text} (hcount : text.count ':' ≤ 1) :
    PictureFree pictures text := by
  intro code _ hinside
  have htwo : (':' :: code ++ [':']).count ':' ≤ text.count ':' := hinside.sublist.count_le ':'
  rw [List.count_append, List.count_cons_self, List.count_singleton_self] at htwo
  omega

/-! ### Lines of the report -/

/-- A text that is shown as it is, its end apart. -/
structure Showable (pictures : Pictures) (text : Text) : Prop
    extends Presentable pictures text where
  guardsMarks : GuardsMarks text

theorem showable_of_count {text : Text} (hcontrol : text.any isControl = false)
    (hcolon : text.count ':' ≤ 1) (hguards : GuardsMarks text) : Showable pictures text :=
  ⟨⟨eq_false_of_any hcontrol, pictureFree_of_count hcolon⟩, hguards⟩

/-- What stands before a text in a line: a label or an indent. -/
structure Margin (margin : Text) : Prop extends Unmarked margin where
  noControl : ∀ c ∈ margin, isControl c = false
  noColon : ':' ∉ margin

instance (margin : Text) : Decidable (Margin margin) :=
  decidable_of_iff (('\\' ∉ margin ∧ (margin.IsChain fun c d => c = '[' → startsMark d = false) ∧
      margin.getLast? ≠ some '[') ∧ margin.any isControl = false ∧ ':' ∉ margin)
    ⟨fun ⟨⟨h₁, h₂, h₃⟩, h₄, h₅⟩ => ⟨⟨h₁, h₂, h₃⟩, eq_false_of_any h₄, h₅⟩,
      fun ⟨⟨h₁, h₂, h₃⟩, h₄, h₅⟩ =>
        ⟨⟨h₁, h₂, h₃⟩, List.any_eq_false.mpr fun c hc => ne_true_of_eq_false (h₄ c hc), h₅⟩⟩

theorem Margin.presentable_append {margin text : Text} (hmargin : Margin margin)
    (hpresentable : Presentable pictures text) : Presentable pictures (margin ++ text) where
  noControl c hc := (List.mem_append.mp hc).elim (hmargin.noControl c) (hpresentable.noControl c)
  pictureFree := hpresentable.pictureFree.colonFree_append hmargin.noColon

/-- In a line with a style the marks of a text have become text, and the mark at the end takes the
backslashes along that the text ends with. -/
theorem tokens_margin_escape (style : Style) {margin front : Text} (hmargin : Margin margin)
    (hfront : front.getLast? ≠ some '\\') (n : Nat) :
    tokens (margin ++ escape (front ++ List.replicate n '\\') ++ bracketed ('/' :: style.word)) =
      margin.map .char ++ (tokens front).map (Token.recounted guarded) ++
        [.mark (if n = 1 then 2 else n) ('/' :: style.word)] := by
  have hapart : Apart front (List.replicate (if n = 1 then 2 else n) '\\' ++
      bracketed ('/' :: style.word)) :=
    apart_backslashes hfront _ (fun c hc => by cases hc; rfl) fun _ h => by cases h
  have hmark := tokens_mark (if n = 1 then 2 else n) (isMarkWord_end style) []
  rw [List.append_nil, tokens_nil] at hmark
  rw [escape_append_backslashes hfront, List.append_assoc, hmargin.tokens_append,
    List.append_assoc, tokens_rewritten_append guarded hapart, hmark, List.append_assoc]

/-- The line of a block shows the margin and the text, if the text has at most one backslash at its
end. -/
theorem print_marked_escape (style : Style) {margin text : Text} (hmargin : Margin margin)
    (htext : Showable pictures text) (hend : backslashesAtEnd text ≤ 1) :
    print pictures false (ConsoleReport.marked style (margin ++ escape text)) =
      .ok (margin ++ text ++ ['\n']) := by
  obtain ⟨front, hsplit, hfront⟩ := exists_eq_append_backslashes text
  generalize backslashesAtEnd text = n at hend hsplit
  subst hsplit
  have hguards : GuardsMarks front :=
    htext.guardsMarks.of_apart (apart_backslashes_end hfront n)
  have htokens := tokens_margin_escape style hmargin hfront n
  have hshows : Shows (margin.map .char ++ (tokens front).map (Token.recounted guarded))
      (margin ++ front) := by
    have hescaped := Shows.escaped_append hguards hfront Shows.nil
    rw [List.append_nil, List.append_nil] at hescaped
    exact hescaped.chars_append hmargin.noBackslash
  have heven : (if n = 1 then 2 else n) % 2 = 0 := by
    split <;> omega
  have hhalf : (if n = 1 then 2 else n) / 2 = n := by
    split <;> omega
  have hpresentable : Presentable pictures
      (margin ++ front ++ List.replicate ((if n = 1 then 2 else n) / 2) '\\') := by
    rw [hhalf, List.append_assoc]
    exact hmargin.presentable_append htext.toPresentable
  have hprinted := print_marked style htokens heven hshows hpresentable
  rwa [hhalf, List.append_assoc margin] at hprinted

theorem OpensMark.append_backslashes {text : Text} (hopens : OpensMark text) (n : Nat) :
    OpensMark (text ++ List.replicate n '\\') := by
  obtain ⟨before, c, inside, rfl, hstarts, hinside⟩ := hopens
  refine ⟨before, c, inside ++ List.replicate n '\\', by simp, hstarts, fun d hd => ?_⟩
  rcases List.mem_append.mp hd with hd | hd
  · exact hinside d hd
  · rw [List.eq_of_mem_replicate hd]
    decide

/-- Within a line the marks of a text have become text, if what follows ends no mark that the text
opens. -/
theorem tokens_escape_append {front : Text} (hfront : front.getLast? ≠ some '\\') (n : Nat)
    {c : Char} {rest : Text} (hbackslash : c ≠ '\\') (hstarts : startsMark c = false)
    (hbracket : c ≠ '[') (hfirst : OpensMark front → firstBracket? (c :: rest) ≠ some ']') :
    tokens (escape (front ++ List.replicate n '\\') ++ c :: rest) =
      (tokens front).map (Token.recounted guarded) ++
        (List.replicate (if n = 1 then 2 else n) (.char '\\') ++ tokens (c :: rest)) := by
  have hhead : (c :: rest).head? ≠ some '\\' := fun h => hbackslash (Option.some.inj h)
  have hapart : Apart front (List.replicate (if n = 1 then 2 else n) '\\' ++ c :: rest) :=
    apart_backslashes hfront _ (fun d hd => by cases hd; exact hstarts) hfirst
  rw [escape_append_backslashes hfront, List.append_assoc, tokens_rewritten_append guarded hapart,
    tokens_backslashes _ hhead (markAt?_of_ne hbracket rest)]

/-- A text within a line shows itself, if it does not end with a single backslash and what follows
ends no mark that it opens. -/
theorem Shows.escape_append {text : Text} (hguards : GuardsMarks text)
    (hend : backslashesAtEnd text ≠ 1) {c : Char} {rest shownRest : Text} (hbackslash : c ≠ '\\')
    (hstarts : startsMark c = false) (hbracket : c ≠ '[')
    (hfirst : OpensMark text → firstBracket? (c :: rest) ≠ some ']')
    (hrest : Shows (tokens (c :: rest)) shownRest) :
    Shows (tokens (escape text ++ c :: rest)) (text ++ shownRest) := by
  obtain ⟨front, hsplit, hfront⟩ := exists_eq_append_backslashes text
  generalize backslashesAtEnd text = n at hend hsplit
  subst hsplit
  have htokens : (tokens (c :: rest)).head? ≠ some (.char '[') := by
    rw [tokens_char hbackslash (markAt?_of_ne hbracket rest)]
    intro hbegins
    cases hbegins
    exact hbracket rfl
  rw [tokens_escape_append hfront n hbackslash hstarts hbracket
    fun hopens => hfirst (hopens.append_backslashes n), if_neg hend, List.append_assoc]
  exact (hrest.backslashes_append n htokens).escaped_append
    (hguards.of_apart (apart_backslashes_end hfront n)) hfront

theorem firstBracket?_append_backslashes (text : Text) (n : Nat) :
    firstBracket? (text ++ List.replicate n '\\') = firstBracket? text := by
  have hnone : (List.replicate n '\\').find? isBracket = none :=
    List.find?_eq_none.mpr fun c hc => by
      rw [List.eq_of_mem_replicate hc]
      decide
  rw [firstBracket?, List.find?_append, hnone, Option.or_none]
  rfl

theorem firstBracket?_escape (text : Text) : firstBracket? (escape text) = firstBracket? text := by
  obtain ⟨front, hsplit, hfront⟩ := exists_eq_append_backslashes text
  rw [hsplit, escape_append_backslashes hfront, firstBracket?_append_backslashes,
    firstBracket?_append_backslashes, firstBracket?_rewritten]

theorem firstBracket?_against_escape (path : Text) :
    firstBracket? ((" against " : Text) ++ (escape path ++ "...")) = firstBracket? path := calc
  _ = firstBracket? (escape path ++ "...") := rfl
  _ = (firstBracket? (escape path)).or none := List.find?_append
  _ = firstBracket? path := by rw [Option.or_none, firstBracket?_escape]

/-- A file and its schema have names that the line which names both shows as they are. -/
structure Opens (pictures : Pictures) (file path : Text) : Prop where
  showableFile : Showable pictures file
  showablePath : Showable pictures path
  fileEnd : backslashesAtEnd file ≠ 1
  pathEnd : backslashesAtEnd path ≠ 1
  seam : OpensMark file → firstBracket? path ≠ some ']'

theorem Presentable.append_blank {text tail : Text} (htext : Presentable pictures text)
    (htail : Presentable pictures tail) : Presentable pictures (text ++ ' ' :: tail) where
  noControl c hc := by
    rcases List.mem_append.mp hc with hc | hc
    · exact htext.noControl c hc
    · rcases List.mem_cons.mp hc with rfl | hc
      · decide
      · exact htail.noControl c hc
  pictureFree := htext.pictureFree.append_blank htail.pictureFree

theorem print_opening {file path : Text} (hopens : Opens pictures file path) :
    print pictures false
        ((" Validating " : Text) ++ escape file ++ " against " ++ escape path ++ "...") =
      .ok ((" Validating " : Text) ++ file ++ " against " ++ path ++ "..." ++ ['\n']) := by
  have hverb : Margin " Validating " := by decide
  have hagainst : Margin " against " := by decide
  have hdots : Margin "..." := by decide
  have hshowsDots : Shows (tokens ("..." : Text)) "..." := by
    have hchars := Shows.nil.chars_append hdots.noBackslash
    have htokens := hdots.tokens_append []
    rw [tokens_nil, List.append_nil] at htokens
    rw [htokens]
    exact hchars
  have hshowsPath : Shows (tokens (escape path ++ "...")) (path ++ "...") :=
    Shows.escape_append hopens.showablePath.guardsMarks hopens.pathEnd (by decide) (by decide)
      (by decide) (fun _ => by decide) hshowsDots
  have hshowsAgainst : Shows (tokens ((" against " : Text) ++ (escape path ++ "...")))
      ((" against " : Text) ++ (path ++ "...")) := by
    rw [hagainst.tokens_append]
    exact hshowsPath.chars_append hagainst.noBackslash
  have hseam : OpensMark file →
      firstBracket? ((" against " : Text) ++ (escape path ++ "...")) ≠ some ']' := by
    rw [firstBracket?_against_escape]
    exact hopens.seam
  have hshowsFile :
      Shows (tokens (escape file ++ ((" against " : Text) ++ (escape path ++ "..."))))
        (file ++ ((" against " : Text) ++ (path ++ "..."))) :=
    Shows.escape_append hopens.showableFile.guardsMarks hopens.fileEnd (by decide) (by decide)
      (by decide) hseam hshowsAgainst
  have hshows : Shows
      (tokens ((" Validating " : Text) ++ escape file ++ " against " ++ escape path ++ "..."))
      ((" Validating " : Text) ++ file ++ " against " ++ path ++ "...") := by
    simp only [List.append_assoc]
    rw [hverb.tokens_append]
    exact hshowsFile.chars_append hverb.noBackslash
  refine print_unmarked hshows ?_
  have hpath : Presentable pictures (path ++ "...") :=
    ⟨fun c hc => (List.mem_append.mp hc).elim (hopens.showablePath.noControl c)
      (hdots.noControl c), hopens.showablePath.pictureFree.append_colonFree hdots.noColon⟩
  have hagainstPath : Presentable pictures (("against " : Text) ++ (path ++ "...")) :=
    Margin.presentable_append (by decide) hpath
  have hall : Presentable pictures ((" Validating " : Text) ++
      (file ++ ((" against " : Text) ++ (path ++ "...")))) :=
    hverb.presentable_append (hopens.showableFile.toPresentable.append_blank hagainstPath)
  simpa only [List.append_assoc] using hall

end Console

namespace ConsoleReport

open Console

variable {pictures : Pictures}

/-! ### Reports -/

/-- A block as it is shown: the label before the first line, the later ones indented as far, and an
empty line. A block without lines is left out. -/
def shownBlock (label : Text) : List Text → List Text
  | [] => []
  | first :: more => (label ++ first) :: more.map (List.replicate label.length ' ' ++ ·) ++ [[]]

def shownOpening (file path : Text) : List Text :=
  if path.isEmpty then [] else [(" Validating " : Text) ++ file ++ " against " ++ path ++ "...", []]

def shownLines (outcome : Outcome) : List Text :=
  shownOpening outcome.file ((outcome.schema.map SchemaReference.displayPath).getD []) ++
    shownBlock " [WARNING] " (outcome.warnings.map Diagnostic.message) ++
    (if outcome.errors = [] then []
      else shownBlock " [ERROR] "
        ("Invalid XML. Errors:" :: outcome.errors.map Diagnostic.message)) ++
    (if outcome.isValid ∧ outcome.diagnostics = [] then shownBlock " [OK] " ["XML is valid."]
      else [])

def Prints (pictures : Pictures) (line text : Text) : Prop :=
  print pictures false line = .ok (text ++ ['\n'])

theorem printAll_eq {lines texts : List Text}
    (hprints : List.Forall₂ (Prints pictures) lines texts) :
    printAll pictures false lines = { text := texts.flatMap (· ++ ['\n']) } := by
  induction hprints with
  | nil => rfl
  | cons hline _ ih =>
      rw [printAll, hline, ih]
      rfl

theorem prints_nil : Prints pictures [] [] := by
  have hshows : Shows (tokens []) [] := by
    rw [tokens_nil]
    exact Shows.nil
  exact print_unmarked hshows ⟨fun c hc => (List.not_mem_nil hc).elim, fun code _ hinside => by
    simp at hinside⟩

theorem margin_indent (n : Nat) : Margin (List.replicate n ' ') where
  noBackslash hmem := absurd (List.eq_of_mem_replicate hmem) (by decide)
  noMark := List.isChain_replicate_of_rel n fun h => absurd h (by decide)
  noOpenEnd hlast := by
    have hmem := List.mem_of_getLast? hlast
    exact absurd (List.eq_of_mem_replicate hmem) (by decide)
  noControl c hc := by
    rw [List.eq_of_mem_replicate hc]
    decide
  noColon hmem := absurd (List.eq_of_mem_replicate hmem) (by decide)

/-- A message that a line of a block shows as it is. -/
structure ShowableMessage (pictures : Pictures) (message : Text) : Prop
    extends Showable pictures message where
  atEnd : backslashesAtEnd message ≤ 1

theorem prints_block {label first : Text} {more : List Text} (style : Style)
    (hlabel : Margin (blockLabel label)) (hfirst : ShowableMessage pictures first)
    (hmore : ∀ message ∈ more, ShowableMessage pictures message) :
    List.Forall₂ (Prints pictures) (block label style first more)
      (shownBlock (blockLabel label) (first :: more)) := by
  refine List.Forall₂.cons ?_ (List.rel_append ?_ (.cons prints_nil .nil))
  · rw [hlabel.escape_eq]
    exact print_marked_escape style hlabel hfirst.toShowable hfirst.atEnd
  · rw [List.forall₂_map_left_iff, List.forall₂_map_right_iff, List.forall₂_same]
    exact fun message hmessage => print_marked_escape style (margin_indent _)
      (hmore message hmessage).toShowable (hmore message hmessage).atEnd

/-- An outcome all of whose texts are shown as they are. -/
structure ShowableOutcome (pictures : Pictures) (outcome : Outcome) : Prop where
  messages : ∀ d ∈ outcome.diagnostics, ShowableMessage pictures d.message
  opening : ∀ reference, outcome.schema = some reference → reference.displayPath ≠ [] →
    Opens pictures outcome.file reference.displayPath

theorem prints_opening {outcome : Outcome} (hshowable : ShowableOutcome pictures outcome) :
    List.Forall₂ (Prints pictures) (opening outcome)
      (shownOpening outcome.file ((outcome.schema.map SchemaReference.displayPath).getD [])) := by
  unfold opening
  split
  · rename_i reference hschema
    rw [hschema, Option.map_some, Option.getD_some, shownOpening]
    split
    · exact .nil
    · rename_i hpath
      have hopens := hshowable.opening reference hschema fun h => hpath (by rw [h]; rfl)
      exact .cons (print_opening hopens) (.cons prints_nil .nil)
  · rename_i hschema
    rw [hschema]
    exact .nil

theorem prints_warningBlock {outcome : Outcome} (hshowable : ShowableOutcome pictures outcome) :
    List.Forall₂ (Prints pictures) (warningBlock outcome)
      (shownBlock " [WARNING] " (outcome.warnings.map Diagnostic.message)) := by
  have hmessages : ∀ message ∈ outcome.warnings.map Diagnostic.message,
      ShowableMessage pictures message := by
    intro message hmessage
    obtain ⟨d, hd, rfl⟩ := List.mem_map.mp hmessage
    exact hshowable.messages d (List.mem_of_mem_filter hd)
  unfold warningBlock
  split
  · rename_i hnone
    rw [hnone]
    exact .nil
  · rename_i first more hsome
    rw [hsome] at hmessages ⊢
    have hlabel : Margin (blockLabel "WARNING") := by decide
    exact prints_block .caution hlabel
      (hmessages first List.mem_cons_self)
      fun message hmessage => hmessages message (List.mem_cons_of_mem first hmessage)

theorem prints_errorBlock {outcome : Outcome} (hshowable : ShowableOutcome pictures outcome) :
    List.Forall₂ (Prints pictures) (errorBlock outcome)
      (if outcome.errors = [] then []
        else shownBlock " [ERROR] "
          ("Invalid XML. Errors:" :: outcome.errors.map Diagnostic.message)) := by
  have hmessages : ∀ message ∈ outcome.errors.map Diagnostic.message,
      ShowableMessage pictures message := by
    intro message hmessage
    obtain ⟨d, hd, rfl⟩ := List.mem_map.mp hmessage
    exact hshowable.messages d (List.mem_of_mem_filter hd)
  unfold errorBlock
  split
  · rename_i hnone
    rw [if_pos (List.map_eq_nil_iff.mp hnone)]
    exact .nil
  · rename_i hsome
    rw [if_neg fun h => hsome (by rw [h]; rfl)]
    have hlabel : Margin (blockLabel "ERROR") := by decide
    exact prints_block .bad hlabel
      ⟨showable_of_count (by decide) (by decide) (by decide), by decide⟩ hmessages

theorem diagnostics_eq_nil_iff (outcome : Outcome) :
    outcome.diagnostics = [] ↔ outcome.errors = [] ∧ outcome.warnings = [] := by
  unfold Outcome.errors Outcome.warnings
  rw [List.filter_eq_nil_iff, List.filter_eq_nil_iff, List.eq_nil_iff_forall_not_mem]
  refine ⟨fun hnone => ⟨fun d hd => absurd hd (hnone d), fun d hd => absurd hd (hnone d)⟩, ?_⟩
  rintro ⟨herrors, hwarnings⟩ d hd
  cases hseverity : d.severity with
  | error => exact herrors d hd (by simp [hseverity])
  | warning => exact hwarnings d hd (by simp [hseverity])

theorem goodBlock_eq (outcome : Outcome) :
    goodBlock outcome =
      if outcome.isValid = true ∧ outcome.diagnostics = [] then
        block "OK" .good "XML is valid." []
      else [] := by
  have hiff : (outcome.errors.isEmpty && outcome.warnings.isEmpty && outcome.isValid) = true ↔
      outcome.isValid = true ∧ outcome.diagnostics = [] := by
    rw [Bool.and_eq_true, Bool.and_eq_true, List.isEmpty_iff, List.isEmpty_iff,
      ← diagnostics_eq_nil_iff, and_comm]
  unfold goodBlock
  exact if_congr hiff rfl rfl

theorem prints_goodBlock (outcome : Outcome) :
    List.Forall₂ (Prints pictures) (goodBlock outcome)
      (if outcome.isValid ∧ outcome.diagnostics = [] then shownBlock " [OK] " ["XML is valid."]
        else []) := by
  rw [goodBlock_eq]
  split
  · have hlabel : Margin (blockLabel "OK") := by decide
    exact prints_block .good hlabel
      ⟨showable_of_count (by decide) (by decide) (by decide), by decide⟩
      fun message hmessage => (List.not_mem_nil hmessage).elim
  · exact .nil

/-- What the console writes about an outcome all of whose texts are shown as they are. -/
theorem write_showable {outcome : Outcome} (hshowable : ShowableOutcome pictures outcome) :
    (Reporter.console false pictures).write (.outcome outcome) =
      { text := (shownLines outcome).flatMap (· ++ ['\n']) } :=
  printAll_eq (List.rel_append (List.rel_append (List.rel_append (prints_opening hshowable)
    (prints_warningBlock hshowable)) (prints_errorBlock hshowable)) (prints_goodBlock outcome))

/-- An outcome with brackets, marks and backslashes that are all shown. -/
def crowded : Outcome :=
  { file := "[a].xml"
    isValid := false
    diagnostics :=
      [⟨"[a].xml", 3, "Line 3: [red]value \\[b]\\", .error⟩, ⟨"[a].xml", 0, "old[", .warning⟩]
    schema := some { identifier := "urn:c:x.xsd", displayPath := "x[1].xsd" } }

theorem write_crowded :
    ShowableOutcome .usual crowded ∧
      (Reporter.console false).write (.outcome crowded) =
        { text := (" Validating [a].xml against x[1].xsd...\n\n [WARNING] old[\n\n" : Text) ++
            " [ERROR] Invalid XML. Errors:\n         Line 3: [red]value \\[b]\\\n\n" } := by
  have hshowable : ShowableOutcome .usual crowded := by
    refine ⟨fun d hd => ?_, fun reference hschema _ => ?_⟩
    · rcases List.mem_cons.mp hd with rfl | hd
      · exact ⟨showable_of_count (by decide) (by decide) (by decide), by decide⟩
      · rw [List.mem_singleton.mp hd]
        exact ⟨showable_of_count (by decide) (by decide) (by decide), by decide⟩
    · cases hschema
      exact ⟨showable_of_count (by decide) (by decide) (by decide),
        showable_of_count (by decide) (by decide) (by decide), by decide, by decide,
        fun _ => by decide⟩
  exact ⟨hshowable, (write_showable hshowable).trans (by decide)⟩

/-- A message with a backslash before a bracket that begins no mark. -/
def bareGuard : Outcome :=
  { file := "a.xml", isValid := false, diagnostics := [.labelled "a.xml" 3 "\\[A]"] }

/-- Messages with a code of a picture and with two backslashes at the end, and a mark that begins in
the name of the file and ends in the path of its schema. -/
def otherLosses : List Outcome :=
  [{ file := "a.xml", isValid := false, diagnostics := [.labelled "a.xml" 3 ":x:"] },
    { file := "a.xml", isValid := false, diagnostics := [.labelled "a.xml" 3 "a\\\\"] },
    { file := "[a"
      isValid := true
      schema := some { identifier := "urn:c:b].xsd", displayPath := "b].xsd" } }]

/-- The console does not show every text as it is. -/
theorem write_loses :
    (Reporter.console false).write (.outcome bareGuard) =
        { text := (" [ERROR] Invalid XML. Errors:\n         Line 3: [A]\n\n" : Text) } ∧
      ∀ outcome ∈ bareGuard :: otherLosses,
        (∀ d ∈ outcome.diagnostics, d.message.any isControl = false) ∧
          (Reporter.console false).write (.outcome outcome) ≠
            { text := (shownLines outcome).flatMap (· ++ ['\n']) } := by
  decide +kernel

end ConsoleReport

end XmlCheck
