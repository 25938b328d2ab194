import XmlCheck.Console.Markup
import Mathlib.Data.List.Chain
import Mathlib.Data.List.TakeWhile

/-!
# Reading marked texts in parts

A marked text is read mark by mark: each mark takes the backslashes before it along. Where a text is
put together from parts, its tokens are those of the parts as long as no mark begins in one part and
ends in another and no backslashes stand at the seam. Putting backslashes before marks, as `escape`
does, keeps the marks where they are; it makes them text.
-/

namespace XmlCheck.Console

/-! ### Marks -/

def isBracket (c : Char) : Bool :=
  c == ']' || c == '['

/-- The first square bracket of a text. -/
def firstBracket? (text : Text) : Option Char :=
  text.find? isBracket

def IsMarkWord (word : Text) : Prop :=
  ∃ c rest, word = c :: rest ∧ startsMark c = true ∧ ∀ d ∈ rest, isBracket d = false

theorem eq_false_of_any {p : Char → Bool} {text : Text} (hany : text.any p = false) :
    ∀ c ∈ text, p c = false :=
  fun c hc => eq_false_of_ne_true (List.any_eq_false.mp hany c hc)

theorem ne_bracket_iff (d : Char) : (d != ']' && d != '[') = !isBracket d := by
  simp [isBracket, bne]

theorem markAt?_of_ne {c : Char} (hc : c ≠ '[') (rest : Text) : markAt? (c :: rest) = none := by
  unfold markAt?
  split
  · rename_i heq
    cases heq
    exact absurd rfl hc
  · rfl

theorem dropWhile_eq_of_firstBracket? {text : Text} {c : Char}
    (hfirst : firstBracket? text = some c) :
    ∃ inside after, text = inside ++ c :: after ∧ (∀ d ∈ inside, isBracket d = false) ∧
      isBracket c = true := by
  obtain ⟨hc, inside, after, rfl, hinside⟩ := List.find?_eq_some_iff_append.mp hfirst
  exact ⟨inside, after, rfl, fun d hd => by simpa using hinside d hd, hc⟩

theorem markAt?_bracketed {word : Text} (hword : IsMarkWord word) (rest : Text) :
    markAt? (bracketed word ++ rest) = some (word, rest) := by
  obtain ⟨c, inside, rfl, hstarts, hinside⟩ := hword
  have hkeep : ∀ d ∈ inside, (d != ']' && d != '[') = true := fun d hd => by
    rw [ne_bracket_iff, hinside d hd]
    rfl
  have htake : (inside ++ ']' :: rest).takeWhile (fun d => d != ']' && d != '[') = inside := by
    rw [List.takeWhile_append_of_pos hkeep]
    simp
  have hdrop : (inside ++ ']' :: rest).dropWhile (fun d => d != ']' && d != '[') = ']' :: rest := by
    rw [List.dropWhile_append_of_pos hkeep]
    simp
  have htext : bracketed (c :: inside) ++ rest = '[' :: c :: (inside ++ ']' :: rest) := by
    simp [bracketed]
  rw [htext]
  simp only [markAt?, hstarts, if_true, htake, hdrop]

/-- A mark begins where an opening bracket, a character that may start a mark and a closing bracket
follow each other, with no bracket between. -/
theorem markAt?_eq_none_iff (c : Char) (rest : Text) :
    markAt? ('[' :: c :: rest) = none ↔ (startsMark c = true → firstBracket? rest ≠ some ']') := by
  constructor
  · intro hnone hstarts hfirst
    obtain ⟨inside, after, rfl, hinside, -⟩ := dropWhile_eq_of_firstBracket? hfirst
    have hmark := markAt?_bracketed ⟨c, inside, rfl, hstarts, hinside⟩ after
    have htext : bracketed (c :: inside) ++ after = '[' :: c :: (inside ++ ']' :: after) := by
      simp [bracketed]
    rw [htext, hnone] at hmark
    cases hmark
  · intro hfirst
    by_contra hmark
    simp only [markAt?] at hmark
    split at hmark
    · rename_i hstarts
      split at hmark
      · rename_i after hdrop
        refine hfirst hstarts (List.find?_eq_some_iff_append.mpr
          ⟨rfl, rest.takeWhile fun d => d != ']' && d != '[', after, ?_, fun d hd => ?_⟩)
        · rw [← hdrop, List.takeWhile_append_dropWhile]
        · have hinside := List.mem_takeWhile_imp hd
          rw [ne_bracket_iff] at hinside
          exact hinside
      · exact hmark rfl
    · exact hmark rfl

theorem eq_bracketed_of_markAt? {text word rest : Text} (hmark : markAt? text = some (word, rest)) :
    IsMarkWord word ∧ text = bracketed word ++ rest := by
  unfold markAt? at hmark
  split at hmark
  · rename_i c tail
    split at hmark
    · rename_i hstarts
      split at hmark
      · rename_i after hdrop
        cases hmark
        refine ⟨⟨c, _, rfl, hstarts, fun d hd => ?_⟩, ?_⟩
        · have hinside := List.mem_takeWhile_imp hd
          rw [ne_bracket_iff] at hinside
          simpa using hinside
        · have htail :=
            List.takeWhile_append_dropWhile (p := fun d => d != ']' && d != '[') (l := tail)
          rw [hdrop] at htail
          simp only [bracketed, List.cons_append, List.append_assoc, List.nil_append, htail]
      · cases hmark
    · cases hmark
  · cases hmark

/-! ### Tokens -/

theorem takeWhile_backslash (n : Nat) {rest : Text} (hrest : rest.head? ≠ some '\\') :
    (List.replicate n '\\' ++ rest).takeWhile (· == '\\') = List.replicate n '\\' := by
  rw [List.takeWhile_append_of_pos (by simp)]
  cases rest with
  | nil => simp
  | cons c rest =>
      have hc : (c == '\\') = false := by simpa using hrest
      rw [List.takeWhile_cons_of_neg (by simp [hc]), List.append_nil]

theorem dropWhile_backslash (n : Nat) {rest : Text} (hrest : rest.head? ≠ some '\\') :
    (List.replicate n '\\' ++ rest).dropWhile (· == '\\') = rest := by
  rw [List.dropWhile_append_of_pos (by simp)]
  cases rest with
  | nil => rfl
  | cons c rest =>
      have hc : (c == '\\') = false := by simpa using hrest
      rw [List.dropWhile_cons_of_neg (by simp [hc])]

theorem tokens_nil : tokens [] = [] := by rw [tokens]

/-- A mark is read together with the backslashes before it. -/
theorem tokens_mark (n : Nat) {word : Text} (hword : IsMarkWord word) (rest : Text) :
    tokens (List.replicate n '\\' ++ (bracketed word ++ rest)) = .mark n word :: tokens rest := by
  have hhead : (bracketed word ++ rest).head? ≠ some '\\' := by simp [bracketed]
  have htake := takeWhile_backslash n hhead
  have hdrop := dropWhile_backslash n hhead
  have hmark := markAt?_bracketed hword rest
  cases htext : List.replicate n '\\' ++ (bracketed word ++ rest) with
  | nil => simp [bracketed] at htext
  | cons c tail =>
      rw [htext] at htake hdrop
      rw [tokens]
      split
      · rename_i found after hfound
        rw [hdrop, hmark] at hfound
        cases hfound
        rw [htake, List.length_replicate]
      · rename_i hfound
        rw [hdrop, hmark] at hfound
        cases hfound

theorem tokens_char {c : Char} {rest : Text} (hc : c ≠ '\\') (hmark : markAt? (c :: rest) = none) :
    tokens (c :: rest) = .char c :: tokens rest := by
  have hdrop : (c :: rest).dropWhile (· == '\\') = c :: rest :=
    List.dropWhile_cons_of_neg (by simpa using hc)
  rw [tokens]
  split
  · rename_i found after hfound
    rw [hdrop, hmark] at hfound
    cases hfound
  · rw [if_neg (by simpa using hc)]

/-- Backslashes that no mark follows are characters. -/
theorem tokens_backslashes (n : Nat) {rest : Text} (hhead : rest.head? ≠ some '\\')
    (hmark : markAt? rest = none) :
    tokens (List.replicate n '\\' ++ rest) = List.replicate n (.char '\\') ++ tokens rest := by
  cases n with
  | zero => rfl
  | succ n =>
      have htake := takeWhile_backslash (n + 1) hhead
      have hdrop := dropWhile_backslash (n + 1) hhead
      have hrest := dropWhile_backslash n hhead
      rw [List.replicate_succ, List.cons_append] at htake hdrop ⊢
      rw [tokens]
      split
      · rename_i found after hfound
        rw [hdrop, hmark] at hfound
        cases hfound
      · rw [if_pos (by rfl), htake, hrest, ← List.replicate_succ, List.map_replicate]

/-- Each text is read in steps: a mark with its backslashes, a character, or backslashes that no
mark follows. -/
@[elab_as_elim]
theorem readingInduction {motive : Text → Prop} (nil : motive [])
    (mark : ∀ n word rest, IsMarkWord word → motive rest →
      motive (List.replicate n '\\' ++ (bracketed word ++ rest)))
    (char : ∀ c rest, c ≠ '\\' → markAt? (c :: rest) = none → motive rest → motive (c :: rest))
    (backslashes : ∀ n rest, rest.head? ≠ some '\\' → markAt? rest = none → motive rest →
      motive (List.replicate (n + 1) '\\' ++ rest)) (text : Text) : motive text := by
  fun_induction tokens text with
  | case1 => exact nil
  | case2 c rest word after hmark ih =>
      obtain ⟨hword, htext⟩ := eq_bracketed_of_markAt? hmark
      have hrun : (c :: rest).takeWhile (· == '\\') =
          List.replicate ((c :: rest).takeWhile (· == '\\')).length '\\' :=
        List.eq_replicate_iff.mpr ⟨rfl, fun d hd => by simpa using List.mem_takeWhile_imp hd⟩
      have hsplit := List.takeWhile_append_dropWhile (p := (· == '\\')) (l := c :: rest)
      rw [htext, hrun] at hsplit
      rw [← hsplit]
      exact mark _ word after hword ih
  | case3 c rest hmark hc ih =>
      obtain rfl : c = '\\' := by simpa using hc
      have hrun : rest.takeWhile (· == '\\') =
          List.replicate (rest.takeWhile (· == '\\')).length '\\' :=
        List.eq_replicate_iff.mpr ⟨rfl, fun d hd => by simpa using List.mem_takeWhile_imp hd⟩
      have hsplit := List.takeWhile_append_dropWhile (p := (· == '\\')) (l := rest)
      rw [hrun] at hsplit
      rw [List.dropWhile_cons_of_pos (by simp)] at hmark
      have hhead : (rest.dropWhile (· == '\\')).head? ≠ some '\\' := by
        intro hhead
        have := List.head?_dropWhile_not (· == '\\') rest
        rw [hhead] at this
        simp at this
      have hstep := backslashes (rest.takeWhile (· == '\\')).length _ hhead hmark ih
      rw [List.replicate_succ, List.cons_append, hsplit] at hstep
      exact hstep
  | case4 c rest hmark hc ih =>
      have hne : c ≠ '\\' := by simpa using hc
      rw [List.dropWhile_cons_of_neg (p := (· == '\\')) hc] at hmark
      exact char c rest hne hmark ih

/-! ### Texts with other numbers of backslashes -/

/-- The text of a token, where `count` says how many backslashes stand before a mark that was read
with a number of them. -/
def Token.written (count : Nat → Nat) : Token → Text
  | char c => [c]
  | mark backslashes word => List.replicate (count backslashes) '\\' ++ bracketed word

/-- The token with another number of backslashes, if it is a mark. -/
def Token.recounted (count : Nat → Nat) : Token → Token
  | char c => char c
  | mark backslashes word => mark (count backslashes) word

/-- A text with other numbers of backslashes before its marks. -/
def rewritten (count : Nat → Nat) (text : Text) : Text :=
  (tokens text).flatMap (Token.written count)

section Rewritten

variable (count : Nat → Nat)

theorem rewritten_nil : rewritten count [] = [] := by
  rw [rewritten, tokens_nil, List.flatMap_nil]

theorem rewritten_mark (n : Nat) {word : Text} (hword : IsMarkWord word) (rest : Text) :
    rewritten count (List.replicate n '\\' ++ (bracketed word ++ rest)) =
      List.replicate (count n) '\\' ++ (bracketed word ++ rewritten count rest) := by
  rw [rewritten, tokens_mark n hword, List.flatMap_cons, Token.written, List.append_assoc]
  rfl

theorem rewritten_char {c : Char} {rest : Text} (hc : c ≠ '\\')
    (hmark : markAt? (c :: rest) = none) :
    rewritten count (c :: rest) = c :: rewritten count rest := by
  rw [rewritten, tokens_char hc hmark, List.flatMap_cons]
  rfl

theorem rewritten_backslashes (n : Nat) {rest : Text} (hhead : rest.head? ≠ some '\\')
    (hmark : markAt? rest = none) :
    rewritten count (List.replicate n '\\' ++ rest) =
      List.replicate n '\\' ++ rewritten count rest := by
  have hrun : (List.replicate n (Token.char '\\')).flatMap (Token.written count) =
      List.replicate n '\\' := by
    induction n with
    | zero => rfl
    | succ n ih =>
        rw [List.replicate_succ, List.flatMap_cons, ih]
        rfl
  rw [rewritten, tokens_backslashes n hhead hmark, List.flatMap_append, hrun]
  rfl

theorem rewritten_id (text : Text) : rewritten id text = text := by
  induction text using readingInduction with
  | nil => exact rewritten_nil id
  | mark n word rest hword ih => rw [rewritten_mark id n hword, ih, id]
  | char c rest hc hmark ih => rw [rewritten_char id hc hmark, ih]
  | backslashes n rest hhead hmark ih => rw [rewritten_backslashes id (n + 1) hhead hmark, ih]

theorem firstBracket?_bracketed (n : Nat) (word rest : Text) :
    firstBracket? (List.replicate n '\\' ++ (bracketed word ++ rest)) = some '[' := by
  induction n with
  | zero => rfl
  | succ n ih => exact ih

/-- Backslashes are no brackets, so the first bracket stays the same. -/
theorem firstBracket?_rewritten (text : Text) :
    firstBracket? (rewritten count text) = firstBracket? text := by
  induction text using readingInduction with
  | nil => rw [rewritten_nil]
  | mark n word rest hword _ =>
      rw [rewritten_mark count n hword, firstBracket?_bracketed, firstBracket?_bracketed]
  | char c rest hc hmark ih =>
      unfold firstBracket? at ih ⊢
      rw [rewritten_char count hc hmark, List.find?_cons, List.find?_cons, ih]
  | backslashes n rest hhead hmark ih =>
      unfold firstBracket? at ih ⊢
      rw [rewritten_backslashes count (n + 1) hhead hmark, List.find?_append, List.find?_append, ih]

theorem getLast?_rewritten (text : Text) :
    (rewritten count text).getLast? = text.getLast? := by
  induction text using readingInduction with
  | nil => rw [rewritten_nil]
  | mark n word rest hword ih =>
      have hlast (m : Nat) (tail : Text) :
          (List.replicate m '\\' ++ (bracketed word ++ tail)).getLast? =
            tail.getLast?.or (some ']') := by
        rw [List.getLast?_append, List.getLast?_append, bracketed, List.getLast?_append,
          List.getLast?_singleton]
        cases tail.getLast? <;> rfl
      rw [rewritten_mark count n hword, hlast, hlast, ih]
  | char c rest hc hmark ih =>
      rw [rewritten_char count hc hmark, List.getLast?_cons, List.getLast?_cons, ih]
  | backslashes n rest hhead hmark ih =>
      rw [rewritten_backslashes count (n + 1) hhead hmark, List.getLast?_append,
        List.getLast?_append, ih]

/-- What the text begins with either stays or is what no mark goes on with. -/
theorem head_rewritten (text : Text) :
    text = [] ∨
      (∃ c rest, text = c :: rest ∧ rewritten count text = c :: rewritten count rest) ∨
      ∃ c rest, rewritten count text = c :: rest ∧ startsMark c = false := by
  induction text using readingInduction with
  | nil => exact .inl rfl
  | mark n word rest hword _ =>
      rw [rewritten_mark count n hword]
      cases count n with
      | zero => exact .inr (.inr ⟨_, _, rfl, by decide⟩)
      | succ m => exact .inr (.inr ⟨_, _, rfl, by decide⟩)
  | char c rest hc hmark _ => exact .inr (.inl ⟨c, rest, rfl, rewritten_char count hc hmark⟩)
  | backslashes n rest hhead hmark _ =>
      rw [rewritten_backslashes count (n + 1) hhead hmark]
      exact .inr (.inr ⟨_, _, rfl, by decide⟩)

end Rewritten

/-! ### Texts put together -/

/-- What follows a text goes on with nothing that the text began: it turns no backslashes at its end
into those of a mark, and ends no mark that begins in it. -/
structure Apart (text tail : Text) : Prop where
  backslash : text.getLast? = some '\\' → tail.head? ≠ some '\\' ∧ markAt? tail = none
  mark : ∀ before after, text = before ++ after → after ≠ [] → markAt? after = none →
    markAt? (after ++ tail) = none

theorem Apart.of_append {before text tail : Text} (hapart : Apart (before ++ text) tail) :
    Apart text tail where
  backslash hlast := by
    refine hapart.backslash ?_
    rw [List.getLast?_append, hlast]
    rfl
  mark first after heq := by
    refine hapart.mark (before ++ first) after ?_
    rw [heq, List.append_assoc]

/-- A mark begins in a text, but what the text has does not end it. -/
def OpensMark (text : Text) : Prop :=
  ∃ before c inside, text = before ++ '[' :: c :: inside ∧ startsMark c = true ∧
    ∀ d ∈ inside, isBracket d = false

/-- A tail that no mark goes on with, and in which no bracket ends a mark that the text opens. -/
theorem apart_of_opens {text tail : Text} (hhead : ∀ c, tail.head? = some c → startsMark c = false)
    (hfirst : OpensMark text → firstBracket? tail ≠ some ']')
    (hbackslash : text.getLast? = some '\\' → tail.head? ≠ some '\\' ∧ markAt? tail = none) :
    Apart text tail where
  backslash := hbackslash
  mark before after htext hafter hmark := by
    cases after with
    | nil => exact absurd rfl hafter
    | cons c rest =>
        by_cases hc : c = '['
        · subst hc
          cases rest with
          | nil =>
              cases tail with
              | nil => exact hmark
              | cons d tail =>
                  refine (markAt?_eq_none_iff d tail).mpr fun hstarts => ?_
                  rw [hhead d rfl] at hstarts
                  cases hstarts
          | cons d rest =>
              refine (markAt?_eq_none_iff d (rest ++ tail)).mpr fun hstarts => ?_
              have hrest := (markAt?_eq_none_iff d rest).mp hmark hstarts
              unfold firstBracket? at hrest hfirst ⊢
              rw [List.find?_append]
              cases hfound : rest.find? isBracket with
              | none =>
                  refine hfirst ⟨before, d, rest, htext, hstarts, fun e he => ?_⟩
                  simpa using List.find?_eq_none.mp hfound e he
              | some bracket =>
                  rw [hfound] at hrest
                  exact hrest
        · exact markAt?_of_ne hc _

/-- Other numbers of backslashes make no marks either. -/
theorem markAt?_rewritten_append (count : Nat → Nat) {c : Char} {rest tail : Text}
    (hmark : markAt? (c :: (rest ++ tail)) = none) :
    markAt? (c :: (rewritten count rest ++ tail)) = none := by
  by_cases hc : c = '['
  · subst hc
    rcases head_rewritten count rest with rfl | ⟨d, more, rfl, heq⟩ | ⟨d, more, heq, hd⟩
    · rwa [rewritten_nil]
    · rw [heq, List.cons_append]
      refine (markAt?_eq_none_iff d _).mpr fun hstarts => ?_
      have hrest := (markAt?_eq_none_iff d (more ++ tail)).mp hmark hstarts
      unfold firstBracket? at hrest ⊢
      rw [List.find?_append] at hrest ⊢
      have hsame := firstBracket?_rewritten count more
      unfold firstBracket? at hsame
      rwa [hsame]
    · rw [heq]
      refine (markAt?_eq_none_iff d _).mpr fun hstarts => ?_
      rw [hd] at hstarts
      cases hstarts
  · exact markAt?_of_ne hc _

/-- Where texts are apart, each is read on its own, whatever numbers of backslashes the marks of the
first are given. -/
theorem tokens_rewritten_append (count : Nat → Nat) {text tail : Text} (hapart : Apart text tail) :
    tokens (rewritten count text ++ tail) =
      (tokens text).map (Token.recounted count) ++ tokens tail := by
  induction text using readingInduction with
  | nil => rw [rewritten_nil, tokens_nil, List.nil_append, List.map_nil, List.nil_append]
  | mark n word rest hword ih =>
      rw [rewritten_mark count n hword, tokens_mark n hword, List.append_assoc, List.append_assoc,
        tokens_mark _ hword, List.map_cons, List.cons_append]
      rw [← List.append_assoc] at hapart
      exact congrArg _ (ih hapart.of_append)
  | char c rest hc hmark ih =>
      have hjoined : markAt? (c :: (rest ++ tail)) = none :=
        hapart.mark [] (c :: rest) rfl (List.cons_ne_nil c rest) hmark
      rw [rewritten_char count hc hmark, List.cons_append,
        tokens_char hc (markAt?_rewritten_append count hjoined), tokens_char hc hmark,
        List.map_cons, List.cons_append]
      have hafter : Apart ([c] ++ rest) tail := hapart
      exact congrArg _ (ih hafter.of_append)
  | backslashes n rest hhead hmark ih =>
      have hseam : (rewritten count rest ++ tail).head? ≠ some '\\' ∧
          markAt? (rewritten count rest ++ tail) = none := by
        cases rest with
        | nil =>
            rw [rewritten_nil, List.nil_append]
            refine hapart.backslash ?_
            rw [List.append_nil, List.replicate_succ', List.getLast?_append]
            rfl
        | cons c rest =>
            have hc : c ≠ '\\' := fun h => hhead (congrArg some h)
            have hjoined : markAt? (c :: (rest ++ tail)) = none :=
              hapart.mark _ (c :: rest) rfl (List.cons_ne_nil c rest) hmark
            rw [rewritten_char count hc hmark]
            exact ⟨fun h => hc (Option.some.inj h), markAt?_rewritten_append count hjoined⟩
      rw [rewritten_backslashes count (n + 1) hhead hmark, tokens_backslashes (n + 1) hhead hmark,
        List.append_assoc, tokens_backslashes (n + 1) hseam.1 hseam.2, List.map_append,
        List.map_replicate, List.append_assoc]
      exact congrArg _ (ih hapart.of_append)

theorem tokens_append {text tail : Text} (hapart : Apart text tail) :
    tokens (text ++ tail) = tokens text ++ tokens tail := by
  have hrecounted : Token.recounted id = id := by
    funext token
    cases token <;> rfl
  have happend := tokens_rewritten_append id hapart
  rwa [rewritten_id, hrecounted, List.map_id] at happend

theorem rewritten_append (count : Nat → Nat) {text tail : Text} (hapart : Apart text tail) :
    rewritten count (text ++ tail) = rewritten count text ++ rewritten count tail := by
  rw [rewritten, tokens_append hapart, List.flatMap_append]
  rfl

theorem tokens_of_not_mem {text : Text} (htext : '[' ∉ text) : tokens text = text.map .char := by
  induction text using readingInduction with
  | nil => exact tokens_nil
  | mark n word rest hword _ => exact absurd (by simp [bracketed]) htext
  | char c rest hc hmark ih =>
      rw [tokens_char hc hmark, ih (List.not_mem_of_not_mem_cons htext), List.map_cons]
  | backslashes n rest hhead hmark ih =>
      rw [tokens_backslashes (n + 1) hhead hmark, ih fun h => htext (List.mem_append_right _ h),
        List.map_append, List.map_replicate]

theorem rewritten_of_not_mem (count : Nat → Nat) {text : Text} (htext : '[' ∉ text) :
    rewritten count text = text := by
  rw [rewritten, tokens_of_not_mem htext, List.flatMap_map]
  exact List.flatMap_singleton' text

/-! ### Backslashes at the end -/

theorem closedOff_of_getLast?_ne {text : Text} (hlast : text.getLast? ≠ some '\\') :
    closedOff text = text := by
  have hhead : text.reverse.head? ≠ some '\\' := by rwa [List.head?_reverse]
  unfold closedOff
  split
  · rename_i heq
    simp [heq] at hhead
  · rename_i heq
    simp [heq] at hhead
  · rfl

theorem closedOff_append_two (text : Text) :
    closedOff (text ++ ['\\', '\\']) = text ++ ['\\', '\\'] := by
  unfold closedOff
  rw [List.reverse_append]
  rfl

theorem closedOff_append_one {text : Text} (hlast : text.getLast? ≠ some '\\') :
    closedOff (text ++ ['\\']) = text ++ ['\\', '\\'] := by
  have hhead : text.reverse.head? ≠ some '\\' := by rwa [List.head?_reverse]
  have hreverse : (text ++ ['\\']).reverse = '\\' :: text.reverse := List.reverse_append
  unfold closedOff
  rw [hreverse]
  split
  · rename_i heq
    simp [(List.cons.inj heq).2] at hhead
  · rw [List.append_assoc, List.singleton_append]
  · rename_i _ hone
    exact absurd rfl (hone text.reverse)

def guarded (backslashes : Nat) : Nat :=
  2 * backslashes + 1

theorem escape_eq (text : Text) : escape text = closedOff (rewritten guarded text) := by
  have hwritten : Token.escaped = Token.written guarded := by
    funext token
    cases token <;> rfl
  rw [escape, hwritten]
  rfl

def backslashesAtEnd (text : Text) : Nat :=
  (text.reverse.takeWhile (· == '\\')).length

theorem exists_eq_append_backslashes (text : Text) :
    ∃ front, text = front ++ List.replicate (backslashesAtEnd text) '\\' ∧
      front.getLast? ≠ some '\\' := by
  have hrun : text.reverse.takeWhile (· == '\\') =
      List.replicate (backslashesAtEnd text) '\\' :=
    List.eq_replicate_iff.mpr ⟨rfl, fun d hd => by simpa using List.mem_takeWhile_imp hd⟩
  have hsplit := List.takeWhile_append_dropWhile (p := (· == '\\')) (l := text.reverse)
  refine ⟨(text.reverse.dropWhile (· == '\\')).reverse, ?_, fun hlast => ?_⟩
  · rw [hrun] at hsplit
    rw [← List.reverse_replicate, ← List.reverse_append, hsplit, List.reverse_reverse]
  · rw [List.getLast?_reverse] at hlast
    have hstop := List.head?_dropWhile_not (· == '\\') text.reverse
    rw [hlast] at hstop
    simp at hstop

theorem apart_backslashes {front : Text} (hfront : front.getLast? ≠ some '\\') (n : Nat)
    {tail : Text} (hhead : ∀ c, tail.head? = some c → startsMark c = false)
    (hfirst : OpensMark front → firstBracket? tail ≠ some ']') :
    Apart front (List.replicate n '\\' ++ tail) := by
  refine apart_of_opens (fun c hc => ?_) (fun hopens => ?_) fun hlast => absurd hlast hfront
  · cases n with
    | zero => exact hhead c hc
    | succ n =>
        cases hc
        rfl
  · have hsame : firstBracket? (List.replicate n '\\' ++ tail) = firstBracket? tail := by
      induction n with
      | zero => rfl
      | succ n ih => exact ih
    rw [hsame]
    exact hfirst hopens

theorem apart_backslashes_end {front : Text} (hfront : front.getLast? ≠ some '\\') (n : Nat) :
    Apart front (List.replicate n '\\') := by
  rw [← List.append_nil (List.replicate n '\\')]
  exact apart_backslashes hfront n (fun c hc => by cases hc) fun _ h => by cases h

theorem rewritten_append_backslashes (count : Nat → Nat) {front : Text}
    (hfront : front.getLast? ≠ some '\\') (n : Nat) :
    rewritten count (front ++ List.replicate n '\\') =
      rewritten count front ++ List.replicate n '\\' := by
  have hrun : '[' ∉ List.replicate n '\\' := fun h =>
    absurd (List.eq_of_mem_replicate h) (by decide)
  rw [rewritten_append count (apart_backslashes_end hfront n), rewritten_of_not_mem count hrun]

/-- A single backslash at the end is doubled; other numbers of them stay. -/
theorem closedOff_append_backslashes {front : Text} (hfront : front.getLast? ≠ some '\\')
    (n : Nat) :
    closedOff (front ++ List.replicate n '\\') =
      front ++ List.replicate (if n = 1 then 2 else n) '\\' := by
  match n with
  | 0 =>
      rw [if_neg (by omega), List.replicate_zero, List.append_nil,
        closedOff_of_getLast?_ne hfront]
  | 1 => exact closedOff_append_one hfront
  | n + 2 =>
      rw [if_neg (by omega), List.replicate_succ', List.replicate_succ', List.append_assoc,
        ← List.append_assoc]
      exact closedOff_append_two _

theorem escape_append_backslashes {front : Text} (hfront : front.getLast? ≠ some '\\') (n : Nat) :
    escape (front ++ List.replicate n '\\') =
      rewritten guarded front ++ List.replicate (if n = 1 then 2 else n) '\\' := by
  have hlast : (rewritten guarded front).getLast? ≠ some '\\' := by
    rwa [getLast?_rewritten]
  rw [escape_eq, rewritten_append_backslashes guarded hfront, closedOff_append_backslashes hlast]

theorem closedOff_append_cons {c : Char} (hc : c ≠ '\\') (text rest : Text) :
    closedOff (text ++ c :: rest) = text ++ c :: closedOff rest := by
  obtain ⟨front, hsplit, hfront⟩ := exists_eq_append_backslashes rest
  have hlast : (text ++ c :: front).getLast? ≠ some '\\' := by
    rw [List.getLast?_append, List.getLast?_cons]
    cases hend : front.getLast? with
    | none => simpa using hc
    | some d => simpa [hend] using hfront
  have hjoined := closedOff_append_backslashes hlast (backslashesAtEnd rest)
  have hrest := closedOff_append_backslashes hfront (backslashesAtEnd rest)
  rw [← hsplit] at hrest
  rw [hrest]
  simpa [← hsplit] using hjoined

end XmlCheck.Console
