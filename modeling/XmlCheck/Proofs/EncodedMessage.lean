import XmlCheck.Proofs.AnnotationLines
import XmlCheck.Proofs.TextReplacement

/-!
# Encoded messages

An encoded message is one line, and it reads back as the message. It can be made and read in turns
as well, one code at a time, if the percent sign is the first to be encoded and the last to be
decoded: while percent signs are encoded, each one that stands in the text begins a code, so no code
is mistaken for text and no text for a code.
-/

namespace XmlCheck

/-- Replacing one character is a substitution, character by character. -/
theorem Text.replaceAll_singleton (c : Char) (replacement text : Text) :
    replaceAll [c] replacement text = text.flatMap fun d => if d = c then replacement else [d] := by
  induction text with
  | nil => rfl
  | cons d text ih =>
      rw [List.flatMap_cons, ← ih]
      by_cases hd : d = c
      · rw [if_pos hd, hd]
        exact replaceAll_needle_append (List.cons_ne_nil c []) text
      · rw [if_neg hd]
        exact replaceAll_append_of_not_mem (mt List.mem_singleton.mp (Ne.symm hd)) text

theorem Text.replaceAll_cons_of_not_prefix {needle replacement rest : Text} {c : Char}
    (hneedle : needle ≠ []) (hhere : ¬ needle <+: c :: rest) :
    replaceAll needle replacement (c :: rest) = c :: replaceAll needle replacement rest := by
  have hempty := mt List.isEmpty_iff.mp hneedle
  unfold replaceAll
  rw [if_neg hempty, if_neg hempty, replaceFrom, if_neg (mt List.isPrefixOf_iff_prefix.mp hhere)]

/-- Replacing in a text that is written character by character, where no occurrence begins in what
is written for one character and ends behind it. -/
theorem Text.replaceAll_flatMap {needle replacement : Text} {write rewrite : Char → Text}
    (hneedle : needle ≠ [])
    (hwrite : ∀ c rest, replaceAll needle replacement (write c ++ rest) =
      rewrite c ++ replaceAll needle replacement rest) (text : Text) :
    replaceAll needle replacement (text.flatMap write) = text.flatMap rewrite := by
  induction text with
  | nil => exact replaceAll_of_length_lt (List.length_pos_iff.mpr hneedle)
  | cons c text ih => rw [List.flatMap_cons, hwrite, ih, List.flatMap_cons]

namespace Message

/-- The characters that have codes. -/
def coded : List Char := ['%', '\r', '\n']

def codes : List Text := ["%25", "%0D", "%0A"]

/-- A text without line ends in which each percent sign begins a code. -/
structure Encoded (text : Text) : Prop where
  unbroken : text.lineEnds = 0
  begins : ∀ rest, '%' :: rest <:+ text → ∃ code ∈ codes, code <+: '%' :: rest

/-- The message with its percent signs encoded, then its carriage returns, then its line feeds. -/
def encodeInTurn (message : Text) : Text :=
  Text.replaceAll ['\n'] "%0A" (Text.replaceAll ['\r'] "%0D" (Text.replaceAll ['%'] "%25" message))

/-- The text with its carriage returns decoded, then its line feeds, then its percent signs. -/
def decodeInTurn (text : Text) : Text :=
  Text.replaceAll "%25" ['%'] (Text.replaceAll "%0A" ['\n'] (Text.replaceAll "%0D" ['\r'] text))

theorem encode_append (first second : Text) :
    encode (first ++ second) = encode first ++ encode second :=
  List.flatMap_append

theorem encode_injective : Function.Injective encode :=
  Function.LeftInverse.injective decode_encode

theorem encodeInTurn_eq (message : Text) : encodeInTurn message = encode message := by
  unfold encodeInTurn encode
  rw [Text.replaceAll_singleton, Text.replaceAll_singleton, Text.replaceAll_singleton,
    List.flatMap_assoc, List.flatMap_assoc]
  congr 1
  funext c
  unfold encodeChar
  by_cases hpercent : c = '%'
  · rw [hpercent]
    rfl
  by_cases hreturn : c = '\r'
  · rw [hreturn]
    rfl
  · simp [hpercent, hreturn]

/-! ### Decoding in turns -/

theorem encodeChar_of_not_mem_coded {c : Char} (hc : c ∉ coded) : encodeChar c = [c] := by
  simp only [coded, List.mem_cons, List.not_mem_nil, or_false, not_or] at hc
  rw [encodeChar, if_neg hc.1, if_neg hc.2.1, if_neg hc.2.2]

theorem exists_encodeChar_of_mem_coded {c : Char} (hc : c ∈ coded) :
    ∃ first second, encodeChar c = ['%', first, second] ∧ first ≠ '%' ∧ second ≠ '%' := by
  simp only [coded, List.mem_cons, List.not_mem_nil, or_false] at hc
  rcases hc with rfl | rfl | rfl
  · exact ⟨'2', '5', rfl, by decide⟩
  · exact ⟨'0', 'D', rfl, by decide⟩
  · exact ⟨'0', 'A', rfl, by decide⟩

theorem encodeChar_injective : Function.Injective encodeChar := by
  intro c d hsame
  have hencode : encode [c] = encode [d] := by
    simp only [encode, List.flatMap_singleton, hsame]
  exact List.singleton_inj.mp (encode_injective hencode)

/-- A character is written as it is if it is one of some, and encoded otherwise. -/
def encodeCharBut (plain : List Char) (c : Char) : Text :=
  if c ∈ plain then [c] else encodeChar c

theorem replaceAll_encodeChar_append {c d : Char} (hc : c ∈ coded) (hd : d ∈ coded) (hne : d ≠ c)
    (rest : Text) : Text.replaceAll (encodeChar c) [c] (encodeChar d ++ rest) =
      encodeChar d ++ Text.replaceAll (encodeChar c) [c] rest := by
  obtain ⟨own, last, hcode, -, -⟩ := exists_encodeChar_of_mem_coded hc
  obtain ⟨first, second, hother, hfirst, hsecond⟩ := exists_encodeChar_of_mem_coded hd
  have hhere : ¬ encodeChar c <+: encodeChar d ++ rest := fun hbegins => by
    have hlength : (encodeChar c).length = (encodeChar d).length := by rw [hcode, hother]; rfl
    have hsame := List.prefix_of_prefix_length_le hbegins (List.prefix_append _ rest) hlength.le
    exact hne (encodeChar_injective (hsame.eq_of_length hlength)).symm
  rw [hother, List.cons_append] at hhere ⊢
  rw [Text.replaceAll_cons_of_not_prefix (by simp [hcode]) hhere, hcode,
    Text.replaceAll_append_of_not_mem (by simp [hfirst.symm, hsecond.symm])]
  rfl

/-- Decoding the code of one character, while percent signs are encoded. -/
theorem replaceAll_encodeChar (plain : List Char) (hplain : '%' ∉ plain) (c : Char)
    (hc : c ∈ coded) (message : Text) :
    Text.replaceAll (encodeChar c) [c] (message.flatMap (encodeCharBut plain)) =
      message.flatMap (encodeCharBut (c :: plain)) := by
  obtain ⟨first, second, hcode, -, -⟩ := exists_encodeChar_of_mem_coded hc
  have hne : encodeChar c ≠ [] := by simp [hcode]
  refine Text.replaceAll_flatMap hne (fun d rest => ?_) message
  have hpass : d ≠ '%' → Text.replaceAll (encodeChar c) [c] ([d] ++ rest) =
      [d] ++ Text.replaceAll (encodeChar c) [c] rest := by
    intro hpercent
    rw [hcode]
    exact Text.replaceAll_append_of_not_mem (by simpa using hpercent.symm) rest
  unfold encodeCharBut
  by_cases hd : d ∈ plain
  · rw [if_pos hd, if_pos (List.mem_cons_of_mem c hd)]
    exact hpass fun h => hplain (h ▸ hd)
  rw [if_neg hd]
  by_cases hsame : d = c
  · rw [hsame, if_pos List.mem_cons_self]
    exact Text.replaceAll_needle_append hne rest
  rw [if_neg (by simp [hsame, hd])]
  by_cases hother : d ∈ coded
  · exact replaceAll_encodeChar_append hc hother hsame rest
  · rw [encodeChar_of_not_mem_coded hother]
    exact hpass fun h => hother (h ▸ List.mem_cons_self)

theorem decodeInTurn_encode (message : Text) : decodeInTurn (encode message) = message := by
  have hreturn : Text.replaceAll "%0D" ['\r'] (encode message) =
      message.flatMap (encodeCharBut ['\r']) := by
    have hnone : encodeCharBut [] = encodeChar := funext fun c => if_neg List.not_mem_nil
    rw [encode, ← hnone]
    exact replaceAll_encodeChar [] (by decide) '\r' (by decide) message
  have hfeed : Text.replaceAll "%0A" ['\n'] (message.flatMap (encodeCharBut ['\r'])) =
      message.flatMap (encodeCharBut ['\n', '\r']) :=
    replaceAll_encodeChar ['\r'] (by decide) '\n' (by decide) message
  have hpercent : Text.replaceAll "%25" ['%'] (message.flatMap (encodeCharBut ['\n', '\r'])) =
      message.flatMap (encodeCharBut ['%', '\n', '\r']) :=
    replaceAll_encodeChar ['\n', '\r'] (by decide) '%' (by decide) message
  have hall : encodeCharBut ['%', '\n', '\r'] = fun c => [c] := by
    funext c
    unfold encodeCharBut
    split
    · rfl
    · rename_i hplain
      refine encodeChar_of_not_mem_coded fun hc => hplain ?_
      simp only [coded, List.mem_cons, List.not_mem_nil, or_false] at hc ⊢
      tauto
  rw [decodeInTurn, hreturn, hfeed, hpercent, hall, List.flatMap_singleton']

/-! ### Which texts are encoded -/

theorem Encoded.of_suffix {text rest : Text} (hencoded : Encoded text) (hrest : rest <:+ text) :
    Encoded rest := by
  refine ⟨?_, fun back hback => hencoded.begins back (hback.trans hrest)⟩
  obtain ⟨front, rfl⟩ := hrest
  have hends := hencoded.unbroken
  rw [Text.lineEnds_append] at hends
  omega

theorem encoded_encode (message : Text) : Encoded (encode message) := by
  refine ⟨lineEnds_encode message, ?_⟩
  induction message with
  | nil =>
      intro rest hrest
      exact absurd (List.suffix_nil.mp hrest) (List.cons_ne_nil _ _)
  | cons c message ih =>
      intro rest hrest
      have hcons : encode (c :: message) = encodeChar c ++ encode message := List.flatMap_cons
      rw [hcons] at hrest
      by_cases hc : c ∈ coded
      · have hmem : encodeChar c ∈ codes := List.mem_map_of_mem hc
        obtain ⟨first, second, hcode, hfirst, hsecond⟩ := exists_encodeChar_of_mem_coded hc
        rw [hcode] at hrest
        simp only [List.cons_append, List.nil_append, List.suffix_cons_iff, List.cons.injEq,
          hfirst.symm, hsecond.symm, false_and, false_or, true_and] at hrest
        rcases hrest with rfl | hlater
        · exact ⟨_, hmem, hcode ▸ List.prefix_append ['%', first, second] (encode message)⟩
        · exact ih rest hlater
      · rw [encodeChar_of_not_mem_coded hc, List.singleton_append, List.suffix_cons_iff] at hrest
        rcases hrest with hhere | hlater
        · exact absurd ((List.cons.inj hhere).1 ▸ List.mem_cons_self) hc
        · exact ih rest hlater

theorem encode_decode {text : Text} (hencoded : Encoded text) : encode (decode text) = text := by
  have hbehind : ∀ front rest : Text, Encoded (front ++ rest) → Encoded rest :=
    fun front rest hwhole => hwhole.of_suffix (List.suffix_append front rest)
  fun_induction decode text with
  | case1 rest ih => exact congrArg (['%', '2', '5'] ++ ·) (ih (hbehind ['%', '2', '5'] _ hencoded))
  | case2 rest ih => exact congrArg (['%', '0', 'D'] ++ ·) (ih (hbehind ['%', '0', 'D'] _ hencoded))
  | case3 rest ih => exact congrArg (['%', '0', 'A'] ++ ·) (ih (hbehind ['%', '0', 'A'] _ hencoded))
  | case4 c rest hpercent hreturn hfeed ih =>
      have hends := List.countP_eq_zero.mp hencoded.unbroken c List.mem_cons_self
      have hc : c ∉ coded := by
        intro hc
        simp only [coded, List.mem_cons, List.not_mem_nil, or_false] at hc
        rcases hc with rfl | rfl | rfl
        · -- a percent sign begins one of the codes, and none of them stands here
          obtain ⟨code, hmem, more, hcode⟩ := hencoded.begins rest (List.suffix_refl _)
          simp only [codes, List.mem_cons, List.not_mem_nil, or_false] at hmem
          rcases hmem with rfl | rfl | rfl
          · exact hpercent more rfl (List.cons.inj hcode).2.symm
          · exact hreturn more rfl (List.cons.inj hcode).2.symm
          · exact hfeed more rfl (List.cons.inj hcode).2.symm
        · exact hends rfl
        · exact hends rfl
      have hcons : encode (c :: decode rest) = encodeChar c ++ encode (decode rest) :=
        List.flatMap_cons
      rw [hcons, encodeChar_of_not_mem_coded hc, ih (hbehind [c] rest hencoded)]
      rfl
  | case5 => rfl

/-- An encoded message is one line in which each percent sign begins a code, and every such line is
an encoded message. It reads back as the message, from left to right or one code after the other
with the percent sign last, so no two messages are encoded alike. Encoding goes piece by piece, and
is the same if the codes are put in one after the other with the percent sign first. -/
theorem encode_reversible (message : Text) :
    Encoded (encode message) ∧
    decode (encode message) = message ∧
    decodeInTurn (encode message) = message ∧
    (∀ other, encode message = encode other ↔ message = other) ∧
    (∀ more, encode (message ++ more) = encode message ++ encode more) ∧
    encodeInTurn message = encode message ∧
    ∀ text, Encoded text ↔ encode (decode text) = text := by
  refine ⟨encoded_encode message, decode_encode message, decodeInTurn_encode message,
    fun other => encode_injective.eq_iff, encode_append message, encodeInTurn_eq message,
    fun text => ⟨encode_decode, fun hencode => ?_⟩⟩
  rw [← hencode]
  exact encoded_encode (decode text)

end Message

end XmlCheck
