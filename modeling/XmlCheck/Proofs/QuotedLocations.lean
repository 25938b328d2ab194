import XmlCheck.File.Path
import XmlCheck.Proofs.OctetsOfText
import XmlCheck.Proofs.TextReplacement
import XmlCheck.Schema.Fault

/-!
# Locations between marks

The library's words for a failure quote names, values and locations between marks. No path of a
file without marks can lie across one, so a text is searched, and replaced in, piece by piece
(`Telling`). The words between the pieces are the library's own, but for a few texts that it takes
over without marks (`FaultCause.bare`, `Problem.taken`): without those they have at most one slash,
which is fewer than the path of anything below a directory has.
-/

namespace XmlCheck

/-! ### Texts of paths -/

theorem Text.join_append (separator : Text) {front back : List Text} (hfront : front ≠ [])
    (hback : back ≠ []) :
    join separator (front ++ back) = join separator front ++ separator ++ join separator back := by
  induction front with
  | nil => exact absurd rfl hfront
  | cons text front ih =>
      cases front with
      | nil =>
          obtain ⟨next, more, rfl⟩ := List.exists_cons_of_ne_nil hback
          rfl
      | cons next more =>
          have hrest := ih (List.cons_ne_nil next more)
          simp only [List.cons_append, join, List.append_assoc] at hrest ⊢
          rw [hrest]

theorem Text.mem_join {separator : Text} {texts : List Text} {c : Char}
    (hc : c ∈ join separator texts) : c ∈ separator ∨ ∃ text ∈ texts, c ∈ text := by
  induction texts with
  | nil => cases hc
  | cons text texts ih =>
      cases texts with
      | nil => exact .inr ⟨text, List.mem_singleton_self text, hc⟩
      | cons next more =>
          simp only [join, List.mem_append] at hc
          rcases hc with (htext | hseparator) | hrest
          · exact .inr ⟨text, List.mem_cons_self, htext⟩
          · exact .inl hseparator
          · refine (ih hrest).imp_right ?_
            rintro ⟨other, hother, hmem⟩
            exact ⟨other, List.mem_cons_of_mem text hother, hmem⟩

namespace FilePath

def addressOctet (b : UInt8) : Text :=
  if isAddressChar b then [Char.ofNat b.toNat] else percentOctet b

theorem toAddress_eq (path : FilePath) :
    path.toAddress = ("file://" : Text) ++ (Utf8.encode path.toText).flatMap addressOctet :=
  rfl

theorem toText_ofParts_append {root below : List Text} (hroot : root ≠ []) (hbelow : below ≠ []) :
    (ofParts (root ++ below)).toText =
      (ofParts root).toText ++ ['/'] ++ Text.join ['/'] below := by
  change '/' :: Text.join ['/'] (root ++ below) = _
  rw [Text.join_append ['/'] hroot hbelow]
  rfl

theorem toAddress_ofParts_append {root below : List Text} (hroot : root ≠ [])
    (hbelow : below ≠ []) :
    (ofParts (root ++ below)).toAddress = (ofParts root).toAddress ++ ['/'] ++
      (Utf8.encode (Text.join ['/'] below)).flatMap addressOctet := by
  have hslash : (Utf8.encode ['/']).flatMap addressOctet = ['/'] := by decide
  rw [toAddress_eq, toAddress_eq, toText_ofParts_append hroot hbelow]
  simp only [Utf8.encode, List.flatMap_append] at hslash ⊢
  rw [hslash]
  simp only [List.append_assoc]

/-- The marks that the library puts around locations. -/
def IsMark (c : Char) : Prop :=
  c = '\'' ∨ c = '"'

/-- Characters that an address has codes for: the marks, and the blank. -/
def IsCoded (c : Char) : Prop :=
  IsMark c ∨ c = ' '

theorem not_isCoded_of_isAddressChar {b : UInt8} (hb : isAddressChar b = true) :
    ¬ IsCoded (Char.ofNat b.toNat) := by
  rintro ((hcoded | hcoded) | hcoded)
  all_goals
    have hvalue := Utf8.toNat_ofNat_octet b
    rw [hcoded] at hvalue
    simp [isAddressChar, ← hvalue] at hb

theorem not_isCoded_of_mem_percentOctet {b : UInt8} {c : Char} (hc : c ∈ percentOctet b) :
    ¬ IsCoded c := by
  have hdigit : ∀ n, n < 16 → ¬ IsCoded (Nat.digitChar n).toUpper := by
    unfold IsCoded IsMark
    decide
  have hb := b.toNat_lt
  simp only [percentOctet, List.mem_cons, List.not_mem_nil, or_false] at hc
  rcases hc with rfl | rfl | rfl
  · unfold IsCoded IsMark
    decide
  · exact hdigit _ (by omega)
  · exact hdigit _ (by omega)

theorem not_isCoded_of_mem_toAddress {path : FilePath} {c : Char} (hc : c ∈ path.toAddress) :
    ¬ IsCoded c := by
  rw [toAddress_eq] at hc
  rcases List.mem_append.mp hc with hscheme | hoctets
  · rintro ((rfl | rfl) | rfl) <;> exact absurd hscheme (by decide)
  · obtain ⟨b, -, hb⟩ := List.mem_flatMap.mp hoctets
    unfold addressOctet at hb
    split at hb
    · rename_i hown
      rw [List.mem_singleton.mp hb]
      exact not_isCoded_of_isAddressChar hown
    · exact not_isCoded_of_mem_percentOctet hb

theorem not_isMark_of_mem_toAddress {path : FilePath} {c : Char} (hc : c ∈ path.toAddress) :
    ¬ IsMark c :=
  fun hmark => not_isCoded_of_mem_toAddress hc (.inl hmark)

theorem length_le_encode (text : Text) : text.length ≤ (Utf8.encode text).length := by
  induction text with
  | nil => exact Nat.le_refl 0
  | cons c rest ih =>
      have hone : 1 ≤ (Utf8.encodeChar c).length := by
        simp only [Utf8.encodeChar]
        split_ifs <;> simp
      have hcons : Utf8.encode (c :: rest) = Utf8.encodeChar c ++ Utf8.encode rest :=
        List.flatMap_cons
      rw [hcons, List.length_append, List.length_cons]
      omega

theorem length_le_flatMap_addressOctet (octets : List UInt8) :
    octets.length ≤ (octets.flatMap addressOctet).length := by
  induction octets with
  | nil => exact Nat.le_refl 0
  | cons b rest ih =>
      have hone : 1 ≤ (addressOctet b).length := by
        unfold addressOctet percentOctet
        split <;> simp
      rw [List.flatMap_cons, List.length_append, List.length_cons]
      omega

theorem length_toText_lt_toAddress (path : FilePath) :
    path.toText.length < path.toAddress.length := by
  have hscheme : ("file://" : Text).length = 7 := rfl
  have hencode := length_le_encode path.toText
  have hoctets := length_le_flatMap_addressOctet (Utf8.encode path.toText)
  rw [toAddress_eq, List.length_append, hscheme]
  omega

theorem mem_toText {place : List Text} {c : Char} (hc : c ∈ (ofParts place).toText) :
    c = '/' ∨ ∃ name ∈ place, c ∈ name := by
  have htext : (ofParts place).toText = '/' :: Text.join ['/'] place := rfl
  rw [htext] at hc
  rcases List.mem_cons.mp hc with rfl | hjoin
  · exact .inl rfl
  · exact (Text.mem_join hjoin).imp_left List.mem_singleton.mp

theorem not_isMark_of_mem_toText {place : List Text}
    (hmarks : ∀ name ∈ place, ∀ c ∈ name, ¬ IsMark c) {c : Char}
    (hc : c ∈ (ofParts place).toText) : ¬ IsMark c := by
  rcases mem_toText hc with rfl | ⟨name, hname, hmem⟩
  · unfold IsMark
    decide
  · exact hmarks name hname c hmem

end FilePath

/-- A text in which the path or the address of something below a root may stand in full: what all of
those begin with stands there. -/
def Shows (root : List Text) (text : Text) : Prop :=
  (FilePath.ofParts root).toText ++ ['/'] <:+: text ∨
    (FilePath.ofParts root).toAddress ++ ['/'] <:+: text

theorem shows_of_within {root below : List Text} (hroot : root ≠ []) (hbelow : below ≠ [])
    {text : Text} (hwithin : (FilePath.ofParts (root ++ below)).toText <:+: text ∨
      (FilePath.ofParts (root ++ below)).toAddress <:+: text) : Shows root text := by
  rw [FilePath.toText_ofParts_append hroot hbelow,
    FilePath.toAddress_ofParts_append hroot hbelow] at hwithin
  exact hwithin.imp (List.prefix_append _ _).isInfix.trans (List.prefix_append _ _).isInfix.trans

/-- What those begin with has at least two slashes. -/
theorem not_shows_of_count {root : List Text} {text : Text} (hfew : text.count '/' ≤ 1) :
    ¬ Shows root text := by
  have hscheme : ("file://" : Text).count '/' = 2 := by decide
  rintro (hpath | haddress)
  · have hcount := hpath.sublist.count_le '/'
    have htext : (FilePath.ofParts root).toText = '/' :: Text.join ['/'] root := rfl
    rw [htext, List.count_append, List.count_cons_self, List.count_singleton_self] at hcount
    omega
  · have hcount := haddress.sublist.count_le '/'
    rw [FilePath.toAddress_eq, List.count_append, List.count_append, hscheme] at hcount
    omega

theorem shows_append_cons_iff {root : List Text} {c : Char} (hmark : FilePath.IsMark c)
    (hroot : ∀ name ∈ root, ∀ d ∈ name, ¬ FilePath.IsMark d) (front back : Text) :
    Shows root (front ++ c :: back) ↔ Shows root front ∨ Shows root back := by
  have hslash : c ≠ '/' := by
    rintro rfl
    exact absurd hmark (by unfold FilePath.IsMark; decide)
  have hpath : c ∉ (FilePath.ofParts root).toText ++ ['/'] := by
    simp only [List.mem_append, List.mem_singleton, not_or]
    exact ⟨fun h => FilePath.not_isMark_of_mem_toText hroot h hmark, hslash⟩
  have haddress : c ∉ (FilePath.ofParts root).toAddress ++ ['/'] := by
    simp only [List.mem_append, List.mem_singleton, not_or]
    exact ⟨fun h => FilePath.not_isMark_of_mem_toAddress h hmark, hslash⟩
  unfold Shows
  rw [Text.infix_append_cons_iff hpath, Text.infix_append_cons_iff haddress, or_or_or_comm]

/-! ### Texts that quote locations -/

namespace Schema

open FilePath (IsMark)

/-- A location between two marks, and the words behind it. -/
structure Quote where
  mark : Char
  location : Text
  words : Text

/-- Words in which locations are quoted. -/
structure Telling where
  opening : Text
  quotes : List Quote

namespace Telling

def text (telling : Telling) : Text :=
  telling.opening ++ telling.quotes.flatMap fun quote =>
    quote.mark :: quote.location ++ quote.mark :: quote.words

def map (f : Text → Text) (telling : Telling) : Telling :=
  { opening := f telling.opening
    quotes := telling.quotes.map fun quote =>
      { quote with location := f quote.location, words := f quote.words } }

def Marked (telling : Telling) : Prop :=
  ∀ quote ∈ telling.quotes, IsMark quote.mark

def words (telling : Telling) : List Text :=
  telling.opening :: telling.quotes.map (·.words)

def locations (telling : Telling) : List Text :=
  telling.quotes.map (·.location)

theorem text_cons (opening : Text) (quote : Quote) (quotes : List Quote) :
    text ⟨opening, quote :: quotes⟩ = opening ++ quote.mark :: (quote.location ++
      quote.mark :: text ⟨quote.words, quotes⟩) := by
  simp only [text, List.flatMap_cons, List.cons_append, List.append_assoc]

theorem text_nil (opening : Text) : text ⟨opening, []⟩ = opening :=
  List.append_nil opening

/-- Replacing goes on between the marks if the needle has none. -/
theorem replaceAll_text {needle replacement : Text} (hneedle : ∀ c ∈ needle, ¬ IsMark c)
    {telling : Telling} (hmarked : telling.Marked) :
    Text.replaceAll needle replacement telling.text =
      (telling.map (Text.replaceAll needle replacement)).text := by
  obtain ⟨opening, quotes⟩ := telling
  induction quotes generalizing opening with
  | nil => rw [text_nil, map, List.map_nil, text_nil]
  | cons quote quotes ih =>
      have hmark : quote.mark ∉ needle :=
        fun h => hneedle _ h (hmarked quote List.mem_cons_self)
      have hrest := ih quote.words fun other hother =>
        hmarked other (List.mem_cons_of_mem quote hother)
      rw [text_cons, Text.replaceAll_append_cons hmark, Text.replaceAll_append_cons hmark, hrest,
        map, map, List.map_cons, text_cons]

theorem shows_text_iff {root : List Text} (hroot : ∀ name ∈ root, ∀ c ∈ name, ¬ IsMark c)
    {telling : Telling} (hmarked : telling.Marked) :
    Shows root telling.text ↔
      (∃ words ∈ telling.words, Shows root words) ∨
        ∃ location ∈ telling.locations, Shows root location := by
  obtain ⟨opening, quotes⟩ := telling
  induction quotes generalizing opening with
  | nil => simp [text_nil, words, locations]
  | cons quote quotes ih =>
      have hmark := hmarked quote List.mem_cons_self
      have hrest := ih quote.words fun other hother =>
        hmarked other (List.mem_cons_of_mem quote hother)
      rw [text_cons, shows_append_cons_iff hmark hroot, shows_append_cons_iff hmark hroot, hrest]
      simp only [words, locations, List.map_cons, List.exists_mem_cons_iff]
      exact (or_congr_right or_left_comm).trans or_assoc.symm

/-- The same words around one location. -/
def relocate (location : Text) (telling : Telling) : Telling :=
  { telling with quotes := telling.quotes.map fun quote => { quote with location } }

/-- Replacing finds each location that is the needle, if the words do not even have the first
character of it. -/
theorem replaceAll_text_of_not_mem {c : Char} {rest replacement : Text} {telling : Telling}
    (hc : ¬ IsMark c) (hmarked : telling.Marked) (hwords : ∀ words ∈ telling.words, c ∉ words)
    (hlocations : ∀ location ∈ telling.locations, location = c :: rest) :
    Text.replaceAll (c :: rest) replacement telling.text =
      (telling.relocate replacement).text := by
  obtain ⟨opening, quotes⟩ := telling
  have hopening : c ∉ opening := hwords opening List.mem_cons_self
  induction quotes generalizing opening with
  | nil =>
      rw [relocate, List.map_nil, text_nil]
      exact Text.replaceAll_of_not_infix fun h => hopening (h.subset List.mem_cons_self)
  | cons quote quotes ih =>
      have hfront : c ∉ opening ++ [quote.mark] := by
        simp only [List.mem_append, List.mem_singleton, not_or]
        exact ⟨hopening, fun h => hc (h ▸ hmarked quote List.mem_cons_self)⟩
      have hmark : c ∉ [quote.mark] := fun h => hfront (List.mem_append_right _ h)
      have hbehind : c ∉ quote.words :=
        hwords quote.words (List.mem_cons_of_mem _ List.mem_cons_self)
      have hlocation : quote.location = c :: rest := hlocations _ List.mem_cons_self
      have hrest := ih quote.words
        (fun other hother => hmarked other (List.mem_cons_of_mem quote hother))
        (fun words hmem => hwords words (List.mem_cons_of_mem opening hmem))
        (fun location hmem => hlocations location (List.mem_cons_of_mem _ hmem)) hbehind
      have hskip : Text.replaceAll (c :: rest) replacement
          (quote.mark :: text ⟨quote.words, quotes⟩) =
            quote.mark :: text (relocate replacement ⟨quote.words, quotes⟩) :=
        hrest ▸ Text.replaceAll_append_of_not_mem hmark _
      rw [text_cons, List.append_cons, Text.replaceAll_append_of_not_mem hfront, hlocation,
        Text.replaceAll_needle_append (List.cons_ne_nil c rest), hskip, relocate, relocate,
        List.map_cons, text_cons, ← List.append_cons]

theorem map_eq_self {f : Text → Text} {telling : Telling}
    (hwords : ∀ words ∈ telling.words, f words = words)
    (hlocations : ∀ location ∈ telling.locations, f location = location) :
    telling.map f = telling := by
  obtain ⟨opening, quotes⟩ := telling
  have hquotes : (map f ⟨opening, quotes⟩).quotes = quotes := by
    refine (List.map_congr_left fun quote hquote => ?_).trans (List.map_id quotes)
    have hlocation := hlocations _ (List.mem_map_of_mem hquote)
    have hword := hwords _ (List.mem_cons_of_mem opening (List.mem_map_of_mem hquote))
    rw [hlocation, hword]
    rfl
  have hopening : f opening = opening := hwords opening List.mem_cons_self
  rw [map, hopening]
  exact congrArg (Telling.mk opening) hquotes

theorem map_map (f g : Text → Text) (telling : Telling) :
    (telling.map f).map g = telling.map (g ∘ f) := by
  simp [map]

theorem Marked.map {telling : Telling} (hmarked : telling.Marked) (f : Text → Text) :
    (telling.map f).Marked := by
  intro quote hquote
  obtain ⟨original, horiginal, rfl⟩ := List.mem_map.mp hquote
  exact hmarked original horiginal

def plain (words : Text) : Telling :=
  ⟨words, []⟩

/-- A text between the usual marks, and the words around it. -/
def around (before location after : Text) : Telling :=
  ⟨before, [⟨'\'', location, after⟩]⟩

def appendFrom (opening : Text) (quotes : List Quote) (second : Telling) : Telling :=
  match quotes with
  | [] => { second with opening := opening ++ second.opening }
  | quote :: quotes =>
    let behind := appendFrom quote.words quotes second
    ⟨opening, { quote with words := behind.opening } :: behind.quotes⟩

/-- One telling behind another: the last words of the first one and the first words of the second
one are one piece. -/
def append (first second : Telling) : Telling :=
  appendFrom first.opening first.quotes second

variable {first second : Telling}

theorem text_plain (words : Text) : (plain words).text = words :=
  text_nil words

theorem text_around (before location after : Text) :
    (around before location after).text = before ++ Facet.marked location ++ after := by
  rw [around, text_cons, text_nil]
  simp only [Facet.marked, List.append_assoc, List.cons_append, List.nil_append]

theorem text_append (first second : Telling) :
    (first.append second).text = first.text ++ second.text := by
  obtain ⟨opening, quotes⟩ := first
  change (appendFrom opening quotes second).text = text ⟨opening, quotes⟩ ++ second.text
  induction quotes generalizing opening with
  | nil => rw [text_nil]; exact List.append_assoc _ _ _
  | cons quote quotes ih =>
      rw [appendFrom, text_cons, text_cons]
      change opening ++ quote.mark :: (quote.location ++ quote.mark ::
        (appendFrom quote.words quotes second).text) = _
      rw [ih quote.words]
      simp only [List.append_assoc, List.cons_append]

theorem text_append_around (first : Telling) (location after : Text) :
    (first.append (around [] location after)).text =
      first.text ++ Facet.marked location ++ after := by
  rw [text_append, text_around, List.nil_append, List.append_assoc]

theorem text_append_around_around (before location between other after : Text) :
    ((around before location between).append (around [] other after)).text =
      before ++ Facet.marked location ++ between ++ Facet.marked other ++ after := by
  rw [text_append_around, text_around]

theorem marked_plain (words : Text) : (plain words).Marked :=
  fun _ hquote => absurd hquote List.not_mem_nil

theorem marked_around (before location after : Text) : (around before location after).Marked := by
  intro quote hquote
  rw [List.mem_singleton.mp hquote]
  exact .inl rfl

theorem Marked.append (hfirst : first.Marked) (hsecond : second.Marked) :
    (first.append second).Marked := by
  obtain ⟨opening, quotes⟩ := first
  change (appendFrom opening quotes second).Marked
  induction quotes generalizing opening with
  | nil => exact hsecond
  | cons quote quotes ih =>
      intro other hother
      rcases List.mem_cons.mp hother with rfl | hbehind
      · exact hfirst quote List.mem_cons_self
      · exact ih quote.words (fun q hq => hfirst q (List.mem_cons_of_mem quote hq)) other hbehind

/-- Words with a bounded number of slashes in each piece. -/
def Sparse (most : Nat) (telling : Telling) : Prop :=
  ∀ words ∈ telling.words, words.count '/' ≤ most

variable {most more : Nat}

theorem Sparse.mono (hfirst : first.Sparse most) (hle : most ≤ more) : first.Sparse more :=
  fun words hmem => (hfirst words hmem).trans hle

theorem sparse_plain {words : Text} (hwords : words.count '/' ≤ most) : (plain words).Sparse most :=
  List.forall_mem_singleton.mpr hwords

/-- The last words of the first one get the first words of the second one. -/
theorem Sparse.append_of_opening (hfirst : first.Sparse most)
    (hopening : second.opening.count '/' ≤ more) (hsecond : second.Sparse (most + more)) :
    (first.append second).Sparse (most + more) := by
  obtain ⟨opening, quotes⟩ := first
  have hhead : opening.count '/' ≤ most := hfirst opening List.mem_cons_self
  change (appendFrom opening quotes second).Sparse (most + more)
  induction quotes generalizing opening with
  | nil =>
      intro words hmem
      rcases List.mem_cons.mp hmem with rfl | hrest
      · change (opening ++ second.opening).count '/' ≤ most + more
        rw [List.count_append]
        exact Nat.add_le_add hhead hopening
      · exact hsecond words (List.mem_cons_of_mem _ hrest)
  | cons quote quotes ih =>
      have hquotes : Sparse most ⟨quote.words, quotes⟩ := fun words hmem =>
        hfirst words (List.mem_cons_of_mem opening hmem)
      intro words hmem
      rcases List.mem_cons.mp hmem with rfl | hrest
      · exact hhead.trans (Nat.le_add_right most more)
      · exact ih quote.words hquotes (hquotes quote.words List.mem_cons_self) words hrest

theorem Sparse.append (hfirst : first.Sparse most) (hsecond : second.Sparse more) :
    (first.append second).Sparse (most + more) :=
  hfirst.append_of_opening (hsecond second.opening List.mem_cons_self)
    (hsecond.mono (Nat.le_add_left more most))

theorem sparse_around {before location after : Text} (hbefore : before.count '/' ≤ most)
    (hafter : after.count '/' ≤ most) : (around before location after).Sparse most := by
  intro words hmem
  rcases List.mem_pair.mp hmem with rfl | rfl
  · exact hbefore
  · exact hafter

theorem Sparse.append_around {location after : Text} (hfirst : first.Sparse most)
    (hafter : after.count '/' ≤ most) :
    (first.append (around [] location after)).Sparse most := by
  have hlater : (around [] location after).Sparse (most + 0) :=
    sparse_around (Nat.zero_le most) hafter
  exact hfirst.append_of_opening (Nat.le_refl 0) hlater

end Telling

end Schema

/-! ### Words without a slash -/

/-- Words that no path of something below the file system's root can stand in. -/
def SlashFree (text : Text) : Prop :=
  '/' ∉ text

namespace SlashFree

theorem words {chars : List Char} (hnone : '/' ∉ chars) :
    SlashFree (String.ofList chars).toList := by
  rwa [SlashFree, String.toList_ofList]

theorem nil : SlashFree [] :=
  List.not_mem_nil

theorem cons {c : Char} {text : Text} (hc : '/' ≠ c) (htext : SlashFree text) :
    SlashFree (c :: text) :=
  fun h => (List.mem_cons.mp h).elim hc htext

theorem append {front back : Text} (hfront : SlashFree front) (hback : SlashFree back) :
    SlashFree (front ++ back) :=
  fun h => (List.mem_append.mp h).elim hfront hback

theorem count_le {text : Text} (htext : SlashFree text) (most : Nat) : text.count '/' ≤ most :=
  (List.count_eq_zero.mpr htext).trans_le (Nat.zero_le most)

theorem quotedPart {before name after : Text} (hbefore : SlashFree before) (hname : SlashFree name)
    (hafter : SlashFree after) : SlashFree (Xml.quotedPart before name after) :=
  (hbefore.append hname).append hafter

theorem ofNat (n : Nat) : SlashFree (Text.ofNat n) := by
  intro hslash
  have hdigit := Nat.isDigit_of_mem_toDigits (by decide) (by decide) hslash
  exact absurd hdigit (by decide)

end SlashFree

/-! ### What faults are told with -/

namespace Xml.Problem

/-- What a message takes over from the document: names, values and excerpts. -/
def taken : Problem → List Text
  | startTagOpen name _ | attributeTwice name | dataEnds name _ | badQName name
  | entityUndefined name | entityUnparsed name | entityExternal name | unknownEncoding name
  | entityNotClosed name | parameterUndefined name => [name]
  | valueMissing key => [key]
  | lessInEntity entity => [entity]
  | attributeTwiceInSpace name space => [name, space]
  | tagMismatch name _ found => [name, found]
  | unboundElement binder name => [binder, name]
  | unboundAttribute binder key element => [binder, key, element]
  | emptySpace binder => [binder]
  | badSpace none space => [space]
  | badSpace (some binder) space => [binder, space]
  | badVersion version => [version]
  | targetHasColon target | instructionBlank target | instructionOpen target => [target]
  | doubleHyphen (some before) | commentOpen (some before) | cdataOpen (some before) =>
    [excerpt before]
  | spaceRequired afterWhat => [afterWhat]
  | ampersandInEntityValue sign => [[sign]]
  | semicolonInEntityValue sign name => [sign :: name]
  | colonInName kind name => [kind, name]
  | _ => []

/-- The words of a message have no slash: it can only come from the document. -/
theorem slashFree_message {problem : Problem} (htaken : ∀ text ∈ problem.taken, SlashFree text) :
    SlashFree problem.message := by
  cases problem with
  | lessInEntity name | attributeTwice name | badQName name | emptySpace name | badVersion name
  | targetHasColon name | instructionBlank name | instructionOpen name | entityUndefined name
  | entityExternal name | entityNotClosed name | parameterUndefined name =>
      exact .quotedPart (.words (by decide)) (htaken name (.head _)) (.words (by decide))
  | valueMissing name | unknownEncoding name | entityUnparsed name | spaceRequired name =>
      exact .append (.words (by decide)) (htaken name (.head _))
  | badCharInComment code | badCharCode code | badChar code =>
      exact .append (.words (by decide)) (.ofNat code)
  | startTagOpen name line | dataEnds name line =>
      exact (((SlashFree.words (by decide)).append (htaken name (.head _))).append
        (.words (by decide))).append (.ofNat line)
  | attributeTwiceInSpace name space =>
      exact ((((SlashFree.words (by decide)).append (htaken name (.head _))).append
        (.words (by decide))).append (htaken space (.tail _ (.head _)))).append (.words (by decide))
  | tagMismatch name line found =>
      exact (((((SlashFree.words (by decide)).append (htaken name (.head _))).append
        (.words (by decide))).append (.ofNat line)).append (.words (by decide))).append
          (htaken found (.tail _ (.head _)))
  | unboundElement binder name =>
      exact ((((SlashFree.words (by decide)).append (htaken binder (.head _))).append
        (.words (by decide))).append (htaken name (.tail _ (.head _)))).append (.words (by decide))
  | unboundAttribute binder key element =>
      exact ((((((SlashFree.words (by decide)).append (htaken binder (.head _))).append
        (.words (by decide))).append (htaken key (.tail _ (.head _)))).append
          (.words (by decide))).append (htaken element (.tail _ (.tail _ (.head _))))).append
            (.words (by decide))
  | badSpace binder space =>
      cases binder with
      | none => exact .quotedPart (.words (by decide)) (htaken space (.head _)) (.words (by decide))
      | some binder =>
          exact ((((SlashFree.words (by decide)).append (htaken binder (.head _))).append
            (.words (by decide))).append (htaken space (.tail _ (.head _)))).append
              (.words (by decide))
  | doubleHyphen before | commentOpen before | cdataOpen before =>
      cases before with
      | none => exact .words (by decide)
      | some before => exact .append (.words (by decide)) (htaken (excerpt before) (.head _))
  | tooDeep limit => exact .quotedPart (.words (by decide)) (.ofNat limit) (.words (by decide))
  | ampersandInEntityValue sign =>
      have hbehind : SlashFree "' forbidden except for entities references".toList :=
        .words (by decide)
      exact .append (.words (by decide)) (.append (htaken [sign] (.head _)) hbehind)
  | semicolonInEntityValue sign name =>
      exact ((SlashFree.words (by decide)).append (htaken (sign :: name) (.head _))).append
        (.words (by decide))
  | colonInName kind name =>
      exact ((((SlashFree.words (by decide)).append (htaken kind (.head _))).append
        (.words (by decide))).append (htaken name (.tail _ (.head _)))).append (.words (by decide))
  | _ => exact .words (by decide)
end Xml.Problem

namespace Schema

open Telling

theorem sparse_plain_of_slashFree {words : Text} (hwords : SlashFree words) (most : Nat) :
    (plain words).Sparse most :=
  sparse_plain (hwords.count_le most)

theorem sparse_around_of_slashFree {before location after : Text} (hbefore : SlashFree before)
    (hafter : SlashFree after) (most : Nat) : (around before location after).Sparse most :=
  sparse_around (hbefore.count_le most) (hafter.count_le most)

theorem ComponentKind.slashFree_toText (kind : ComponentKind) : SlashFree kind.toText := by
  cases kind <;> exact .words (by decide)

namespace Subject

def bare : Subject → List Text
  | attributeUse name _ => [name]
  | simpleType _ variety _ => [variety]
  | _ => []

def namedTelling (kind : Text) (name : Option Text) : Telling :=
  match name with
  | some name => around (kind ++ " ") name []
  | none => plain (("local " : Text) ++ kind)

def narrowedTelling (subject : Telling) (key : Option Text) : Telling :=
  match key with
  | some name => subject.append (around ", attribute " name [])
  | none => subject

def telling : Subject → Telling
  | node name => around "Element " name.toText []
  | nodeAttribute name key => narrowedTelling (around "Element " name.toText []) (some key)
  | elementDeclaration name key => narrowedTelling (around "element decl. " name []) key
  | attributeDeclaration name key => narrowedTelling (around "attribute decl. " name []) key
  | attributeUse name key => narrowedTelling (plain (("attribute use " : Text) ++ name)) key
  | simpleType name variety key => narrowedTelling (namedTelling (variety ++ " type") name) key
  | complexType name key => narrowedTelling (namedTelling "complex type" name) key
  | keyReference name key => narrowedTelling (around "keyRef " name []) key
  | document => plain []

theorem text_namedTelling (kind : Text) (name : Option Text) :
    (namedTelling kind name).text = named kind name := by
  cases name with
  | none => exact text_plain _
  | some name =>
      rw [namedTelling, text_around, List.append_nil]
      rfl

theorem text_narrowedTelling (subject : Telling) (key : Option Text) :
    (narrowedTelling subject key).text = narrowed subject.text key := by
  cases key with
  | none => rfl
  | some name =>
      rw [narrowedTelling, text_append, text_around, List.append_nil]
      exact (List.append_assoc subject.text _ _).symm

theorem text_telling (subject : Subject) : subject.telling.text = subject.toText := by
  have haround (kind name : Text) : (around kind name []).text = kind ++ Facet.marked name :=
    (text_around kind name []).trans (List.append_nil _)
  cases subject with
  | node name => exact haround _ _
  | document => rfl
  | simpleType name variety key | complexType name key =>
      exact (text_narrowedTelling _ key).trans
        (congrArg (narrowed · key) (text_namedTelling _ name))
  | attributeUse name key =>
      exact (text_narrowedTelling _ key).trans (congrArg (narrowed · key) (text_plain _))
  | nodeAttribute name key =>
      exact (text_narrowedTelling _ (some key)).trans
        (congrArg (narrowed · (some key)) (haround _ _))
  | elementDeclaration name key | attributeDeclaration name key | keyReference name key =>
      exact (text_narrowedTelling _ key).trans (congrArg (narrowed · key) (haround _ _))

theorem marked_narrowedTelling {subject : Telling} (hsubject : subject.Marked)
    (key : Option Text) : (narrowedTelling subject key).Marked := by
  cases key with
  | none => exact hsubject
  | some name => exact hsubject.append (marked_around _ _ _)

theorem marked_namedTelling (kind : Text) (name : Option Text) :
    (namedTelling kind name).Marked := by
  cases name with
  | none => exact marked_plain _
  | some name => exact marked_around _ _ _

theorem marked_telling (subject : Subject) : subject.telling.Marked := by
  cases subject with
  | node name => exact marked_around _ _ _
  | document => exact marked_plain _
  | simpleType name variety key | complexType name key =>
      exact marked_narrowedTelling (marked_namedTelling _ _) key
  | attributeUse name key => exact marked_narrowedTelling (marked_plain _) key
  | nodeAttribute name key => exact marked_narrowedTelling (marked_around _ _ _) (some key)
  | elementDeclaration name key | attributeDeclaration name key | keyReference name key =>
      exact marked_narrowedTelling (marked_around _ _ _) key

theorem sparse_narrowedTelling {subject : Telling} (hsubject : subject.Sparse 0)
    (key : Option Text) : (narrowedTelling subject key).Sparse 0 := by
  cases key with
  | none => exact hsubject
  | some name => exact hsubject.append (sparse_around_of_slashFree (.words (by decide)) .nil 0)

theorem sparse_namedTelling {kind : Text} (hkind : SlashFree kind) (name : Option Text) :
    (namedTelling kind name).Sparse 0 := by
  cases name with
  | none => exact sparse_plain_of_slashFree (.append (.words (by decide)) hkind) 0
  | some name => exact sparse_around_of_slashFree (hkind.append (.words (by decide))) .nil 0

theorem sparse_telling {subject : Subject} (hbare : ∀ text ∈ subject.bare, SlashFree text) :
    subject.telling.Sparse 0 := by
  cases subject with
  | node name => exact sparse_around_of_slashFree (.words (by decide)) .nil 0
  | document => exact sparse_plain_of_slashFree .nil 0
  | simpleType name variety key =>
      have hvariety : SlashFree variety := hbare variety (.head _)
      exact sparse_narrowedTelling
        (sparse_namedTelling (hvariety.append (.words (by decide))) _) key
  | complexType name key =>
      exact sparse_narrowedTelling (sparse_namedTelling (.words (by decide)) _) key
  | attributeUse name key =>
      have hname : SlashFree name := hbare name (.head _)
      exact sparse_narrowedTelling
        (sparse_plain_of_slashFree (.append (.words (by decide)) hname) 0) key
  | nodeAttribute name key =>
      exact sparse_narrowedTelling (sparse_around_of_slashFree (.words (by decide)) .nil 0)
        (some key)
  | elementDeclaration name key | attributeDeclaration name key | keyReference name key =>
      exact sparse_narrowedTelling (sparse_around_of_slashFree (.words (by decide)) .nil 0) key

end Subject

namespace FaultCause

def bare : FaultCause → List Text
  | malformed problem _ => problem.taken
  | badContent expected => [expected]
  | contentRule rule => [rule]
  | refusedFacet complaint | invalidDefault complaint => [complaint]
  | circular kind => [kind]
  | _ => []

def telling : FaultCause → Telling
  | notSchema address => around "The XML document " address " is not a schema document."
  | malformed problem _ => plain problem.message
  | missingAttribute name => around "The attribute " name " is required but missing."
  | extraAttribute name => around "The attribute " name " is not allowed."
  | badContent expected =>
    plain (("The content is not valid. Expected is " : Text) ++ expected ++ ".")
  | contentRule rule => plain (rule ++ ".")
  | badValue value expected =>
    (around "The value " value " is not valid. Expected is ").append (around [] expected ".")
  | notOfType value type =>
    (around [] value " is not a valid value of the atomic type ").append (around [] type ".")
  | unboundName value =>
    around "The value " value
      " of simple type 'xs:QName' has no corresponding namespace declaration in scope."
  | exclusive first second =>
    (around "The attributes " first " and ").append (around [] second " are mutually exclusive.")
  | belowLeast least =>
    plain (("The value must be greater than or equal to " : Text) ++ Text.ofNat least ++ ".")
  | leastAboveMost => plain "The value must not be greater than the value of 'maxOccurs'."
  | referenceOnly =>
    plain "Only the attributes 'minOccurs', 'maxOccurs' and 'id' are allowed in addition to 'ref'."
  | notImported none =>
    plain (("References from this schema to components in no namespace are not allowed, " : Text) ++
      "since not indicated by an import statement.")
  | notImported (some space) =>
    around "References from this schema to components in the namespace " space
      " are not allowed, since not indicated by an import statement."
  | unresolved name kind =>
    around "The QName value " name.toText
      ((" does not resolve to a(n) " : Text) ++ kind.toText ++ ".")
  | twice kind name =>
    around (("A global " : Text) ++ kind.toText ++ " ") name " does already exist."
  | notLoaded address => around "Failed to load the document " address " for inclusion."
  | includesItself address => around "The schema document " address " cannot include itself.."
  | spaceMustBeAbsent address =>
    around "The target namespace of the included/redefined schema " address
      " has to be absent, since the including/redefining schema has no target namespace."
  | spaceDiffers space address own =>
    ((around "The target namespace " space " of the included/redefined schema ").append
      (around [] address " differs from ")).append
        (around [] own " of the including/redefining schema.")
  | badFacet value kind expected =>
    ((around "The value " value " of the facet ").append
      (around [] kind.toText " is not a valid ")).append (around [] expected ".")
  | badPattern value =>
    around "The value " value " of the facet 'pattern' is not a valid regular expression."
  | badWhiteSpace value => around "The value " value " of the facet 'whitespace' is not valid."
  | refusedFacet complaint => plain complaint
  | useTwice name => around "Duplicate attribute use " name "."
  | circular kind => plain (("The " : Text) ++ kind ++ " is circular.")
  | notDeterminist => plain "The content model is not determinist."
  | notSimple name => around "The type definition " name " is not simple."
  | invalidDefault complaint => plain complaint

theorem text_telling (cause : FaultCause) : cause.telling.text = cause.message := by
  cases cause with
  | malformed _ _ | badContent _ | contentRule _ | belowLeast _ | leastAboveMost | referenceOnly
  | refusedFacet _ | circular _ | notDeterminist | invalidDefault _ => exact text_plain _
  | badValue value expected => exact text_append_around_around _ _ _ _ _
  | notOfType value type => exact text_append_around_around _ _ _ _ _
  | exclusive first second => exact text_append_around_around _ _ _ _ _
  | spaceDiffers space address own =>
      exact (text_append_around _ own _).trans
        (congrArg (· ++ Facet.marked own ++ _) (text_append_around_around _ space _ address _))
  | badFacet value kind expected =>
      exact (text_append_around _ expected _).trans
        (congrArg (· ++ Facet.marked expected ++ _)
          (text_append_around_around _ value _ kind.toText _))
  | notImported space =>
      cases space with
      | none => exact text_plain _
      | some space => exact text_around _ _ _
  | unresolved name kind =>
      refine (text_around _ _ _).trans ?_
      change _ = ("The QName value " : Text) ++ Facet.marked name.toText ++
        " does not resolve to a(n) " ++ kind.toText ++ "."
      simp only [List.append_assoc]
  | _ => exact text_around _ _ _

theorem marked_telling (cause : FaultCause) : cause.telling.Marked := by
  cases cause with
  | notImported space =>
      cases space with
      | none => exact marked_plain _
      | some space => exact marked_around _ _ _
  | badValue _ _ | notOfType _ _ | exclusive _ _ =>
      exact (marked_around _ _ _).append (marked_around _ _ _)
  | spaceDiffers _ _ _ | badFacet _ _ _ =>
      exact ((marked_around _ _ _).append (marked_around _ _ _)).append (marked_around _ _ _)
  | malformed _ _ | badContent _ | contentRule _ | belowLeast _ | leastAboveMost | referenceOnly
  | refusedFacet _ | circular _ | notDeterminist | invalidDefault _ => exact marked_plain _
  | _ => exact marked_around _ _ _

theorem sparse_telling {cause : FaultCause} (hbare : ∀ text ∈ cause.bare, SlashFree text) :
    cause.telling.Sparse 1 := by
  have hplain {words : Text} (hwords : SlashFree words) : (plain words).Sparse 1 :=
    sparse_plain_of_slashFree hwords 1
  have haround {before location after : Text} (hbefore : SlashFree before)
      (hafter : SlashFree after) : (around before location after).Sparse 1 :=
    sparse_around_of_slashFree hbefore hafter 1
  have hmore {first : Telling} {location after : Text} (hfirst : first.Sparse 1)
      (hafter : SlashFree after) : (first.append (around [] location after)).Sparse 1 :=
    hfirst.append_around (hafter.count_le 1)
  have hone {chars : List Char} (hchars : chars.count '/' ≤ 1) :
      (String.ofList chars).toList.count '/' ≤ 1 := by
    rwa [String.toList_ofList]
  cases cause with
  | malformed problem column => exact hplain (Xml.Problem.slashFree_message hbare)
  | badContent text | circular text =>
      exact hplain (((SlashFree.words (by decide)).append (hbare text (.head _))).append
        (.words (by decide)))
  | contentRule rule => exact hplain ((hbare rule (.head _)).append (.words (by decide)))
  | belowLeast least =>
      exact hplain (((SlashFree.words (by decide)).append (.ofNat least)).append
        (.words (by decide)))
  | refusedFacet complaint | invalidDefault complaint => exact hplain (hbare complaint (.head _))
  | leastAboveMost | referenceOnly | notDeterminist => exact hplain (.words (by decide))
  | badValue _ _ | exclusive _ _ =>
      exact hmore (haround (.words (by decide)) (.words (by decide))) (.words (by decide))
  | notOfType _ _ => exact hmore (haround .nil (.words (by decide))) (.words (by decide))
  | badFacet _ _ _ =>
      exact hmore (hmore (haround (.words (by decide)) (.words (by decide))) (.words (by decide)))
        (.words (by decide))
  | notImported space =>
      cases space with
      | none => exact hplain (.append (.words (by decide)) (.words (by decide)))
      | some space => exact haround (.words (by decide)) (.words (by decide))
  | unresolved name kind =>
      exact haround (.words (by decide)) (((SlashFree.words (by decide)).append
        kind.slashFree_toText).append (.words (by decide)))
  | twice kind name =>
      exact haround (((SlashFree.words (by decide)).append kind.slashFree_toText).append
        (.words (by decide))) (.words (by decide))
  -- the words that have a slash: "included/redefined" and "including/redefining"
  | spaceMustBeAbsent address => exact sparse_around (hone (by decide)) (hone (by decide))
  | spaceDiffers space address own =>
      exact ((sparse_around (SlashFree.count_le (.words (by decide)) 1) (hone (by decide))
        ).append_around (SlashFree.count_le (.words (by decide)) 1)).append_around
          (hone (by decide))
  | _ => exact haround (.words (by decide)) (.words (by decide))

end FaultCause

namespace SchemaFault

def placeWords (fault : SchemaFault) : Text :=
  match fault.line, fault.cause with
  | none, _ => []
  | some line, .malformed _ column =>
    (", line " : Text) ++ Text.ofNat line ++ ", column " ++ Text.ofNat column
  | some line, _ => (", line " : Text) ++ Text.ofNat line

def bare (fault : SchemaFault) : List Text :=
  fault.subject.bare ++ fault.cause.bare

def subjectTelling (fault : SchemaFault) : Telling :=
  if fault.subject.toText.isEmpty then plain [] else fault.subject.telling.append (plain ": ")

def telling (fault : SchemaFault) : Telling :=
  (fault.subjectTelling.append fault.cause.telling).append (plain fault.placeWords)

theorem text_telling (fault : SchemaFault) : fault.telling.text = fault.message := by
  have hsubject : fault.subjectTelling.text =
      if fault.subject.toText.isEmpty then [] else fault.subject.toText ++ (": " : Text) := by
    unfold subjectTelling
    split
    · exact text_plain _
    · rw [text_append, fault.subject.text_telling, text_plain]
  rw [telling, text_append, text_append, hsubject, fault.cause.text_telling, text_plain]
  rfl

theorem marked_telling (fault : SchemaFault) : fault.telling.Marked := by
  have hsubject : fault.subjectTelling.Marked := by
    unfold subjectTelling
    split
    · exact marked_plain _
    · exact fault.subject.marked_telling.append (marked_plain _)
  exact (hsubject.append fault.cause.marked_telling).append (marked_plain _)

theorem slashFree_placeWords (fault : SchemaFault) : SlashFree fault.placeWords := by
  unfold placeWords
  split
  · exact .nil
  · exact (((SlashFree.words (by decide)).append (.ofNat _)).append (.words (by decide))).append
      (.ofNat _)
  · exact (SlashFree.words (by decide)).append (.ofNat _)

theorem sparse_telling {fault : SchemaFault} (hbare : ∀ text ∈ fault.bare, SlashFree text) :
    fault.telling.Sparse 1 := by
  have hsubject : fault.subjectTelling.Sparse 0 := by
    have htext : fault.subject.telling.Sparse 0 :=
      Subject.sparse_telling fun text hmem => hbare text (List.mem_append_left _ hmem)
    unfold subjectTelling
    split
    · exact sparse_plain_of_slashFree .nil 0
    · exact htext.append (sparse_plain_of_slashFree (.words (by decide)) 0)
  have hcause : fault.cause.telling.Sparse 1 :=
    FaultCause.sparse_telling fun text hmem => hbare text (List.mem_append_right _ hmem)
  exact (hsubject.append hcause).append
    (sparse_plain_of_slashFree fault.slashFree_placeWords 0)

end SchemaFault

end Schema

end XmlCheck
