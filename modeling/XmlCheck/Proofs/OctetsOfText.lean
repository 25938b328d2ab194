import XmlCheck.Proofs.Lookup
import XmlCheck.Xml.Encoding

/-!
# Octets of a text

The octets that UTF-8 reads as a text, and nothing broken among them, are the ones that it writes
for the text and no others. What one character has is said once, by `Utf8.Spells`: the reader takes
such octets and no others for a character, and the writer writes them. An encoding of one octet for
each character has the same octets for a text in ASCII.
-/

namespace XmlCheck.Utf8

/-- An octet that goes on with a character. -/
def Follows (b : UInt8) : Prop :=
  0x80 ≤ b.toNat ∧ b.toNat ≤ 0xBF

/-- The octets that spell a code point: no shorter ones do, it is no half of a pair, and it is not
beyond the last one. -/
inductive Spells : Nat → List UInt8 → Prop
  | one {a : UInt8} (first : a.toNat < 0x80) : Spells a.toNat [a]
  | two {a b : UInt8} (first : 0xC2 ≤ a.toNat ∧ a.toNat ≤ 0xDF) (second : Follows b) :
    Spells ((a.toNat - 0xC0) * 64 + (b.toNat - 0x80)) [a, b]
  | three {a b d : UInt8} (first : 0xE0 ≤ a.toNat ∧ a.toNat ≤ 0xEF) (second : Follows b)
    (shortest : a.toNat = 0xE0 → 0xA0 ≤ b.toNat) (unpaired : a.toNat = 0xED → b.toNat ≤ 0x9F)
    (third : Follows d) :
    Spells (((a.toNat - 0xE0) * 64 + (b.toNat - 0x80)) * 64 + (d.toNat - 0x80)) [a, b, d]
  | four {a b d e : UInt8} (first : 0xF0 ≤ a.toNat ∧ a.toNat ≤ 0xF4) (second : Follows b)
    (shortest : a.toNat = 0xF0 → 0x90 ≤ b.toNat) (bounded : a.toNat = 0xF4 → b.toNat ≤ 0x8F)
    (third : Follows d) (fourth : Follows e) :
    Spells ((((a.toNat - 0xF0) * 64 + (b.toNat - 0x80)) * 64 + (d.toNat - 0x80)) * 64 +
      (e.toNat - 0x80)) [a, b, d, e]

/-! ### Writing -/

theorem toNat_ofNat_of_isValidChar {n : Nat} (hvalid : n.isValidChar) :
    (Char.ofNat n).toNat = n := by
  rw [Char.ofNat, dif_pos hvalid]
  rfl

theorem toNat_ofNat_octet (b : UInt8) : (Char.ofNat b.toNat).toNat = b.toNat := by
  have hb := b.toNat_lt
  exact toNat_ofNat_of_isValidChar (Or.inl (by omega))

theorem Spells.isValidChar {n : Nat} {octets : List UInt8} (hspells : Spells n octets) :
    n.isValidChar := by
  cases hspells with
  | one hfirst => exact Or.inl (by omega)
  | two hfirst hsecond =>
      unfold Follows at hsecond
      exact Or.inl (by omega)
  | @three a _ _ hfirst hsecond hshortest hunpaired hthird =>
      unfold Follows at hsecond hthird
      by_cases hbelow : a.toNat ≤ 0xED
      · exact Or.inl (by omega)
      · exact Or.inr (by omega)
  | four hfirst hsecond hshortest hbounded hthird hfourth =>
      unfold Follows at hsecond hthird hfourth
      exact Or.inr (by omega)

theorem ofNat_eq_of_eq_toNat {n : Nat} {b : UInt8} (hvalue : n = b.toNat) :
    UInt8.ofNat n = b := by
  rw [hvalue, UInt8.ofNat_toNat]

/-- The octets that spell a code point are those that are written for it. -/
theorem Spells.encodeChar_eq {n : Nat} {octets : List UInt8} (hspells : Spells n octets) :
    encodeChar (Char.ofNat n) = octets := by
  simp only [encodeChar, toNat_ofNat_of_isValidChar hspells.isValidChar]
  cases hspells with
  | one hfirst => rw [if_pos hfirst, UInt8.ofNat_toNat]
  | @two a b hfirst hsecond =>
      unfold Follows at hsecond
      rw [if_neg (by omega), if_pos (by omega), ofNat_eq_of_eq_toNat (b := a) (by omega),
        ofNat_eq_of_eq_toNat (b := b) (by omega)]
  | @three a b d hfirst hsecond hshortest hunpaired hthird =>
      unfold Follows at hsecond hthird
      rw [if_neg (by omega), if_neg (by omega), if_pos (by omega),
        ofNat_eq_of_eq_toNat (b := a) (by omega), ofNat_eq_of_eq_toNat (b := b) (by omega),
        ofNat_eq_of_eq_toNat (b := d) (by omega)]
  | @four a b d e hfirst hsecond hshortest hbounded hthird hfourth =>
      unfold Follows at hsecond hthird hfourth
      rw [if_neg (by omega), if_neg (by omega), if_neg (by omega),
        ofNat_eq_of_eq_toNat (b := a) (by omega), ofNat_eq_of_eq_toNat (b := b) (by omega),
        ofNat_eq_of_eq_toNat (b := d) (by omega), ofNat_eq_of_eq_toNat (b := e) (by omega)]

theorem toNat_ofNat_of_lt {n : Nat} (hn : n < 256) : (UInt8.ofNat n).toNat = n := by
  rw [UInt8.toNat_ofNat']
  exact Nat.mod_eq_of_lt hn

theorem follows_ofNat {n : Nat} (hlow : 0x80 ≤ n) (hhigh : n ≤ 0xBF) : Follows (UInt8.ofNat n) := by
  rw [Follows, toNat_ofNat_of_lt (by omega)]
  exact ⟨hlow, hhigh⟩

/-- What is written for a character spells it. -/
theorem spells_encodeChar (c : Char) : Spells c.toNat (encodeChar c) := by
  have hvalid : c.toNat.isValidChar := c.valid
  generalize hn : c.toNat = n at hvalid
  simp only [encodeChar, hn]
  split_ifs with hone htwo hthree
  · have ha := toNat_ofNat_of_lt (n := n) (by omega)
    have hspells := Spells.one (a := UInt8.ofNat n) (by omega)
    rwa [ha] at hspells
  · have ha := toNat_ofNat_of_lt (n := 0xC0 + n / 64) (by omega)
    have hb := toNat_ofNat_of_lt (n := 0x80 + n % 64) (by omega)
    have hspells := Spells.two (a := UInt8.ofNat (0xC0 + n / 64)) (by omega)
      (follows_ofNat (n := 0x80 + n % 64) (by omega) (by omega))
    rw [ha, hb] at hspells
    convert hspells using 1
    omega
  · have ha := toNat_ofNat_of_lt (n := 0xE0 + n / 4096) (by omega)
    have hb := toNat_ofNat_of_lt (n := 0x80 + n / 64 % 64) (by omega)
    have hd := toNat_ofNat_of_lt (n := 0x80 + n % 64) (by omega)
    have hspells := Spells.three (a := UInt8.ofNat (0xE0 + n / 4096)) (by omega)
      (follows_ofNat (n := 0x80 + n / 64 % 64) (by omega) (by omega)) (by omega)
      (by rcases hvalid with hbelow | ⟨habove, -⟩ <;> omega)
      (follows_ofNat (n := 0x80 + n % 64) (by omega) (by omega))
    rw [ha, hb, hd] at hspells
    convert hspells using 1
    omega
  · have hlast : n < 0x110000 := by rcases hvalid with hbelow | ⟨-, hbelow⟩ <;> omega
    have ha := toNat_ofNat_of_lt (n := 0xF0 + n / 262144) (by omega)
    have hb := toNat_ofNat_of_lt (n := 0x80 + n / 4096 % 64) (by omega)
    have hd := toNat_ofNat_of_lt (n := 0x80 + n / 64 % 64) (by omega)
    have he := toNat_ofNat_of_lt (n := 0x80 + n % 64) (by omega)
    have hspells := Spells.four (a := UInt8.ofNat (0xF0 + n / 262144)) (by omega)
      (follows_ofNat (n := 0x80 + n / 4096 % 64) (by omega) (by omega)) (by omega) (by omega)
      (follows_ofNat (n := 0x80 + n / 64 % 64) (by omega) (by omega))
      (follows_ofNat (n := 0x80 + n % 64) (by omega) (by omega))
    rw [ha, hb, hd, he] at hspells
    convert hspells using 1
    omega

/-! ### Reading -/

theorem tail_cons {missing low high value width : Nat} {b : UInt8} (rest : List UInt8)
    (hbounds : low ≤ b.toNat ∧ b.toNat ≤ high) :
    tail (missing + 1) low high value width (b :: rest) =
      tail missing 0x80 0xBF (value * 64 + (b.toNat - 0x80)) (width + 1) rest := by
  rw [tail, if_pos hbounds]

theorem exists_cons_of_tail {missing low high value width all : Nat} {rest : List UInt8} {c : Char}
    (htail : tail (missing + 1) low high value width rest = .scalar c all) :
    ∃ b more, rest = b :: more ∧ (low ≤ b.toNat ∧ b.toNat ≤ high) ∧
      tail missing 0x80 0xBF (value * 64 + (b.toNat - 0x80)) (width + 1) more = .scalar c all := by
  cases rest with
  | nil => cases htail
  | cons b more =>
      rw [tail] at htail
      split_ifs at htail with hbounds
      exact ⟨b, more, rfl, hbounds, htail⟩

theorem eq_of_tail_zero {low high value width all : Nat} {rest : List UInt8} {c : Char}
    (htail : tail 0 low high value width rest = .scalar c all) :
    c = Char.ofNat value ∧ all = width := by
  rw [tail] at htail
  injection htail with hc hall
  exact ⟨hc.symm, hall.symm⟩

theorem shape_three {n : Nat} (hfirst : 0xE0 ≤ n ∧ n ≤ 0xEF) :
    shape n = some (if n = 0xE0 then 0xA0 else 0x80, if n = 0xED then 0x9F else 0xBF, 2) := by
  unfold shape
  split_ifs <;> first | rfl | omega

theorem shape_four {n : Nat} (hfirst : 0xF0 ≤ n ∧ n ≤ 0xF4) :
    shape n = some (if n = 0xF0 then 0x90 else 0x80, if n = 0xF4 then 0x8F else 0xBF, 3) := by
  unfold shape
  split_ifs <;> first | rfl | omega

theorem bounds_of_shape {n : Nat} {bounds : Nat × Nat × Nat} (hshape : shape n = some bounds) :
    (0xC2 ≤ n ∧ n ≤ 0xDF) ∨ (0xE0 ≤ n ∧ n ≤ 0xEF) ∨ (0xF0 ≤ n ∧ n ≤ 0xF4) := by
  unfold shape at hshape
  split_ifs at hshape <;> omega

theorem head_two {a : UInt8} (rest : List UInt8) (hfirst : 0xC2 ≤ a.toNat ∧ a.toNat ≤ 0xDF) :
    head a rest = tail 1 0x80 0xBF (a.toNat - 0xC0) 1 rest := by
  rw [head, if_neg (by omega), shape, if_pos hfirst]
  rfl

theorem head_three {a : UInt8} (rest : List UInt8) (hfirst : 0xE0 ≤ a.toNat ∧ a.toNat ≤ 0xEF) :
    head a rest = tail 2 (if a.toNat = 0xE0 then 0xA0 else 0x80)
      (if a.toNat = 0xED then 0x9F else 0xBF) (a.toNat - 0xE0) 1 rest := by
  rw [head, if_neg (by omega), shape_three hfirst]
  rfl

theorem head_four {a : UInt8} (rest : List UInt8) (hfirst : 0xF0 ≤ a.toNat ∧ a.toNat ≤ 0xF4) :
    head a rest = tail 3 (if a.toNat = 0xF0 then 0x90 else 0x80)
      (if a.toNat = 0xF4 then 0x8F else 0xBF) (a.toNat - 0xF0) 1 rest := by
  rw [head, if_neg (by omega), shape_four hfirst]
  rfl

/-- Octets that spell a code point are read as its character. -/
theorem Spells.exists_head {n : Nat} {octets : List UInt8} (hspells : Spells n octets)
    (rest : List UInt8) :
    ∃ a more, octets = a :: more ∧
      head a (more ++ rest) = .scalar (Char.ofNat n) octets.length := by
  cases hspells with
  | one hfirst =>
      refine ⟨_, _, rfl, ?_⟩
      rw [head, if_pos hfirst]
      rfl
  | two hfirst hsecond =>
      refine ⟨_, _, rfl, ?_⟩
      rw [head_two _ hfirst]
      exact tail_cons _ hsecond
  | three hfirst hsecond hshortest hunpaired hthird =>
      refine ⟨_, _, rfl, ?_⟩
      unfold Follows at hsecond
      rw [head_three _ hfirst]
      refine (tail_cons _ ⟨?_, ?_⟩).trans (tail_cons _ hthird)
      · split <;> omega
      · split <;> omega
  | four hfirst hsecond hshortest hbounded hthird hfourth =>
      refine ⟨_, _, rfl, ?_⟩
      unfold Follows at hsecond
      rw [head_four _ hfirst]
      refine (tail_cons _ ⟨?_, ?_⟩).trans ((tail_cons _ hthird).trans (tail_cons _ hfourth))
      · split <;> omega
      · split <;> omega

/-- What is read as a character is spelled by the octets that it is read from. -/
theorem exists_spells_of_head {a : UInt8} {rest : List UInt8} {c : Char} {width : Nat}
    (hhead : head a rest = .scalar c width) :
    ∃ n octets more, a :: rest = octets ++ more ∧ Spells n octets ∧ c = Char.ofNat n ∧
      width = octets.length := by
  by_cases hascii : a.toNat < 0x80
  · rw [head, if_pos hascii] at hhead
    injection hhead with hc hwidth
    exact ⟨_, [a], rest, rfl, .one hascii, hc.symm, hwidth.symm⟩
  cases hshape : shape a.toNat with
  | none =>
      rw [head, if_neg hascii, hshape] at hhead
      cases hhead
  | some bounds =>
      rcases bounds_of_shape hshape with hfirst | hfirst | hfirst
      · rw [head_two rest hfirst] at hhead
        obtain ⟨b, more, rfl, hb, htail⟩ := exists_cons_of_tail hhead
        obtain ⟨hc, hwidth⟩ := eq_of_tail_zero htail
        exact ⟨_, [a, b], more, rfl, .two hfirst hb, hc, hwidth⟩
      · rw [head_three rest hfirst] at hhead
        obtain ⟨b, _, rfl, ⟨hlow, hhigh⟩, htail⟩ := exists_cons_of_tail hhead
        obtain ⟨d, more, rfl, hd, htail⟩ := exists_cons_of_tail htail
        obtain ⟨hc, hwidth⟩ := eq_of_tail_zero htail
        have hspells : Spells _ [a, b, d] := .three hfirst
          ⟨by split at hlow <;> omega, by split at hhigh <;> omega⟩
          (fun h => by rwa [if_pos h] at hlow) (fun h => by rwa [if_pos h] at hhigh) hd
        exact ⟨_, [a, b, d], more, rfl, hspells, hc, hwidth⟩
      · rw [head_four rest hfirst] at hhead
        obtain ⟨b, _, rfl, ⟨hlow, hhigh⟩, htail⟩ := exists_cons_of_tail hhead
        obtain ⟨d, _, rfl, hd, htail⟩ := exists_cons_of_tail htail
        obtain ⟨e, more, rfl, he, htail⟩ := exists_cons_of_tail htail
        obtain ⟨hc, hwidth⟩ := eq_of_tail_zero htail
        have hspells : Spells _ [a, b, d, e] := .four hfirst
          ⟨by split at hlow <;> omega, by split at hhigh <;> omega⟩
          (fun h => by rwa [if_pos h] at hlow) (fun h => by rwa [if_pos h] at hhigh) hd he
        exact ⟨_, [a, b, d, e], more, rfl, hspells, hc, hwidth⟩

end XmlCheck.Utf8

namespace XmlCheck.Xml.Encoding

open Utf8

/-- Octets that an encoding reads as a text, with nothing broken among them. -/
def Encodes (encoding : Encoding) (text : Text) (octets : List UInt8) : Prop :=
  encoding.decode octets = { text }

theorem decodeUtf8From_append (octets rest : List UInt8) :
    decodeUtf8From octets.length (octets ++ rest) = decodeUtf8From 0 rest := by
  induction octets with
  | nil => rfl
  | cons b octets ih => exact ih

theorem soundLength_append (octets rest : List UInt8) :
    soundLength octets.length (octets ++ rest) = soundLength 0 rest := by
  induction octets with
  | nil => rfl
  | cons b octets ih => exact ih

theorem decodeUtf8From_spells {n : Nat} {octets : List UInt8} (hspells : Spells n octets)
    (rest : List UInt8) :
    decodeUtf8From 0 (octets ++ rest) = Char.ofNat n :: decodeUtf8From 0 rest := by
  obtain ⟨a, more, rfl, hhead⟩ := hspells.exists_head rest
  rw [List.cons_append, decodeUtf8From, hhead]
  exact congrArg _ (decodeUtf8From_append more rest)

theorem soundLength_spells {n : Nat} {octets : List UInt8} (hspells : Spells n octets)
    (rest : List UInt8) :
    soundLength 0 (octets ++ rest) = (soundLength 0 rest).map (· + 1) := by
  obtain ⟨a, more, rfl, hhead⟩ := hspells.exists_head rest
  rw [List.cons_append, soundLength, hhead]
  exact congrArg (Option.map (· + 1)) (soundLength_append more rest)

theorem decodeUtf8From_encode (text : Text) : decodeUtf8From 0 (Utf8.encode text) = text := by
  induction text with
  | nil => rfl
  | cons c text ih =>
      rw [Utf8.encode, List.flatMap_cons, decodeUtf8From_spells (spells_encodeChar c),
        Char.ofNat_toNat]
      exact congrArg _ ih

theorem soundLength_encode (text : Text) : soundLength 0 (Utf8.encode text) = none := by
  induction text with
  | nil => rfl
  | cons c text ih =>
      rw [Utf8.encode, List.flatMap_cons, soundLength_spells (spells_encodeChar c)]
      exact congrArg (Option.map (· + 1)) ih

/-- Octets of UTF-8 with nothing broken among them are those that are written for what they are read
as. -/
theorem eq_encode_of_soundLength {octets : List UInt8} (hsound : soundLength 0 octets = none) :
    octets = Utf8.encode (decodeUtf8From 0 octets) := by
  induction hlength : octets.length using Nat.strongRecOn generalizing octets with
  | _ length ih =>
    cases octets with
    | nil => rfl
    | cons b rest =>
        cases hhead : head b rest with
        | broken flaw width =>
            rw [soundLength, hhead] at hsound
            cases hsound
        | scalar c width =>
            obtain ⟨n, octets, more, hsplit, hspells, -, -⟩ := exists_spells_of_head hhead
            obtain ⟨a, _, rfl, -⟩ := hspells.exists_head []
            rw [hsplit, soundLength_spells hspells, Option.map_eq_none_iff] at hsound
            rw [hsplit, List.length_append, List.length_cons] at hlength
            rw [hsplit, decodeUtf8From_spells hspells, Utf8.encode, List.flatMap_cons,
              hspells.encodeChar_eq]
            exact congrArg _ (ih more.length (by omega) hsound rfl)

/-- UTF-8 reads a text from the octets that are written for it and from no others. -/
theorem utf8_encodes_iff {text : Text} {octets : List UInt8} :
    Encoding.utf8.Encodes text octets ↔ octets = Utf8.encode text := by
  constructor
  · intro hencodes
    have htext : decodeUtf8From 0 octets = text := congrArg Decoded.text hencodes
    have hsound : soundLength 0 octets = none := congrArg Decoded.brokenAfter hencodes
    rw [← htext]
    exact eq_encode_of_soundLength hsound
  · rintro rfl
    rw [Encodes, decode, decodeUtf8From_encode, soundLength_encode]

/-! ### One octet for each character -/

def IsSingle (encoding : Encoding) : Prop :=
  encoding = .latin1 ∨ encoding = .latin9 ∨ encoding = .ascii ∨ encoding = .windows1252

theorem IsSingle.decode_eq {encoding : Encoding} (hsingle : encoding.IsSingle)
    (octets : List UInt8) : encoding.decode octets = encoding.decodeSingle octets := by
  rcases hsingle with rfl | rfl | rfl | rfl <;> rfl

/-- What an encoding has in place of the characters of Latin 1 is not in ASCII. -/
theorem not_ascii_ofNat {code : Nat} {c : Char} (hcode : 0x152 ≤ code ∧ code < 0xD800)
    (hc : Char.ofNat code = c) : ¬ c.toNat < 128 := by
  rw [← hc, toNat_ofNat_of_isValidChar (Or.inl hcode.2)]
  omega

/-- An octet that stands for a character of ASCII is the code of the character. -/
theorem IsSingle.toNat_eq {encoding : Encoding} (hsingle : encoding.IsSingle) {b : UInt8} {c : Char}
    (hb : encoding.single? b = some c) (hascii : c.toNat < 128) : c.toNat = b.toNat := by
  rcases hsingle with rfl | rfl | rfl | rfl
  · rw [← Option.some.inj hb, toNat_ofNat_octet]
  · have hchanges : ∀ change ∈ latin9Changes, 0x152 ≤ change.2 ∧ change.2 < 0xD800 := by decide
    have hchar := Option.some.inj hb
    cases hchange : latin9Changes.lookup b.toNat with
    | none =>
        rw [hchange] at hchar
        rw [← hchar, Option.getD_none, toNat_ofNat_octet]
    | some code =>
        rw [hchange] at hchar
        exact absurd hascii (not_ascii_ofNat (hchanges _ (mem_of_lookup hchange)) hchar)
  · dsimp only [single?] at hb
    split_ifs at hb
    rw [← Option.some.inj hb, toNat_ofNat_octet]
  · have hcodes : ∀ code ∈ windows1252Codes, code = 0 ∨ 0x152 ≤ code ∧ code < 0xD800 := by decide
    dsimp only [single?] at hb
    split_ifs at hb
    · split at hb
      · cases hb
      · cases hb
      · rename_i code hnonzero hcode
        have hbounds := (hcodes code (List.mem_of_getElem? hcode)).resolve_left hnonzero
        exact absurd hascii (not_ascii_ofNat hbounds (Option.some.inj hb))
    · rw [← Option.some.inj hb, toNat_ofNat_octet]

theorem encodeChar_of_ascii {c : Char} {b : UInt8} (hascii : c.toNat < 128)
    (hvalue : c.toNat = b.toNat) : encodeChar c = [b] := by
  have hchar := (Spells.one (a := b) (by omega)).encodeChar_eq
  rwa [← hvalue, Char.ofNat_toNat] at hchar

theorem eq_encode_of_decodeSingle {encoding : Encoding} (hsingle : encoding.IsSingle) {text : Text}
    {octets : List UInt8} (hascii : ∀ c ∈ text, c.toNat < 128)
    (hdecode : encoding.decodeSingle octets = { text }) : octets = Utf8.encode text := by
  induction octets generalizing text with
  | nil =>
      cases hdecode
      rfl
  | cons b octets ih =>
      rw [decodeSingle] at hdecode
      cases hb : encoding.single? b with
      | none =>
          rw [hb] at hdecode
          cases hdecode
      | some c =>
          rw [hb] at hdecode
          rcases hmore : encoding.decodeSingle octets with ⟨more, broken, cut, open'⟩
          rw [hmore] at hdecode
          cases hdecode
          have hc : c.toNat < 128 := hascii c List.mem_cons_self
          rw [Utf8.encode, List.flatMap_cons, encodeChar_of_ascii hc (hsingle.toNat_eq hb hc)]
          exact congrArg _ (ih (fun d hd => hascii d (List.mem_cons_of_mem _ hd)) hmore)

/-- UTF-8, or an encoding that has the octets of UTF-8 for a text in ASCII. -/
def Keeps (encoding : Encoding) (text : Text) : Prop :=
  encoding = .utf8 ∨ encoding.IsSingle ∧ ∀ c ∈ text, c.toNat < 128

theorem Encodes.eq_encode {encoding : Encoding} {text : Text} {octets : List UInt8}
    (hencodes : encoding.Encodes text octets) (hkeeps : encoding.Keeps text) :
    octets = Utf8.encode text := by
  rcases hkeeps with rfl | ⟨hsingle, hascii⟩
  · exact utf8_encodes_iff.mp hencodes
  · rw [Encodes, hsingle.decode_eq] at hencodes
    exact eq_encode_of_decodeSingle hsingle hascii hencodes

end XmlCheck.Xml.Encoding
