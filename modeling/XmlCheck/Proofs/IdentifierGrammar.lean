import Mathlib.Data.List.TakeWhile
import XmlCheck.Urn

/-!
# How identifiers are written

An identifier is the scheme, a vendor, a component and a path, or the word for modules in place of
the component and the name of a module before the path (`SchemaUrn.Written`). The reader takes
exactly these texts, with white space around them, for identifiers, and what they name does not
depend on the letter case of vendor and component.
-/

namespace XmlCheck

namespace SchemaUrn

/-- The name of a vendor or a component: ASCII letters and digits, underscores, dots and hyphens. -/
structure IsName (text : Text) : Prop where
  nonempty : text ≠ []
  chars : ∀ c ∈ text, c.isAlphanum = true ∨ c = '_' ∨ c = '.' ∨ c = '-'

/-- The name of a module: letters and digits, an underscore, and letters, digits and underscores. -/
inductive IsModuleName : Text → Prop
  | joined {front back : Text} (frontNonempty : front ≠ []) (backNonempty : back ≠ [])
    (front_chars : ∀ c ∈ front, c.isAlphanum = true)
    (back_chars : ∀ c ∈ back, c.isAlphanum = true ∨ c = '_') : IsModuleName (front ++ '_' :: back)

/-- What may stand at the end of an identifier. -/
structure IsRest (text : Text) : Prop where
  nonempty : text ≠ []
  oneLine : '\n' ∉ text

def spelled (vendor part rest : Text) : Text :=
  ("urn:" : Text) ++ (vendor ++ ':' :: (part ++ ':' :: rest))

/-- How an identifier is written, and what it names. -/
inductive Written : SchemaUrn → Text → Prop
  | component {vendor part path : Text} (vendorName : IsName vendor) (partName : IsName part)
    (noModule : Text.lower part ≠ moduleWord) (rest : IsRest path) :
    Written (.component (Text.lower vendor) (Text.lower part) path) (spelled vendor part path)
  | module {vendor part name path : Text} (vendorName : IsName vendor) (partName : IsName part)
    (isModule : Text.lower part = moduleWord) (moduleName : IsModuleName name)
    (rest : IsRest path) :
    Written (.module name path) (spelled vendor part (name ++ ':' :: path))

/-! ### Names -/

theorem isNameChar_iff (c : Char) :
    isNameChar c = true ↔ c.isAlphanum = true ∨ c = '_' ∨ c = '.' ∨ c = '-' := by
  simp only [isNameChar, isAlphanumeric, Bool.or_eq_true, beq_iff_eq, or_assoc]

theorem isName_iff (text : Text) : isName text = true ↔ IsName text := by
  simp only [isName, Bool.and_eq_true, Bool.not_eq_true', List.isEmpty_eq_false_iff,
    List.all_eq_true, isNameChar_iff]
  exact ⟨fun h => ⟨h.1, h.2⟩, fun h => ⟨h.nonempty, h.chars⟩⟩

theorem IsName.colon_not_mem {text : Text} (hname : IsName text) : ':' ∉ text := by
  intro hmem
  rcases hname.chars ':' hmem with h | h | h | h <;> exact absurd h (by decide)

theorem isModuleName_iff (text : Text) : isModuleName text = true ↔ IsModuleName text := by
  constructor
  · intro hname
    unfold isModuleName at hname
    dsimp only at hname
    rw [Bool.and_eq_true] at hname
    obtain ⟨hfront, hback⟩ := hname
    split at hback
    · rename_i more hrest
      rw [Bool.and_eq_true, List.all_eq_true] at hback
      have htext : text = text.takeWhile isAlphanumeric ++ '_' :: more := by
        rw [← hrest, List.takeWhile_append_dropWhile]
      rw [htext]
      refine .joined (by simpa using hfront) (by simpa using hback.1)
        (fun c hc => List.mem_takeWhile_imp hc) fun c hc => ?_
      simpa [isAlphanumeric] using hback.2 c hc
    · cases hback
  · rintro ⟨hfront, hback, hfrontChars, hbackChars⟩
    rename_i front back
    have htake : (front ++ '_' :: back).takeWhile isAlphanumeric = front :=
      Text.takeWhile_append_cons hfrontChars (by decide) back
    have hdrop : (front ++ '_' :: back).dropWhile isAlphanumeric = '_' :: back :=
      Text.dropWhile_append_cons hfrontChars (by decide) back
    unfold isModuleName
    simp only [htake, hdrop, Bool.and_eq_true, List.all_eq_true]
    refine ⟨by simpa using hfront, by simpa using hback, fun c hc => ?_⟩
    simpa [isAlphanumeric] using hbackChars c hc

theorem IsModuleName.colon_not_mem {text : Text} (hname : IsModuleName text) : ':' ∉ text := by
  obtain ⟨-, -, hfront, hback⟩ := hname
  intro hmem
  rcases List.mem_append.mp hmem with hmem | hmem
  · exact absurd (hfront ':' hmem) (by decide)
  · rcases List.mem_cons.mp hmem with h | hmem
    · exact absurd h (by decide)
    · rcases hback ':' hmem with h | h <;> exact absurd h (by decide)

theorem isRest_iff (text : Text) :
    (!text.isEmpty && !List.contains text '\n') = true ↔ IsRest text := by
  rw [Bool.and_eq_true, Bool.not_eq_true', Bool.not_eq_true', List.isEmpty_eq_false_iff,
    ← Bool.not_eq_true, List.contains_iff_mem]
  exact ⟨fun h => ⟨h.1, h.2⟩, fun h => ⟨h.nonempty, h.oneLine⟩⟩

/-! ### Reading -/

theorem cut?_eq_some_iff {text front back : Text} :
    cut? text = some (front, back) ↔ text = front ++ ':' :: back ∧ ':' ∉ front := by
  constructor
  · intro hcut
    unfold cut? at hcut
    split at hcut
    · rename_i rest hrest
      cases hcut
      refine ⟨by rw [← hrest, List.takeWhile_append_dropWhile], fun hmem => ?_⟩
      simpa using List.mem_takeWhile_imp hmem
    · cases hcut
  · rintro ⟨rfl, hfront⟩
    have hinside : ∀ c ∈ front, (c != ':') = true := fun c hc =>
      bne_iff_ne.mpr fun hcolon => hfront (hcolon ▸ hc)
    have hcolon : (':' != ':') = false := rfl
    unfold cut?
    simp only [Text.dropWhile_append_cons hinside hcolon, Text.takeWhile_append_cons hinside hcolon]

theorem parts?_of_spelled {text vendor part rest : Text}
    (htext : Text.trim text = spelled vendor part rest) (hvendor : IsName vendor)
    (hpart : IsName part) :
    parts? text =
      if !rest.isEmpty && !List.contains rest '\n' then some (vendor, part, rest) else none := by
  have hfirst := cut?_eq_some_iff.mpr
    ⟨(rfl : vendor ++ ':' :: (part ++ ':' :: rest) = _), hvendor.colon_not_mem⟩
  have hsecond := cut?_eq_some_iff.mpr
    ⟨(rfl : part ++ ':' :: rest = _), hpart.colon_not_mem⟩
  unfold parts?
  rw [htext, spelled]
  simp only [Text.after?_append, hfirst, hsecond, (isName_iff _).mpr hvendor,
    (isName_iff _).mpr hpart, Bool.true_and]

theorem parts?_eq_some_iff {text vendor part rest : Text} :
    parts? text = some (vendor, part, rest) ↔
      Text.trim text = spelled vendor part rest ∧ IsName vendor ∧ IsName part ∧ IsRest rest := by
  constructor
  · intro hparts
    unfold parts? at hparts
    split at hparts
    · cases hparts
    rename_i behind hscheme
    split at hparts
    · cases hparts
    rename_i first following hfirst
    split at hparts
    · cases hparts
    rename_i second last hsecond
    split at hparts
    · rename_i hgood
      cases hparts
      rw [Bool.and_assoc, Bool.and_eq_true, Bool.and_eq_true, isName_iff, isName_iff, isRest_iff]
        at hgood
      refine ⟨?_, hgood.1.1, hgood.1.2, hgood.2⟩
      rw [Text.after?_eq_some hscheme, (cut?_eq_some_iff.mp hfirst).1,
        (cut?_eq_some_iff.mp hsecond).1, spelled]
    · cases hparts
  · rintro ⟨htext, hvendor, hpart, hrest⟩
    rw [parts?_of_spelled htext hvendor hpart, if_pos ((isRest_iff rest).mpr hrest)]

theorem ofModule?_eq_some_iff {rest : Text} {urn : SchemaUrn} :
    ofModule? rest = some urn ↔ ∃ name path, urn = .module name path ∧
      rest = name ++ ':' :: path ∧ IsModuleName name ∧ path ≠ [] := by
  unfold ofModule?
  constructor
  · intro hmodule
    split at hmodule
    · rename_i name path hcut
      split at hmodule
      · rename_i hgood
        cases hmodule
        rw [Bool.and_eq_true, isModuleName_iff, Bool.not_eq_true', List.isEmpty_eq_false_iff]
          at hgood
        exact ⟨name, path, rfl, (cut?_eq_some_iff.mp hcut).1, hgood⟩
      · cases hmodule
    · cases hmodule
  · rintro ⟨name, path, rfl, rfl, hname, hpath⟩
    have hcut := cut?_eq_some_iff.mpr ⟨(rfl : name ++ ':' :: path = _), hname.colon_not_mem⟩
    have hgood : (isModuleName name && !path.isEmpty) = true := by
      rw [Bool.and_eq_true, isModuleName_iff, Bool.not_eq_true', List.isEmpty_eq_false_iff]
      exact ⟨hname, hpath⟩
    simp only [hcut, if_pos hgood]

/-- The end of an identifier of a module is one exactly if the path of the module is one. -/
theorem isRest_module_iff {name path : Text} (hname : IsModuleName name) :
    (path ≠ [] ∧ IsRest (name ++ ':' :: path)) ↔ IsRest path := by
  have hline : '\n' ∉ name := by
    obtain ⟨-, -, hfront, hback⟩ := hname
    intro hmem
    rcases List.mem_append.mp hmem with hmem | hmem
    · exact absurd (hfront '\n' hmem) (by decide)
    · rcases List.mem_cons.mp hmem with h | hmem
      · exact absurd h (by decide)
      · rcases hback '\n' hmem with h | h <;> exact absurd h (by decide)
  constructor
  · rintro ⟨hpath, hrest⟩
    exact ⟨hpath, fun hmem =>
      hrest.oneLine (List.mem_append_right name (List.mem_cons_of_mem ':' hmem))⟩
  · intro hpath
    refine ⟨hpath.nonempty, by simp, fun hmem => ?_⟩
    rcases List.mem_append.mp hmem with hmem | hmem
    · exact hline hmem
    · rcases List.mem_cons.mp hmem with h | hmem
      · exact absurd h (by decide)
      · exact hpath.oneLine hmem

/-- A text is read as an identifier exactly if it is written as one, white space around it
aside. -/
theorem ofText_eq_ok_iff {text : Text} {urn : SchemaUrn} :
    ofText text = .ok urn ↔ urn.Written (Text.trim text) := by
  unfold ofText
  constructor
  · intro hread
    split at hread
    · cases hread
    rename_i vendor part rest hparts
    obtain ⟨htext, hvendor, hpart, hrest⟩ := parts?_eq_some_iff.mp hparts
    rw [htext]
    dsimp only at hread
    split at hread
    · rename_i hword
      split at hread
      · rename_i hmodule
        cases hread
        obtain ⟨name, path, rfl, rfl, hname, hpath⟩ := ofModule?_eq_some_iff.mp hmodule
        exact .module hvendor hpart hword hname ((isRest_module_iff hname).mp ⟨hpath, hrest⟩)
      · cases hread
    · rename_i hword
      cases hread
      exact .component hvendor hpart hword hrest
  · intro hwritten
    generalize htext : Text.trim text = trimmed at hwritten
    cases hwritten with
    | component hvendor hpart hword hrest =>
        rw [parts?_eq_some_iff.mpr ⟨htext, hvendor, hpart, hrest⟩]
        simp only [if_neg hword]
    | module hvendor hpart hword hname hpath =>
        obtain ⟨hnonempty, hrest⟩ := (isRest_module_iff hname).mpr hpath
        rw [parts?_eq_some_iff.mpr ⟨htext, hvendor, hpart, hrest⟩]
        simp only [if_pos hword, ofModule?_eq_some_iff.mpr ⟨_, _, rfl, rfl, hname, hnonempty⟩]

/-! ### Letter case -/

/-- Two texts that differ in the case of ASCII letters only. -/
def SameLetters (first second : Text) : Prop :=
  first.map Char.toLower = second.map Char.toLower

theorem lt_of_isNameChar {c : Char} (hc : isNameChar c = true) : c.toNat < 128 := by
  rcases (isNameChar_iff c).mp hc with h | rfl | rfl | rfl
  · have hupper : 'Z'.val.toNat = 90 := rfl
    have hlower : 'z'.val.toNat = 122 := rfl
    have hdigit : '9'.val.toNat = 57 := rfl
    change ((decide (c.val ≥ 'A'.val ∧ c.val ≤ 'Z'.val) ||
      (decide (c.val ≥ 'a'.val) && decide (c.val ≤ 'z'.val))) ||
        (decide (c.val ≥ '0'.val) && decide (c.val ≤ '9'.val))) = true at h
    simp only [Bool.or_eq_true, Bool.and_eq_true, decide_eq_true_eq, UInt32.le_iff_toNat_le,
      ge_iff_le] at h
    unfold Char.toNat
    omega
  · decide
  · decide
  · decide

theorem toLower_of_le {c : Char} (hc : 128 ≤ c.toNat) : c.toLower = c := by
  unfold Char.toLower
  rw [dif_neg]
  rintro ⟨-, hle⟩
  have hle : c.toNat ≤ 90 := UInt32.le_iff_toNat_le.mp hle
  omega

theorem toLower_ascii : ∀ n < 128, Text.lowerChar (Char.ofNat n) = (Char.ofNat n).toLower ∧
    isNameChar (Char.ofNat n).toLower = isNameChar (Char.ofNat n) := by
  decide

theorem isNameChar_toLower (c : Char) : isNameChar c.toLower = isNameChar c := by
  rcases Nat.lt_or_ge c.toNat 128 with hc | hc
  · have hsame := (toLower_ascii c.toNat hc).2
    rwa [Char.ofNat_toNat] at hsame
  · rw [toLower_of_le hc]

theorem lowerChar_of_isNameChar {c : Char} (hc : isNameChar c = true) :
    Text.lowerChar c = c.toLower := by
  have hsame := (toLower_ascii c.toNat (lt_of_isNameChar hc)).1
  rwa [Char.ofNat_toNat] at hsame

theorem isName_map_toLower (text : Text) : isName (text.map Char.toLower) = isName text := by
  have hchars : isNameChar ∘ Char.toLower = isNameChar := funext isNameChar_toLower
  rw [isName, isName, List.all_map, hchars, List.isEmpty_map]

theorem SameLetters.isName {first second : Text} (hsame : SameLetters first second)
    (hname : IsName first) : IsName second := by
  rw [← isName_iff, ← isName_map_toLower, ← hsame, isName_map_toLower, isName_iff]
  exact hname

theorem IsName.lower {text : Text} (hname : IsName text) :
    Text.lower text = text.map Char.toLower :=
  List.map_congr_left fun c hc => lowerChar_of_isNameChar ((isNameChar_iff c).mpr (hname.chars c hc))

/-- Names that differ in letter case only are one name in lower case. -/
theorem SameLetters.lower {first second : Text} (hsame : SameLetters first second)
    (hname : IsName first) : Text.lower second = Text.lower first := by
  rw [hname.lower, (hsame.isName hname).lower, ← hsame]

/-- Two texts with a vendor and a component, white space around them aside, that differ in the
letter case of these two only. -/
inductive Recased : Text → Text → Prop
  | spelled {vendor vendor' part part' rest first second : Text} (vendorName : IsName vendor)
    (partName : IsName part) (vendors : SameLetters vendor vendor')
    (parts : SameLetters part part') (first_spelled : Text.trim first = spelled vendor part rest)
    (second_spelled : Text.trim second = spelled vendor' part' rest) : Recased first second

theorem Recased.ofText_eq {first second : Text} (hrecased : Recased first second) :
    ofText second = ofText first := by
  obtain ⟨hvendor, hpart, hvendors, hparts, hfirst, hsecond⟩ := hrecased
  unfold ofText
  rw [parts?_of_spelled hfirst hvendor hpart,
    parts?_of_spelled hsecond (hvendors.isName hvendor) (hparts.isName hpart)]
  split_ifs
  · simp only [hvendors.lower hvendor, hparts.lower hpart]
  · rfl

end SchemaUrn

end XmlCheck
