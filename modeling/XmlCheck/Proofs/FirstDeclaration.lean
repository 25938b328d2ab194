import Mathlib.Data.List.TakeWhile
import XmlCheck.Declaration
import XmlCheck.Proofs.OctetsOfText

/-!
# The first declaration in a text

What a declaration is can be said of its own text alone (`Declares`), and the scan gives the
identifier of the one that begins first. A declaration has two quotes, one of them at its very end,
so none that is cut off can hold a whole one: this is why what is found in a text is still found
when the text goes on, and why octets that end within a character say no less than all of them.
-/

namespace XmlCheck

namespace Utf8

/-! ### Octets that go on -/

/-- Octets that break off within a character are broken to their end; all others are read as they
are with more octets behind them. -/
theorem tail_append (missing low high value width : Nat) (octets more : List UInt8) :
    tail missing low high value width octets =
        .broken .endOfData (width + octets.length) ∨
      tail missing low high value width (octets ++ more) =
        tail missing low high value width octets := by
  fun_induction tail missing low high value width octets with
  | case1 => exact .inr (by rw [tail])
  | case2 => exact .inl rfl
  | case3 low high value width missing b rest hbounds ih =>
      rw [List.cons_append, tail_cons _ hbounds, List.length_cons]
      rwa [Nat.add_right_comm, Nat.add_assoc] at ih
  | case4 low high value width missing b rest hbounds =>
      exact .inr (by rw [List.cons_append, tail, if_neg hbounds])

theorem head_append (first : UInt8) (octets more : List UInt8) :
    head first octets = .broken .endOfData (1 + octets.length) ∨
      head first (octets ++ more) = head first octets := by
  unfold head
  split
  · exact .inr rfl
  · split
    · exact .inr rfl
    · exact tail_append ..

theorem decodeLenientFrom_of_length_le {skip : Nat} {octets : List UInt8}
    (hlength : octets.length ≤ skip) : decodeLenientFrom skip octets = [] := by
  induction octets generalizing skip with
  | nil => rw [decodeLenientFrom]
  | cons b octets ih =>
      cases skip with
      | zero => cases hlength
      | succ skip => exact ih (Nat.le_of_succ_le_succ hlength)

/-- The texts of some octets and of those with more behind them begin alike. Only a replacement
character at the end of the first one may come to something else. -/
theorem exists_decodeLenientFrom_append (skip : Nat) (octets more : List UInt8) :
    ∃ sure broken later, decodeLenientFrom skip octets = sure ++ broken ∧
      (broken = [] ∨ broken = ['\ufffd']) ∧
      decodeLenientFrom skip (octets ++ more) = sure ++ later := by
  induction octets generalizing skip with
  | nil => exact ⟨[], [], _, by rw [decodeLenientFrom]; rfl, .inl rfl, rfl⟩
  | cons b octets ih =>
      cases skip with
      | succ skip => exact ih skip
      | zero =>
          rw [List.cons_append, decodeLenientFrom, decodeLenientFrom]
          rcases head_append b octets more with hbroken | hsame
          · rw [hbroken]
            dsimp only
            rw [decodeLenientFrom_of_length_le (by omega)]
            exact ⟨[], _, _, rfl, .inr rfl, rfl⟩
          · rw [hsame]
            cases head b octets with
            | scalar c width =>
                obtain ⟨sure, broken, later, hfirst, hbroken, hboth⟩ := ih (width - 1)
                exact ⟨c :: sure, broken, later, congrArg (c :: ·) hfirst, hbroken,
                  congrArg (c :: ·) hboth⟩
            | broken flaw width =>
                obtain ⟨sure, broken, later, hfirst, hbroken, hboth⟩ := ih (width - 1)
                exact ⟨'\ufffd' :: sure, broken, later, congrArg _ hfirst, hbroken,
                  congrArg _ hboth⟩

theorem decodeLenientFrom_append (octets rest : List UInt8) :
    decodeLenientFrom octets.length (octets ++ rest) = decodeLenientFrom 0 rest := by
  induction octets with
  | nil => rfl
  | cons b octets ih => exact ih

theorem decodeLenient_encode (text : Text) : decodeLenient (encode text) = text := by
  induction text with
  | nil => rfl
  | cons c text ih =>
      obtain ⟨a, more, hoctets, hhead⟩ := (spells_encodeChar c).exists_head (encode text)
      have hencode : encode (c :: text) = a :: (more ++ encode text) := by
        rw [encode, List.flatMap_cons, hoctets]
        rfl
      have hwidth : (encodeChar c).length - 1 = more.length := by rw [hoctets]; rfl
      rw [decodeLenient, hencode, decodeLenientFrom, hhead]
      dsimp only
      rw [hwidth, decodeLenientFrom_append, Char.ofNat_toNat]
      exact congrArg (c :: ·) ih

end Utf8

namespace Declaration

/-- A text that declares an identifier and holds nothing else: the name, an equals sign that may
have blanks around it, and the identifier in double quotes. The identifier begins with the scheme
and goes on, up to the next quote. -/
structure Declares (declaration identifier : Text) : Prop where
  written : ∃ before after : Text, (∀ c ∈ before, Text.isBlank c = true) ∧
    (∀ c ∈ after, Text.isBlank c = true) ∧
    declaration = declaredName ++ (before ++ '=' :: (after ++ '"' :: (identifier ++ ['"'])))
  identified : ∃ name, name ≠ [] ∧ identifier = scheme ++ name
  unquoted : '"' ∉ identifier

/-! ### Declarations at the start of a text -/

theorem Declares.atStart?_append {declaration identifier : Text}
    (hdeclares : Declares declaration identifier) (later : Text) :
    atStart? (declaration ++ later) = some identifier := by
  obtain ⟨before, after, hbefore, hafter, rfl⟩ := hdeclares.written
  obtain ⟨name, hname, rfl⟩ := hdeclares.identified
  have hinside : ∀ c ∈ name, (c != '"') = true := fun c hc =>
    bne_iff_ne.mpr fun hquote =>
      hdeclares.unquoted (hquote ▸ List.mem_append_right scheme hc)
  have htake : (name ++ '"' :: later).takeWhile (· != '"') = name :=
    Text.takeWhile_append_cons hinside rfl later
  have hdrop : (name ++ '"' :: later).dropWhile (· != '"') = '"' :: later :=
    Text.dropWhile_append_cons hinside rfl later
  obtain ⟨c, more, rfl⟩ := List.exists_cons_of_ne_nil hname
  simp only [List.append_assoc, List.cons_append, List.nil_append] at htake hdrop ⊢
  have hequals (rest : Text) : (before ++ '=' :: rest).dropWhile Text.isBlank = '=' :: rest :=
    Text.dropWhile_append_cons hbefore (by decide) rest
  have hquoted (rest : Text) : (after ++ '"' :: rest).dropWhile Text.isBlank = '"' :: rest :=
    Text.dropWhile_append_cons hafter (by decide) rest
  unfold atStart?
  simp only [Text.after?_append, hequals, hquoted, htake, hdrop]

theorem exists_declares_of_atStart? {text identifier : Text}
    (hfound : atStart? text = some identifier) :
    ∃ declaration later, text = declaration ++ later ∧ Declares declaration identifier := by
  unfold atStart? at hfound
  split at hfound
  · cases hfound
  rename_i behind hname
  split at hfound
  · rename_i beyond hequals
    split at hfound
    · rename_i value hquote
      split at hfound
      · cases hfound
      rename_i rest hscheme
      split at hfound
      · rename_i c more later htake hdrop
        cases hfound
        have hrest : rest = (c :: more) ++ '"' :: later := by
          rw [← htake, ← hdrop, List.takeWhile_append_dropWhile]
        refine ⟨declaredName ++ (behind.takeWhile Text.isBlank ++ '=' ::
          (beyond.takeWhile Text.isBlank ++ '"' :: (scheme ++ (c :: more) ++ ['"']))), later, ?_,
          ⟨_, _, fun d hd => List.mem_takeWhile_imp hd, fun d hd => List.mem_takeWhile_imp hd,
            rfl⟩, ⟨c :: more, List.cons_ne_nil c more, rfl⟩, fun hmem => ?_⟩
        · have hbehind : behind = behind.takeWhile Text.isBlank ++ '=' :: beyond := by
            rw [← hequals, List.takeWhile_append_dropWhile]
          have hbeyond : beyond = beyond.takeWhile Text.isBlank ++ '"' :: value := by
            rw [← hquote, List.takeWhile_append_dropWhile]
          have hvalue : value = scheme ++ ((c :: more) ++ '"' :: later) := by
            rw [Text.after?_eq_some hscheme, hrest]
          calc text = declaredName ++ behind := Text.after?_eq_some hname
            _ = declaredName ++ (behind.takeWhile Text.isBlank ++ '=' ::
                  (beyond.takeWhile Text.isBlank ++ '"' :: value)) := by rw [← hbeyond, ← hbehind]
            _ = _ := by
              rw [hvalue]
              simp only [List.append_assoc, List.cons_append, List.nil_append]
        · rcases List.mem_append.mp hmem with hmem | hmem
          · exact absurd hmem (by decide)
          · have hinside := List.mem_takeWhile_imp (htake ▸ hmem)
            simp at hinside
      · cases hfound
    · cases hfound
  · cases hfound

/-! ### The quotes of a declaration -/

theorem Declares.count_quote {declaration identifier : Text}
    (hdeclares : Declares declaration identifier) : declaration.count '"' = 2 := by
  obtain ⟨before, after, hbefore, hafter, rfl⟩ := hdeclares.written
  have hblank : Text.isBlank '"' = false := by decide
  have hname : declaredName.count '"' = 0 := by decide
  have hnone (blanks : Text) (hblanks : ∀ c ∈ blanks, Text.isBlank c = true) :
      blanks.count '"' = 0 :=
    List.count_eq_zero.mpr fun hmem => by simp [hblanks _ hmem] at hblank
  simp [hname, hnone before hbefore, hnone after hafter,
    List.count_eq_zero.mpr hdeclares.unquoted]

theorem Declares.getLast?_eq {declaration identifier : Text}
    (hdeclares : Declares declaration identifier) : declaration.getLast? = some '"' := by
  obtain ⟨before, after, -, -, rfl⟩ := hdeclares.written
  rw [← List.cons_append, ← List.append_assoc, ← List.cons_append, ← List.append_assoc,
    ← List.append_assoc, List.getLast?_append_of_ne_nil _ (List.cons_ne_nil _ _)]
  rfl

/-- A text with two quotes that begins like a declaration has all of it. -/
theorem Declares.exists_eq_append {declaration identifier text more later : Text}
    (hdeclares : Declares declaration identifier) (hquotes : 2 ≤ text.count '"')
    (heq : text ++ more = declaration ++ later) : ∃ rest, text = declaration ++ rest := by
  rcases List.append_eq_append_iff.mp heq with ⟨left, hleft, -⟩ | ⟨rest, hrest, -⟩
  · cases left with
    | nil => exact ⟨[], by rw [hleft, List.append_nil, List.append_nil]⟩
    | cons c left =>
        -- the last quote of the declaration would be a third one
        have hlast : (c :: left).getLast? = some '"' := by
          rw [← hdeclares.getLast?_eq, hleft,
            List.getLast?_append_of_ne_nil text (List.cons_ne_nil c left)]
        have hone : 0 < (c :: left).count '"' := List.count_pos_iff.mpr (List.mem_of_getLast? hlast)
        have hcount := hdeclares.count_quote
        rw [hleft, List.count_append] at hcount
        omega
  · exact ⟨rest, hrest⟩

/-! ### The scan -/

theorem scan?_eq_none_iff (text : Text) :
    scan? text = none ↔ ∀ declaration identifier, Declares declaration identifier →
      ¬ declaration <:+: text := by
  induction text with
  | nil =>
      refine iff_of_true rfl fun declaration identifier hdeclares hinfix => ?_
      have hcount := hdeclares.count_quote
      rw [List.infix_nil.mp hinfix] at hcount
      cases hcount
  | cons c rest ih =>
      rw [scan?]
      constructor
      · intro hnone declaration identifier hdeclares hinfix
        split at hnone
        · cases hnone
        rename_i hstart
        rcases List.infix_cons_iff.mp hinfix with ⟨later, hlater⟩ | hinfix
        · rw [← hlater, hdeclares.atStart?_append] at hstart
          cases hstart
        · exact ih.mp hnone declaration identifier hdeclares hinfix
      · intro hall
        cases hstart : atStart? (c :: rest) with
        | some identifier =>
            obtain ⟨declaration, later, hsplit, hdeclares⟩ := exists_declares_of_atStart? hstart
            exact absurd ⟨[], later, hsplit.symm⟩ (hall declaration identifier hdeclares)
        | none =>
            refine ih.mpr fun declaration identifier hdeclares hinfix => ?_
            exact hall declaration identifier hdeclares (List.infix_cons hinfix)

/-- An identifier is declared behind a part of a text, and no declaration begins further in front. -/
structure IsFirst (text earlier identifier : Text) : Prop where
  declared : ∃ declaration later, text = earlier ++ (declaration ++ later) ∧
    Declares declaration identifier
  first : ∀ before declaration other later, text = before ++ (declaration ++ later) →
    Declares declaration other → earlier.length ≤ before.length

theorem scan?_eq_some_iff (text identifier : Text) :
    scan? text = some identifier ↔ ∃ earlier, IsFirst text earlier identifier := by
  induction text with
  | nil =>
      refine iff_of_false (by simp [scan?]) ?_
      rintro ⟨earlier, ⟨declaration, later, hsplit, hdeclares⟩, -⟩
      have hcount := hdeclares.count_quote
      rw [(List.append_eq_nil_iff.mp (List.append_eq_nil_iff.mp hsplit.symm).2).1] at hcount
      cases hcount
  | cons c rest ih =>
      rw [scan?]
      cases hstart : atStart? (c :: rest) with
      | some found =>
          obtain ⟨declaration, later, hsplit, hdeclares⟩ := exists_declares_of_atStart? hstart
          constructor
          · rintro ⟨⟩
            exact ⟨[], ⟨declaration, later, hsplit, hdeclares⟩, fun _ _ _ _ _ _ => Nat.zero_le _⟩
          · rintro ⟨earlier, ⟨other, after, hother, hdeclaresOther⟩, hfirst⟩
            have hnone : earlier = [] := List.length_eq_zero_iff.mp
              (Nat.le_zero.mp (hfirst [] declaration found later hsplit hdeclares))
            rw [hother, hnone, List.nil_append, hdeclaresOther.atStart?_append] at hstart
            exact hstart.symm
      | none =>
          -- nothing begins at the first character, so every place is one further than in the rest
          have hlater : ∀ before declaration other after, Declares declaration other →
              c :: rest = before ++ (declaration ++ after) →
                ∃ back, before = c :: back ∧ rest = back ++ (declaration ++ after) := by
            intro before declaration other after hdeclares hsplit
            cases before with
            | nil =>
                rw [hsplit, List.nil_append, hdeclares.atStart?_append] at hstart
                cases hstart
            | cons d back =>
                obtain ⟨rfl, hback⟩ := List.cons.inj hsplit
                exact ⟨back, rfl, hback⟩
          rw [ih]
          constructor
          · rintro ⟨earlier, ⟨declaration, after, rfl, hdeclares⟩, hfirst⟩
            refine ⟨c :: earlier, ⟨declaration, after, rfl, hdeclares⟩, ?_⟩
            intro before other found more hsplit hother
            obtain ⟨back, rfl, hback⟩ := hlater before other found more hother hsplit
            exact Nat.succ_le_succ (hfirst back other found more hback hother)
          · rintro ⟨earlier, ⟨declaration, after, hsplit, hdeclares⟩, hfirst⟩
            obtain ⟨back, rfl, hback⟩ := hlater earlier declaration identifier after hdeclares hsplit
            refine ⟨back, ⟨declaration, after, hback, hdeclares⟩, ?_⟩
            intro before other found more hother hdeclaresOther
            exact Nat.le_of_succ_le_succ (hfirst (c :: before) other found more
              (congrArg (c :: ·) hother) hdeclaresOther)

theorem two_le_count_of_scan? {text identifier : Text} (hfound : scan? text = some identifier) :
    2 ≤ text.count '"' := by
  obtain ⟨earlier, ⟨declaration, later, rfl, hdeclares⟩, -⟩ := (scan?_eq_some_iff _ _).mp hfound
  rw [List.count_append, List.count_append, hdeclares.count_quote]
  omega

/-- What a text declares first, it still declares first when it goes on. -/
theorem scan?_append_of_eq_some {text identifier : Text} (hfound : scan? text = some identifier)
    (more : Text) : scan? (text ++ more) = some identifier := by
  induction text with
  | nil => cases hfound
  | cons c rest ih =>
      rw [List.cons_append, scan?, ← List.cons_append]
      cases hstart : atStart? (c :: rest) with
      | some found =>
          rw [scan?, hstart] at hfound
          cases hfound
          obtain ⟨declaration, later, hsplit, hdeclares⟩ := exists_declares_of_atStart? hstart
          rw [hsplit, List.append_assoc, hdeclares.atStart?_append]
      | none =>
          have hquotes := two_le_count_of_scan? hfound
          rw [scan?, hstart] at hfound
          cases hmore : atStart? (c :: rest ++ more) with
          | none => exact ih hfound
          | some found =>
              obtain ⟨declaration, later, hsplit, hdeclares⟩ := exists_declares_of_atStart? hmore
              obtain ⟨left, hleft⟩ := hdeclares.exists_eq_append hquotes hsplit
              rw [hleft, hdeclares.atStart?_append] at hstart
              cases hstart

/-- No declaration ends with anything but a quote, so another character at the end of a text makes
none. -/
theorem scan?_of_append_singleton {text identifier : Text} {c : Char} (hc : c ≠ '"')
    (hfound : scan? (text ++ [c]) = some identifier) : scan? text = some identifier := by
  cases hscan : scan? text with
  | some found => rw [← hfound, scan?_append_of_eq_some hscan]
  | none =>
      obtain ⟨earlier, ⟨declaration, later, hsplit, hdeclares⟩, -⟩ :=
        (scan?_eq_some_iff _ _).mp hfound
      refine absurd ?_ ((scan?_eq_none_iff text).mp hscan declaration identifier hdeclares)
      rcases List.eq_nil_or_concat later with rfl | ⟨later, d, rfl⟩
      · have hlast := congrArg List.getLast? hsplit
        rw [List.append_nil, List.getLast?_concat, List.getLast?_append, hdeclares.getLast?_eq]
          at hlast
        exact absurd (Option.some.inj hlast) hc
      · rw [← List.append_assoc, List.concat_eq_append, ← List.append_assoc] at hsplit
        obtain ⟨rfl, -⟩ := List.append_inj' hsplit rfl
        exact ⟨earlier, later, rfl⟩

/-- What octets declare first, they still declare first when more follow, be it in the middle of a
character. -/
theorem scanOctets?_append_of_eq_some {octets : List UInt8} {identifier : Text}
    (hfound : scanOctets? octets = some identifier) (more : List UInt8) :
    scanOctets? (octets ++ more) = some identifier := by
  obtain ⟨sure, broken, later, hoctets, hbroken, hboth⟩ :=
    Utf8.exists_decodeLenientFrom_append 0 octets more
  rw [scanOctets?, Utf8.decodeLenient, hoctets] at hfound
  rw [scanOctets?, Utf8.decodeLenient, hboth]
  refine scan?_append_of_eq_some ?_ later
  rcases hbroken with rfl | rfl
  · rwa [List.append_nil] at hfound
  · exact scan?_of_append_singleton (by decide) hfound

/-- The scan of a text gives the identifier of the declaration that begins first, and none exactly
if the text has no declaration. Octets are scanned as the text that they are read as, those of a
text as the text itself, and what they declare is settled as soon as it is found, whatever
follows. -/
theorem scan_finds_first :
    (∀ text identifier, scan? text = some identifier ↔
      ∃ earlier, IsFirst text earlier identifier) ∧
    (∀ text, scan? text = none ↔ ¬ ∃ earlier declaration later identifier,
      text = earlier ++ (declaration ++ later) ∧ Declares declaration identifier) ∧
    (∀ octets, scanOctets? octets = scan? (Utf8.decodeLenient octets)) ∧
    (∀ text, scanOctets? (Utf8.encode text) = scan? text) ∧
    ∀ octets more identifier, scanOctets? octets = some identifier →
      scanOctets? (octets ++ more) = some identifier := by
  refine ⟨scan?_eq_some_iff, fun text => (scan?_eq_none_iff text).trans ⟨?_, ?_⟩, fun _ => rfl,
    fun text => ?_, fun octets more identifier hfound => scanOctets?_append_of_eq_some hfound more⟩
  · rintro hnone ⟨earlier, declaration, later, identifier, rfl, hdeclares⟩
    refine hnone declaration identifier hdeclares ⟨earlier, later, ?_⟩
    rw [List.append_assoc]
  · rintro hnone declaration identifier hdeclares ⟨earlier, later, rfl⟩
    exact hnone ⟨earlier, declaration, later, identifier, List.append_assoc .., hdeclares⟩
  · rw [scanOctets?, Utf8.decodeLenient_encode]

end Declaration

end XmlCheck
