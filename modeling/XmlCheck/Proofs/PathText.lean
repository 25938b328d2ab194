import XmlCheck.File.Path

/-!
# Paths and their texts

The text of a path reads back as the path where its names are ones that a file can have: none is
empty, a single dot, or has a slash in it. Every path that is read from a text has such names, so a
text that shows a path stands for it.
-/

namespace XmlCheck

namespace Text

variable {separator c : Char} {piece text rest : Text}

theorem splitOn_cons_self (separator : Char) (rest : Text) :
    splitOn separator (separator :: rest) = [] :: splitOn separator rest := by
  rw [splitOn]
  split
  · rename_i hnil
    exact absurd hnil (splitOn_ne_nil separator rest)
  · rename_i hpieces
    rw [if_pos rfl, hpieces]

theorem splitOn_cons_of_ne (hne : c ≠ separator) {pieces : List Text}
    (hrest : splitOn separator rest = piece :: pieces) :
    splitOn separator (c :: rest) = (c :: piece) :: pieces := by
  rw [splitOn, hrest]
  exact if_neg hne

theorem mem_of_mem_splitOn (hpiece : piece ∈ splitOn separator text) (hc : c ∈ piece) :
    c ∈ text := by
  induction text generalizing piece with
  | nil =>
      rw [splitOn, List.mem_singleton] at hpiece
      rw [hpiece] at hc
      exact hc
  | cons d rest ih =>
      by_cases hd : d = separator
      · rw [hd, splitOn_cons_self] at hpiece
        rcases List.mem_cons.mp hpiece with rfl | hlater
        · cases hc
        · exact List.mem_cons_of_mem d (ih hlater hc)
      · obtain ⟨first, pieces, hpieces⟩ :=
          List.exists_cons_of_ne_nil (splitOn_ne_nil separator rest)
        rw [splitOn_cons_of_ne hd hpieces] at hpiece
        rw [hpieces] at ih
        rcases List.mem_cons.mp hpiece with rfl | hlater
        · rcases List.mem_cons.mp hc with rfl | hc
          · exact List.mem_cons_self
          · exact List.mem_cons_of_mem d (ih List.mem_cons_self hc)
        · exact List.mem_cons_of_mem d (ih (List.mem_cons_of_mem first hlater) hc)

theorem separator_not_mem (hpiece : piece ∈ splitOn separator text) : separator ∉ piece := by
  induction text generalizing piece with
  | nil =>
      rw [splitOn, List.mem_singleton] at hpiece
      simp [hpiece]
  | cons d rest ih =>
      by_cases hd : d = separator
      · rw [hd, splitOn_cons_self] at hpiece
        rcases List.mem_cons.mp hpiece with rfl | hlater
        · simp
        · exact ih hlater
      · obtain ⟨first, pieces, hpieces⟩ :=
          List.exists_cons_of_ne_nil (splitOn_ne_nil separator rest)
        rw [splitOn_cons_of_ne hd hpieces] at hpiece
        rw [hpieces] at ih
        rcases List.mem_cons.mp hpiece with rfl | hlater
        · have hfirst := ih List.mem_cons_self
          simp [hfirst, Ne.symm hd]
        · exact ih (List.mem_cons_of_mem first hlater)

theorem splitOn_append {pieces : List Text} (hfree : separator ∉ piece) {first : Text}
    (hrest : splitOn separator rest = first :: pieces) :
    splitOn separator (piece ++ rest) = (piece ++ first) :: pieces := by
  induction piece with
  | nil => exact hrest
  | cons c piece ih =>
      rw [List.mem_cons, not_or] at hfree
      rw [List.cons_append, splitOn_cons_of_ne (Ne.symm hfree.1) (ih hfree.2)]
      rfl

theorem splitOn_join {pieces : List Text} (hne : pieces ≠ [])
    (hfree : ∀ piece ∈ pieces, separator ∉ piece) :
    splitOn separator (join [separator] pieces) = pieces := by
  induction pieces with
  | nil => exact absurd rfl hne
  | cons piece pieces ih =>
      rw [List.forall_mem_cons] at hfree
      cases pieces with
      | nil =>
          have hend : splitOn separator [] = [[]] := rfl
          have hpiece := splitOn_append hfree.1 hend
          rwa [List.append_nil] at hpiece
      | cons next pieces =>
          have hlater := ih (List.cons_ne_nil next pieces) hfree.2
          have hcut := splitOn_append hfree.1
            (splitOn_cons_self separator (join [separator] (next :: pieces)))
          rw [List.append_nil, hlater] at hcut
          rw [join, List.append_assoc]
          · exact hcut
          · exact nofun

end Text

/-- A name that a file can have. The name for what lies above is one too. -/
structure IsFileName (name : Text) : Prop where
  ne_nil : name ≠ []
  ne_dot : name ≠ ['.']
  noSlash : '/' ∉ name
  noNull : '\x00' ∉ name

instance (name : Text) : Decidable (IsFileName name) :=
  decidable_of_iff (name ≠ [] ∧ name ≠ ['.'] ∧ '/' ∉ name ∧ '\x00' ∉ name)
    ⟨fun ⟨hnil, hdot, hslash, hnull⟩ => ⟨hnil, hdot, hslash, hnull⟩,
      fun h => ⟨h.ne_nil, h.ne_dot, h.noSlash, h.noNull⟩⟩

namespace FilePath

theorem mem_of_mem_partsOf {text name : Text} {c : Char} (hmem : name ∈ partsOf text)
    (hc : c ∈ name) : c ∈ text :=
  Text.mem_of_mem_splitOn (List.mem_filter.mp hmem).1 hc

theorem isFileName_of_mem_partsOf {text name : Text} (hmem : name ∈ partsOf text)
    (hnull : '\x00' ∉ name) : IsFileName name := by
  obtain ⟨hpiece, hkept⟩ := List.mem_filter.mp hmem
  rw [Bool.and_eq_true, bne_iff_ne, bne_iff_ne] at hkept
  exact ⟨hkept.1, hkept.2, Text.separator_not_mem hpiece, hnull⟩

/-- All names of the path are ones that a file can have. -/
def IsWritten (path : FilePath) : Prop :=
  ∀ name ∈ path.parts, IsFileName name

theorem isWritten_ofText {text : Text} (hnull : ∀ name ∈ (ofText text).parts, '\x00' ∉ name) :
    (ofText text).IsWritten :=
  fun name hmem => isFileName_of_mem_partsOf hmem (hnull name hmem)

theorem partsOf_join {parts : List Text} (hparts : ∀ name ∈ parts, IsFileName name) :
    partsOf (Text.join ['/'] parts) = parts := by
  by_cases hne : parts = []
  · rw [hne]
    decide
  · unfold partsOf
    rw [Text.splitOn_join hne fun name hmem => (hparts name hmem).noSlash, List.filter_eq_self]
    intro name hmem
    simp [(hparts name hmem).ne_nil, (hparts name hmem).ne_dot]

theorem partsOf_cons_slash (text : Text) : partsOf ('/' :: text) = partsOf text := by
  unfold partsOf
  rw [Text.splitOn_cons_self]
  rfl

/-- The names of a path begin with something other than a slash. -/
theorem head?_join_ne {parts : List Text} (hparts : ∀ name ∈ parts, IsFileName name) :
    (Text.join ['/'] parts).head? ≠ some '/' := by
  cases parts with
  | nil => simp [Text.join]
  | cons first rest =>
      have hfirst := hparts first List.mem_cons_self
      obtain ⟨c, name, rfl⟩ := List.exists_cons_of_ne_nil hfirst.ne_nil
      have hc : c ≠ '/' := fun h => hfirst.noSlash (h ▸ List.mem_cons_self)
      cases rest <;> simpa [Text.join] using hc

theorem anchorOf_of_head?_ne {text : Text} (hhead : text.head? ≠ some '/') :
    anchorOf text = .here ∧ anchorOf ('/' :: text) = .top ∧
      anchorOf ('/' :: '/' :: text) = .doubleTop := by
  cases text with
  | nil => exact ⟨rfl, rfl, rfl⟩
  | cons c rest =>
      have hc : c ≠ '/' := by simpa using hhead
      refine ⟨?_, ?_, ?_⟩ <;> simp [anchorOf, hc]

theorem ofText_toText {path : FilePath} (hwritten : path.IsWritten) :
    ofText path.toText = path := by
  obtain ⟨anchor, parts⟩ := path
  have hparts : partsOf (Text.join ['/'] parts) = parts := partsOf_join hwritten
  obtain ⟨hhere, htop, hdouble⟩ := anchorOf_of_head?_ne (head?_join_ne hwritten)
  cases anchor with
  | here =>
      by_cases hnil : parts = []
      · rw [hnil]
        decide
      · have htext : toText ⟨.here, parts⟩ = Text.join ['/'] parts := by
          simp [toText, hnil]
        rw [htext, ofText, hhere, hparts]
  | top =>
      change FilePath.mk (anchorOf ('/' :: _)) (partsOf ('/' :: _)) = _
      rw [htop, partsOf_cons_slash, hparts]
  | doubleTop =>
      change FilePath.mk (anchorOf ('/' :: '/' :: _)) (partsOf ('/' :: '/' :: _)) = _
      rw [hdouble, partsOf_cons_slash, partsOf_cons_slash, hparts]

end FilePath

end XmlCheck
