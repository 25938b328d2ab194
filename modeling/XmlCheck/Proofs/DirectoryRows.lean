import Mathlib.Data.Char
import Mathlib.Data.List.Lex
import Mathlib.Data.List.Perm.Subperm
import XmlCheck.Discovery
import XmlCheck.Proofs.TreeAnswers

/-!
# Rows of names below a directory

A file system has one entry at each place. Then the rows that a search goes through are, each of
them once, those that lead down through directories (`FileTree.Descends`): a row is never longer
than the tree has entries, so the bound of the search cuts none off. Rows are put in the order of
their names, which compares code points.
-/

namespace XmlCheck

namespace FileTree

/-- A row of names leads down from a place through directories, none of which is a link. -/
def Descends (tree : FileTree) (place row : List Text) : Prop :=
  ∀ above, above <+: row → above ≠ [] → tree.entry? (place ++ above) = some .directory

/-- A row of names leads from a place through directories to something that stands there. -/
inductive Below (tree : FileTree) (place : List Text) : List Text → Prop
  | stands {above : List Text} {name : Text} {entry : Entry} (descends : tree.Descends place above)
    (entry_eq : tree.entry? (place ++ (above ++ [name])) = some entry) :
    Below tree place (above ++ [name])

variable {tree : FileTree} {place row : List Text} {name : Text}

theorem entry?_of_ne_nil {parts : List Text} (hparts : parts ≠ []) :
    tree.entry? parts = tree.entries.lookup parts := by
  unfold entry?
  rw [if_neg (by simpa using hparts)]

theorem descends_nil (tree : FileTree) (place : List Text) : tree.Descends place [] := by
  intro above habove hne
  exact absurd (List.prefix_nil.mp habove) hne

theorem descends_cons : tree.Descends place (name :: row) ↔
    tree.entry? (place ++ [name]) = some .directory ∧ tree.Descends (place ++ [name]) row := by
  constructor
  · intro hdescends
    refine ⟨hdescends [name] ⟨row, rfl⟩ (List.cons_ne_nil name []), fun above habove hne => ?_⟩
    rw [← List.append_cons]
    exact hdescends (name :: above) (List.cons_prefix_cons.mpr ⟨rfl, habove⟩)
      (List.cons_ne_nil name above)
  · rintro ⟨hfirst, hrest⟩ above habove hne
    rcases List.prefix_cons_iff.mp habove with hnil | ⟨later, rfl, hlater⟩
    · exact absurd hnil hne
    · cases later with
      | nil => exact hfirst
      | cons next later =>
          rw [List.append_cons]
          exact hrest (next :: later) hlater (List.cons_ne_nil next later)

/-- Each beginning of a row has an entry of its own. -/
theorem Descends.length_le (hdescends : tree.Descends place row) :
    row.length ≤ tree.entries.length := by
  let places := (List.range row.length).map fun n => place ++ row.take (n + 1)
  have hnodup : places.Nodup := by
    refine List.Nodup.map_on (fun m hm n hn hsame => ?_) List.nodup_range
    have hlength := congrArg List.length hsame
    rw [List.mem_range] at hm hn
    simp only [List.length_append, List.length_take] at hlength
    omega
  have hsubset : places ⊆ tree.entries.map Prod.fst := by
    intro parts hparts
    obtain ⟨n, hn, rfl⟩ := List.mem_map.mp hparts
    have hne : row.take (n + 1) ≠ [] := by
      rw [List.mem_range] at hn
      intro hnil
      rw [List.take_eq_nil_iff] at hnil
      rcases hnil with hzero | hnil
      · cases hzero
      · rw [hnil] at hn
        cases hn
    have hentry := hdescends _ (List.take_prefix (n + 1) row) hne
    rw [entry?_of_ne_nil (List.append_ne_nil_of_right_ne_nil place hne)] at hentry
    exact List.mem_map.mpr ⟨_, mem_of_lookup hentry, rfl⟩
  have hlength := (hnodup.subperm hsubset).length_le
  simpa [places] using hlength

theorem Descends.of_alike {other : FileTree} (halike : tree.Alike other)
    (hdescends : tree.Descends place row) : other.Descends place row := by
  intro above habove hne
  rw [← halike.entries]
  exact hdescends above habove hne

theorem Below.of_alike {other : FileTree} (halike : tree.Alike other)
    (hbelow : tree.Below place row) : other.Below place row := by
  obtain ⟨hdescends, hentry⟩ := hbelow
  rw [halike.entries] at hentry
  exact .stands (hdescends.of_alike halike) hentry

/-! ### What stands in a directory -/

theorem mem_children_iff_mem {entry : Entry} :
    (name, entry) ∈ tree.children place ↔ (place ++ [name], entry) ∈ tree.entries := by
  unfold children
  rw [List.mem_filterMap]
  constructor
  · rintro ⟨⟨parts, found⟩, hmem, hname⟩
    dsimp only at hname
    split at hname
    · rename_i other hbelow
      cases hname
      rwa [← Text.after?_eq_some hbelow]
    · cases hname
  · intro hmem
    refine ⟨_, hmem, ?_⟩
    simp only [FilePath.below?, Text.after?_append]

theorem mem_children_iff (hdistinct : tree.Distinct) {entry : Entry} :
    (name, entry) ∈ tree.children place ↔ tree.entry? (place ++ [name]) = some entry := by
  rw [entry?_of_ne_nil (by simp), lookup_eq_some_iff_mem hdistinct, mem_children_iff_mem]

theorem nodup_names_children (hdistinct : tree.Distinct) (place : List Text) :
    ((tree.children place).map Prod.fst).Nodup := by
  have hentries := List.pairwise_map.mp hdistinct
  refine List.pairwise_map.mpr (List.pairwise_filterMap.mpr (hentries.imp ?_))
  intro e other hplaces child hchild second hsecond hnames
  refine hplaces ?_
  split at hchild
  · rename_i hbelow
    cases hchild
    split at hsecond
    · rename_i hother
      cases hsecond
      rw [Text.after?_eq_some hbelow, Text.after?_eq_some hother]
      exact congrArg (fun name => place ++ [name]) hnames
    · cases hsecond
  · cases hchild

end FileTree

namespace Discovery

open FileTree

variable {tree : FileTree} {place row : List Text} {bound : Nat}

/-! ### Directories -/

theorem mem_directoryNames_iff (hdistinct : tree.Distinct) {name : Text} :
    name ∈ directoryNames tree place ↔ tree.entry? (place ++ [name]) = some .directory := by
  unfold directoryNames
  rw [← mem_children_iff hdistinct, List.mem_map]
  constructor
  · rintro ⟨⟨name, entry⟩, hchild, rfl⟩
    obtain ⟨hmem, hentry⟩ := List.mem_filter.mp hchild
    rwa [← of_decide_eq_true hentry]
  · intro hmem
    exact ⟨_, List.mem_filter.mpr ⟨hmem, decide_eq_true rfl⟩, rfl⟩

theorem nodup_directoryNames (hdistinct : tree.Distinct) (place : List Text) :
    (directoryNames tree place).Nodup :=
  (nodup_names_children hdistinct place).sublist (List.filter_sublist.map Prod.fst)

theorem mem_directoryRows_iff (hdistinct : tree.Distinct) :
    row ∈ directoryRows tree bound place ↔ row.length < bound ∧ tree.Descends place row := by
  induction bound generalizing place row with
  | zero => simp [directoryRows]
  | succ bound ih =>
      rw [directoryRows, List.mem_cons, List.mem_flatMap]
      cases row with
      | nil => simp [descends_nil]
      | cons name rest =>
          rw [descends_cons, ← mem_directoryNames_iff hdistinct, List.length_cons,
            Nat.add_lt_add_iff_right]
          constructor
          · rintro (hnil | ⟨first, hname, hrow⟩)
            · cases hnil
            · obtain ⟨later, hlater, hsame⟩ := List.mem_map.mp hrow
              cases hsame
              obtain ⟨hlength, hdescends⟩ := ih.mp hlater
              exact ⟨hlength, hname, hdescends⟩
          · rintro ⟨hlength, hname, hdescends⟩
            exact .inr ⟨name, hname, List.mem_map.mpr ⟨rest, ih.mpr ⟨hlength, hdescends⟩, rfl⟩⟩

theorem nodup_directoryRows (hdistinct : tree.Distinct) (bound : Nat) (place : List Text) :
    (directoryRows tree bound place).Nodup := by
  induction bound generalizing place with
  | zero => exact List.nodup_nil
  | succ bound ih =>
      rw [directoryRows, List.nodup_cons, List.nodup_flatMap]
      refine ⟨fun hmem => ?_, fun name _ => (ih _).map List.cons_injective, ?_⟩
      · obtain ⟨name, -, hrow⟩ := List.mem_flatMap.mp hmem
        obtain ⟨rest, -, hnil⟩ := List.mem_map.mp hrow
        cases hnil
      · refine (nodup_directoryNames hdistinct place).imp fun hne row hrow hother => ?_
        obtain ⟨rest, -, rfl⟩ := List.mem_map.mp hrow
        obtain ⟨later, -, hsame⟩ := List.mem_map.mp hother
        cases hsame
        exact hne rfl

/-! ### Documents -/

/-- The rows of what is named like a document in a directory or below it. -/
def allDocumentRows (tree : FileTree) (place : List Text) : List (List Text) :=
  (directoryRows tree (tree.entries.length + 1) place).flatMap (documentRows tree place)

theorem mem_documentRows_iff (hdistinct : tree.Distinct) {above : List Text} :
    row ∈ documentRows tree place above ↔ ∃ name entry, row = above ++ [name] ∧
      tree.entry? (place ++ (above ++ [name])) = some entry ∧ isDocumentName name = true := by
  unfold documentRows
  rw [List.mem_map]
  constructor
  · rintro ⟨name, hmem, rfl⟩
    obtain ⟨hlisted, hname⟩ := List.mem_filter.mp hmem
    obtain ⟨⟨_, entry⟩, hchild, rfl⟩ := List.mem_map.mp hlisted
    have hentry := (mem_children_iff hdistinct).mp hchild
    rw [List.append_assoc] at hentry
    exact ⟨_, entry, rfl, hentry, hname⟩
  · rintro ⟨name, entry, rfl, hentry, hname⟩
    rw [← List.append_assoc] at hentry
    have hchild := (mem_children_iff hdistinct).mpr hentry
    exact ⟨name, List.mem_filter.mpr ⟨List.mem_map.mpr ⟨_, hchild, rfl⟩, hname⟩, rfl⟩

theorem mem_allDocumentRows_iff (hdistinct : tree.Distinct) :
    row ∈ allDocumentRows tree place ↔
      tree.Below place row ∧ documentEnding <:+ row.getLastD [] := by
  unfold allDocumentRows
  rw [List.mem_flatMap]
  constructor
  · rintro ⟨above, habove, hrow⟩
    obtain ⟨name, entry, rfl, hentry, hname⟩ := (mem_documentRows_iff hdistinct).mp hrow
    have hdescends := ((mem_directoryRows_iff hdistinct).mp habove).2
    rw [List.getLastD_concat]
    exact ⟨.stands hdescends hentry, List.isSuffixOf_iff_suffix.mp hname⟩
  · rintro ⟨hbelow, hname⟩
    cases hbelow with
    | @stands above name entry hdescends hentry =>
        rw [List.getLastD_concat] at hname
        refine ⟨above, (mem_directoryRows_iff hdistinct).mpr ⟨?_, hdescends⟩, ?_⟩
        · exact Nat.lt_succ_of_le hdescends.length_le
        · exact (mem_documentRows_iff hdistinct).mpr
            ⟨name, entry, rfl, hentry, List.isSuffixOf_iff_suffix.mpr hname⟩

theorem nodup_allDocumentRows (hdistinct : tree.Distinct) (place : List Text) :
    (allDocumentRows tree place).Nodup := by
  refine List.nodup_flatMap.mpr ⟨fun above _ => ?_, ?_⟩
  · have hnames := nodup_names_children hdistinct (place ++ above)
    refine (hnames.filter _).map fun name other hsame => ?_
    simpa using hsame
  · refine (nodup_directoryRows hdistinct _ place).imp fun hne row hrow hother => hne ?_
    obtain ⟨name, _, rfl, -⟩ := (mem_documentRows_iff hdistinct).mp hrow
    obtain ⟨other, _, hsame, -⟩ := (mem_documentRows_iff hdistinct).mp hother
    exact (List.append_inj' hsame rfl).1

end Discovery

/-! ### Order -/

theorem Text.lt_iff (first second : Text) : lt first second = true ↔ first < second := by
  induction first generalizing second with
  | nil => cases second <;> simp [lt]
  | cons c first ih =>
      cases second with
      | nil => simp [lt]
      | cons d second =>
          have hcode : c.toNat < d.toNat ↔ c < d := UInt32.lt_iff_toNat_lt.symm
          rw [lt, Bool.or_eq_true, Bool.and_eq_true, decide_eq_true_eq, beq_iff_eq, hcode, ih,
            List.cons_lt_cons_iff]

theorem rowLe_iff (first second : List Text) : rowLe first second = true ↔ ¬ second < first := by
  induction first generalizing second with
  | nil => simp [rowLe]
  | cons name first ih =>
      cases second with
      | nil => simp [rowLe]
      | cons other second =>
          rw [rowLe, Bool.or_eq_true, Bool.and_eq_true, Text.lt_iff, beq_iff_eq, ih,
            List.cons_lt_cons_iff]
          rcases lt_trichotomy name other with hlt | rfl | hgt
          · simp [hlt, hlt.not_gt, hlt.ne, hlt.ne']
          · simp
          · simp [hgt, hgt.not_gt, hgt.ne, hgt.ne']

theorem pairwise_mergeSort_rowLe {rows : List (List Text)} (hnodup : rows.Nodup) :
    (rows.mergeSort rowLe).Pairwise (· < ·) := by
  have hsorted : (rows.mergeSort rowLe).Pairwise fun a b => rowLe a b = true := by
    refine List.pairwise_mergeSort (fun a b c hab hbc => ?_) (fun a b => ?_) rows
    · rw [rowLe_iff, not_lt] at *
      exact le_trans hab hbc
    · rw [Bool.or_eq_true, rowLe_iff, rowLe_iff, not_lt, not_lt]
      exact le_total a b
  have hdistinct : (rows.mergeSort rowLe).Nodup :=
    (List.mergeSort_perm rows rowLe).nodup_iff.mpr hnodup
  refine (hsorted.and hdistinct).imp fun h => ?_
  exact lt_of_le_of_ne (not_lt.mp ((rowLe_iff _ _).mp h.1)) h.2

/-- Rows that increase strictly are told by what is among them. -/
theorem eq_of_pairwise_lt {rows others : List (List Text)} (hrows : rows.Pairwise (· < ·))
    (hothers : others.Pairwise (· < ·)) (hmem : ∀ row, row ∈ rows ↔ row ∈ others) :
    rows = others := by
  have hperm : rows.Perm others :=
    (List.perm_ext_iff_of_nodup (hrows.imp fun h => ne_of_lt h)
      (hothers.imp fun h => ne_of_lt h)).mpr hmem
  exact hperm.eq_of_pairwise (fun _ _ _ _ hlt hgt => absurd hlt (lt_asymm hgt)) hrows hothers

end XmlCheck
