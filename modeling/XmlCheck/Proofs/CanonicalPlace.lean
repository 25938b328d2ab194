import XmlCheck.File.Tree
import XmlCheck.Proofs.Lookup
import Mathlib.Data.List.Infix

/-!
# Canonical places

A place is settled in a file tree when no part of the way to it is a link and no name on it leads
upwards. Following links ends in settled places, and a settled place is its own canonical place.
Files that are written or removed make no links, so a place that is settled once stays settled: this
is what lets a remembered place outlast the file that it was found for.
-/

namespace XmlCheck

namespace FileTree

/-- No part of the way to a place is a link. -/
def LinkFree (tree : FileTree) (place : List Text) : Prop :=
  ∀ above target, above <+: place → tree.entry? above ≠ some (.link target)

theorem linkFree_nil (tree : FileTree) : tree.LinkFree [] := by
  intro above target habove
  rw [List.prefix_nil.mp habove]
  unfold entry?
  simp

theorem LinkFree.of_prefix {tree : FileTree} {place above : List Text}
    (hfree : tree.LinkFree place) (habove : above <+: place) : tree.LinkFree above :=
  fun _ target hpart => hfree _ target (hpart.trans habove)

theorem LinkFree.snoc {tree : FileTree} {place : List Text} {name : Text}
    (hfree : tree.LinkFree place)
    (hentry : ∀ target, tree.entry? (place ++ [name]) ≠ some (.link target)) :
    tree.LinkFree (place ++ [name]) := by
  intro above target habove
  rcases List.prefix_concat_iff.mp habove with heq | habove
  · rw [heq]
    exact hentry target
  · exact hfree above target habove

theorem mem_entries_of_link {tree : FileTree} {place : List Text} {target : Text}
    (hentry : tree.entry? place = some (.link target)) : (place, .link target) ∈ tree.entries := by
  unfold entry? at hentry
  split at hentry
  · cases hentry
  · exact mem_of_lookup hentry

/-- The way to a place has no link and no name that leads upwards. -/
structure Settled (tree : FileTree) (place : List Text) : Prop where
  linkFree : tree.LinkFree place
  descends : ['.', '.'] ∉ place

theorem settled_nil (tree : FileTree) : tree.Settled [] :=
  ⟨tree.linkFree_nil, by simp⟩

theorem Settled.dropLast {tree : FileTree} {place : List Text} (hsettled : tree.Settled place) :
    tree.Settled place.dropLast :=
  ⟨hsettled.linkFree.of_prefix (List.dropLast_prefix place),
    fun hmem => hsettled.descends (List.mem_of_mem_dropLast hmem)⟩

theorem Settled.snoc {tree : FileTree} {place : List Text} {name : Text}
    (hsettled : tree.Settled place) (hname : name ≠ ['.', '.'])
    (hentry : ∀ target, tree.entry? (place ++ [name]) ≠ some (.link target)) :
    tree.Settled (place ++ [name]) := by
  refine ⟨hsettled.linkFree.snoc hentry, ?_⟩
  simp only [List.mem_append, List.mem_singleton, not_or]
  exact ⟨hsettled.descends, fun h => hname h.symm⟩

theorem holds_of_startOf {P : List Text → Prop} {here : List Text} (htop : P []) (hhere : P here)
    (path : FilePath) : P (startOf here path) := by
  unfold startOf
  split
  · exact htop
  · exact hhere

theorem Settled.startOf {tree : FileTree} {place : List Text} (hsettled : tree.Settled place)
    (path : FilePath) : tree.Settled (startOf place path) :=
  holds_of_startOf tree.settled_nil hsettled path

/-! ### Following links -/

section Walks

variable {tree : FileTree} {depth : Nat} {place rest found : List Text}

/-- What a walk keeps: it has to hold of the top, and to stay when a name leads upwards or to what it
names. Names are those of the walk and of the targets of links. -/
theorem holds_of_canonicalFrom {P : List Text → Prop} {Q : Text → Prop} (htop : P [])
    (hup : ∀ place, P place → P place.dropLast)
    (hdown : ∀ place name, P place → Q name → name ≠ ['.', '.'] →
      (∀ target, tree.entry? (place ++ [name]) ≠ some (.link target)) → P (place ++ [name]))
    (htargets : ∀ place target, tree.entry? place = some (.link target) →
      ∀ name ∈ FilePath.partsOf target, Q name)
    (hfound : tree.canonicalFrom depth place rest = some found) (hplace : P place)
    (hrest : ∀ name ∈ rest, Q name) : P found := by
  induction depth using Nat.strongRecOn generalizing place rest found with
  | ind depth ihdepth =>
      induction rest generalizing place with
      | nil =>
          cases hfound
          exact hplace
      | cons name rest ihrest =>
          rw [List.forall_mem_cons] at hrest
          obtain ⟨middle, hstep, hfound⟩ := canonicalFrom_cons_eq_some.mp hfound
          refine ihrest hfound ?_ hrest.2
          cases hstep with
          | up => exact hup place hplace
          | down hname hstays => exact hdown place name hplace hrest.1 hname hstays
          | @link lower _ _ _ target _ hentry hleads =>
              exact ihdepth lower (Nat.lt_succ_self lower) hleads
                (holds_of_startOf htop hplace (.ofText target)) (htargets _ target hentry)

theorem settled_of_canonicalFrom (hfound : tree.canonicalFrom depth place rest = some found)
    (hsettled : tree.Settled place) : tree.Settled found := by
  refine holds_of_canonicalFrom (Q := fun _ => True) tree.settled_nil ?_ ?_ ?_ hfound hsettled ?_
  · exact fun _ hplace => hplace.dropLast
  · exact fun _ _ hplace _ hname hstays => hplace.snoc hname hstays
  · exact fun _ _ _ _ _ => trivial
  · exact fun _ _ => trivial

/-- Where no part of the way is a link, following links goes nowhere else. -/
theorem canonicalFrom_of_settled (hsettled : tree.Settled (place ++ rest)) :
    tree.canonicalFrom depth place rest = some (place ++ rest) := by
  induction rest generalizing place with
  | nil => simp
  | cons name rest ih =>
      have hname : name ≠ ['.', '.'] := by
        rintro rfl
        exact hsettled.descends (by simp)
      have hstays : ∀ target, tree.entry? (place ++ [name]) ≠ some (.link target) := fun target =>
        hsettled.linkFree _ target ⟨rest, (List.append_cons place name rest).symm⟩
      rw [List.append_cons place name rest] at hsettled ⊢
      exact canonicalFrom_cons_eq_some.mpr ⟨_, .down hname hstays, ih hsettled⟩

/-- A walk along settled names arrives at their place and goes on from there. -/
theorem canonicalFrom_append_of_settled {names : List Text}
    (hsettled : tree.Settled (place ++ names)) (depth : Nat) (rest : List Text) :
    tree.canonicalFrom depth place (names ++ rest) =
      tree.canonicalFrom depth (place ++ names) rest := by
  rw [canonicalFrom_append, canonicalFrom_of_settled hsettled, Option.bind_some]

/-- A walk that may follow links deeper ends where it ended. -/
theorem canonicalFrom_of_le {deeper : Nat} (hdepth : depth ≤ deeper)
    (hfound : tree.canonicalFrom depth place rest = some found) :
    tree.canonicalFrom deeper place rest = some found := by
  induction depth using Nat.strongRecOn generalizing deeper place rest found with
  | ind depth ihdepth =>
      induction rest generalizing place with
      | nil => exact hfound
      | cons name rest ihrest =>
          obtain ⟨middle, hstep, hfound⟩ := canonicalFrom_cons_eq_some.mp hfound
          refine canonicalFrom_cons_eq_some.mpr ⟨middle, ?_, ihrest hfound⟩
          cases hstep with
          | up => exact .up
          | down hname hstays => exact .down hname hstays
          | @link lower _ _ _ _ hname hentry hleads =>
              obtain ⟨more, rfl⟩ := Nat.exists_eq_add_of_le' hdepth
              exact .link hname hentry
                (ihdepth lower (Nat.lt_succ_self lower) (Nat.le_add_left lower more) hleads)

end Walks

theorem canonical_eq_ok_iff {tree : FileTree} {here place : List Text} {path : FilePath} :
    tree.canonical here path = .ok place ↔ (∀ name ∈ path.parts, '\x00' ∉ name) ∧
      tree.canonicalFrom tree.linkDepth (startOf here path) path.parts = some place := by
  have hnull : (path.parts.any fun name => List.contains name '\x00') = true ↔
      ¬ ∀ name ∈ path.parts, '\x00' ∉ name := by
    simp
  unfold canonical
  by_cases hnames : ∀ name ∈ path.parts, '\x00' ∉ name
  · rw [if_neg (by rw [hnull]; exact not_not_intro hnames)]
    cases tree.canonicalFrom tree.linkDepth (startOf here path) path.parts with
    | none => simp
    | some found => simpa using fun _ : found = place => hnames
  · rw [if_pos (hnull.mpr hnames)]
    simp [hnames]

theorem canonicalFrom_of_canonical {tree : FileTree} {here place : List Text} {path : FilePath}
    (hcanonical : tree.canonical here path = .ok place) :
    tree.canonicalFrom tree.linkDepth (startOf here path) path.parts = some place :=
  (canonical_eq_ok_iff.mp hcanonical).2

theorem settled_of_canonical {tree : FileTree} {here place : List Text} {path : FilePath}
    (hcanonical : tree.canonical here path = .ok place) (hhere : tree.Settled here) :
    tree.Settled place :=
  settled_of_canonicalFrom (canonicalFrom_of_canonical hcanonical) (hhere.startOf path)

/-- What holds of each name where a walk starts, on its way and in the targets of links holds of each
name where it ends. -/
theorem forall_mem_of_canonical {tree : FileTree} {here place : List Text} {path : FilePath}
    {Q : Text → Prop} (htargets : ∀ place target, tree.entry? place = some (.link target) →
      ∀ name ∈ FilePath.partsOf target, Q name)
    (hcanonical : tree.canonical here path = .ok place) (hhere : ∀ name ∈ here, Q name)
    (hparts : ∀ name ∈ path.parts, Q name) : ∀ name ∈ place, Q name := by
  have hstart : ∀ name ∈ startOf here path, Q name :=
    holds_of_startOf (P := fun place => ∀ name ∈ place, Q name) nofun hhere path
  refine holds_of_canonicalFrom (P := fun place => ∀ name ∈ place, Q name) nofun ?_ ?_ htargets
    (canonicalFrom_of_canonical hcanonical) hstart hparts
  · exact fun _ hplace name hmem => hplace name (List.mem_of_mem_dropLast hmem)
  · intro place name hplace hname _ _
    exact List.forall_mem_append.mpr ⟨hplace, List.forall_mem_singleton.mpr hname⟩

/-- A settled place is its own canonical place, seen from anywhere. -/
theorem canonical_ofParts {tree : FileTree} {place : List Text} (here : List Text)
    (hsettled : tree.Settled place) (hnull : ∀ name ∈ place, '\x00' ∉ name) :
    tree.canonical here (.ofParts place) = .ok place :=
  canonical_eq_ok_iff.mpr ⟨hnull, canonicalFrom_of_settled hsettled⟩

theorem canonical_eq_error {tree : FileTree} {here : List Text} {path : FilePath}
    {cause : FileError} (hcanonical : tree.canonical here path = .error cause) :
    (cause = .nullByte ∧ ∃ name ∈ path.parts, '\x00' ∈ name) ∨
      cause = tree.circle here path := by
  unfold canonical at hcanonical
  split at hcanonical
  · rename_i hnull
    cases hcanonical
    obtain ⟨name, hmem, hname⟩ := List.any_eq_true.mp hnull
    exact .inl ⟨rfl, name, hmem, List.contains_iff_mem.mp hname⟩
  · split at hcanonical
    · cases hcanonical
    · cases hcanonical
      exact .inr rfl

/-- What is a file has no name that no file can have. -/
theorem null_not_mem_of_isFile {tree : FileTree} {here place : List Text}
    (hfile : tree.isFile here (.ofParts place) = .ok true) : ∀ name ∈ place, '\x00' ∉ name := by
  intro name hmem hnull
  have hany : ((FilePath.ofParts place).parts.any fun part => List.contains part '\x00') = true :=
    List.any_eq_true.mpr ⟨name, hmem, List.contains_iff_mem.mpr hnull⟩
  unfold isFile ask find at hfile
  rw [if_pos hany] at hfile
  cases hfile

/-! ### Changes that make no links -/

/-- Each link of the later tree is one of the earlier tree. -/
def LinksWithin (later earlier : FileTree) : Prop :=
  ∀ place target, later.entry? place = some (.link target) →
    earlier.entry? place = some (.link target)

theorem LinksWithin.refl (tree : FileTree) : LinksWithin tree tree :=
  fun _ _ hentry => hentry

theorem LinksWithin.trans {last middle first : FileTree} (hlast : LinksWithin last middle)
    (hmiddle : LinksWithin middle first) : LinksWithin last first :=
  fun place target hentry => hmiddle place target (hlast place target hentry)

/-- Following links depends on nothing but the links. -/
theorem canonicalFrom_of_linksWithin {tree other : FileTree} (hwithin : LinksWithin tree other)
    (hcovers : LinksWithin other tree) {depth : Nat} {place rest found : List Text}
    (hfound : tree.canonicalFrom depth place rest = some found) :
    other.canonicalFrom depth place rest = some found := by
  induction depth using Nat.strongRecOn generalizing place rest found with
  | ind depth ihdepth =>
      induction rest generalizing place with
      | nil => exact hfound
      | cons name rest ihrest =>
          obtain ⟨middle, hstep, hfound⟩ := canonicalFrom_cons_eq_some.mp hfound
          refine canonicalFrom_cons_eq_some.mpr ⟨middle, ?_, ihrest hfound⟩
          cases hstep with
          | up => exact .up
          | down hname hstays =>
              exact .down hname fun target hentry => hstays target (hcovers _ _ hentry)
          | @link lower _ _ _ _ hname hentry hleads =>
              exact .link hname (hwithin _ _ hentry) (ihdepth lower (Nat.lt_succ_self lower) hleads)

theorem canonicalFrom_eq_of_linksWithin {tree other : FileTree} (hwithin : LinksWithin tree other)
    (hcovers : LinksWithin other tree) (depth : Nat) (place rest : List Text) :
    tree.canonicalFrom depth place rest = other.canonicalFrom depth place rest := by
  ext found
  exact ⟨canonicalFrom_of_linksWithin hwithin hcovers, canonicalFrom_of_linksWithin hcovers hwithin⟩

theorem followOpened_eq_of_linksWithin {tree other : FileTree} (hwithin : LinksWithin tree other)
    (hcovers : LinksWithin other tree) (depth : Nat) (opened : List (List Text)) :
    tree.followOpened depth opened = other.followOpened depth opened := by
  induction depth generalizing opened with
  | zero | succ =>
      funext place name
      unfold followOpened
      by_cases hlink : ∃ target, tree.entry? (place ++ [name]) = some (.link target)
      · obtain ⟨target, hentry⟩ := hlink
        simp only [hwithin _ _ hentry, *]
      · have hother : ∀ target, other.entry? (place ++ [name]) ≠ some (.link target) :=
          fun target hentry => hlink ⟨target, hcovers _ _ hentry⟩
        split
        · rfl
        split
        · exact absurd ⟨_, ‹_›⟩ hlink
        · rfl

theorem circle_eq_of_linksWithin {tree other : FileTree} (hwithin : LinksWithin tree other)
    (hcovers : LinksWithin other tree) (hdepth : tree.linkDepth = other.linkDepth)
    (here : List Text) (path : FilePath) : tree.circle here path = other.circle here path := by
  unfold circle circlePlace
  rw [hdepth, followOpened_eq_of_linksWithin hwithin hcovers]

/-- So it is the same in two trees that have the same links and as many entries. -/
theorem canonical_eq_of_linksWithin {tree other : FileTree} (hwithin : LinksWithin tree other)
    (hcovers : LinksWithin other tree) (hdepth : tree.linkDepth = other.linkDepth)
    (here : List Text) (path : FilePath) :
    tree.canonical here path = other.canonical here path := by
  unfold canonical
  rw [hdepth, canonicalFrom_eq_of_linksWithin hwithin hcovers,
    circle_eq_of_linksWithin hwithin hcovers hdepth]

theorem Settled.of_linksWithin {later earlier : FileTree} {place : List Text}
    (hsettled : earlier.Settled place) (hlinks : LinksWithin later earlier) :
    later.Settled place :=
  ⟨fun above target habove hentry =>
    hsettled.linkFree above target habove (hlinks above target hentry), hsettled.descends⟩

theorem linksWithin_erase (tree : FileTree) (parts : List Text) :
    LinksWithin (tree.erase parts) tree := by
  intro place target hentry
  unfold entry? erase at *
  rw [lookup_filter_ne] at hentry
  grind

theorem linksWithin_insert (tree : FileTree) (parts : List Text) {entry : Entry}
    (hentry : ∀ target, entry ≠ .link target) : LinksWithin (tree.insert parts entry) tree := by
  intro place target hplace
  unfold entry? insert at *
  rw [List.lookup_cons, lookup_filter_ne] at hplace
  grind

theorem linksWithin_withDirectories (tree : FileTree) (above rest : List Text) :
    LinksWithin (tree.withDirectories above rest) tree := by
  fun_induction withDirectories tree above rest with
  | case1 => exact .refl _
  | case2 => exact .refl _
  | case3 tree above name rest _ place made ih =>
      refine ih.trans ?_
      unfold made
      split
      · exact .refl _
      · exact linksWithin_insert _ _ fun _ h => by cases h

theorem linksWithin_write (tree : FileTree) (here : List Text) (path : FilePath)
    (content : List UInt8) : LinksWithin (tree.write here path content) tree :=
  (linksWithin_insert _ _ (fun _ h => by cases h)).trans
    (linksWithin_withDirectories tree [] _)

theorem linksWithin_remove (tree : FileTree) (here : List Text) (path : FilePath) :
    LinksWithin (tree.remove here path) tree :=
  linksWithin_erase tree _

end FileTree

end XmlCheck
