import XmlCheck.Proofs.CanonicalPlace

/-!
# What a file tree answers

The strict walk takes the steps of the walk that only follows links, so where a path leads to an
entry, the entry stands at the canonical place of the path. A question about a path has no answer
only where a text is too long for the file system: the path, or a name on the way.
-/

namespace XmlCheck

namespace FileTree

section Walks

variable {tree : FileTree} {path : FilePath} {bound links : Nat} {place rest found : List Text}
  {entry : Entry}

/-- The walk that only follows links may go as deep as the strict walk may follow links. -/
theorem canonicalFrom_of_findFrom
    (hfound : tree.findFrom path bound links place rest = .ok (found, entry)) :
    tree.canonicalFrom links place rest = some found ∧ tree.entry? found = some entry := by
  fun_induction findFrom tree path bound links place rest with
  | case1 => cases hfound
  | case2 bound links place entry hentry =>
      cases hfound
      exact ⟨canonicalFrom_nil .., hentry⟩
  | case3 => cases hfound
  | case4 bound links place rest _ ih =>
      obtain ⟨hwalk, hentry⟩ := ih hfound
      exact ⟨canonicalFrom_cons_eq_some.mpr ⟨_, .up, hwalk⟩, hentry⟩
  | case5 => cases hfound
  | case6 => cases hfound
  | case7 => cases hfound
  | case8 bound place part rest _ hpart _ target hlink links path' ih =>
      -- the target and the names after it are one walk here and two walks there
      obtain ⟨hwalk, hentry⟩ := ih hfound
      rw [canonicalFrom_append] at hwalk
      obtain ⟨middle, hleads, hrest⟩ := Option.bind_eq_some_iff.mp hwalk
      refine ⟨canonicalFrom_cons_eq_some.mpr ⟨middle, .link hpart hlink hleads, ?_⟩, hentry⟩
      exact canonicalFrom_of_le (Nat.le_succ links) hrest
  | case9 bound links place part rest _ hpart _ entry hlink hentry ih =>
      obtain ⟨hwalk, hfoundEntry⟩ := ih hfound
      have hstays : ∀ target, tree.entry? (place ++ [part]) ≠ some (.link target) :=
        fun target hother => hlink target (Option.some.inj (hentry.symm.trans hother))
      exact ⟨canonicalFrom_cons_eq_some.mpr ⟨_, .down hpart hstays, hwalk⟩, hfoundEntry⟩
  | case10 => cases hfound
  | case11 => cases hfound

/-- Where a path leads to an entry, the entry stands at the canonical place of the path. -/
theorem canonical_of_find {here : List Text} (hfound : tree.find here path = .ok (found, entry)) :
    tree.canonical here path = .ok found ∧ tree.entry? found = some entry := by
  unfold find at hfound
  split at hfound
  · cases hfound
  rename_i hnull
  split at hfound
  · cases hfound
  obtain ⟨hcanonical, hentry⟩ := canonicalFrom_of_findFrom hfound
  have hdeeper := canonicalFrom_of_le (Nat.le_add_right linkLimit tree.entries.length) hcanonical
  change tree.canonicalFrom tree.linkDepth _ _ = _ at hdeeper
  exact ⟨by rw [canonical, if_neg hnull, hdeeper], hentry⟩

theorem find_of_ask {here : List Text} {question : Entry → Bool}
    (hasked : tree.ask here path question = .ok true) :
    ∃ found entry, tree.find here path = .ok (found, entry) ∧ question entry = true := by
  unfold ask at hasked
  split at hasked
  · rename_i found entry hfound
    exact ⟨found, entry, hfound, Except.ok.inj hasked⟩
  · cases hasked
  · cases hasked

/-! ### Questions without an answer -/

/-- A text that the file system does not take for a path, or a name that no file can have. -/
def TooLong (path : FilePath) : Prop :=
  pathLimit < (Utf8.encode path.toText).length ∨
    ∃ name ∈ path.parts, nameLimit < (Utf8.encode name).length

theorem exists_nameTooLong_of_findFrom {other : FilePath}
    (hsettled : tree.Settled (place ++ rest))
    (hlong : tree.findFrom path bound links place rest = .error (.nameTooLong other)) :
    other = path ∧ ∃ name ∈ rest, nameLimit < (Utf8.encode name).length := by
  fun_induction findFrom tree path bound links place rest with
  | case1 => cases hlong
  | case2 => cases hlong
  | case3 => cases hlong
  | case4 bound links place rest _ ih => exact absurd (by simp) hsettled.descends
  | case5 bound links place part rest _ _ hlength =>
      cases hlong
      exact ⟨rfl, part, List.mem_cons_self, hlength⟩
  | case6 => cases hlong
  | case7 => cases hlong
  | case8 bound place part rest _ _ _ target hlink =>
      have habove : place ++ [part] <+: place ++ part :: rest :=
        ⟨rest, (List.append_cons place part rest).symm⟩
      exact absurd hlink (hsettled.linkFree _ target habove)
  | case9 bound links place part rest _ _ _ entry _ _ ih =>
      rw [List.append_cons] at hsettled
      obtain ⟨hpath, name, hmem, hlength⟩ := ih hsettled hlong
      exact ⟨hpath, name, List.mem_cons_of_mem part hmem, hlength⟩
  | case10 => cases hlong
  | case11 => cases hlong

theorem eq_nameTooLong_of_ask {here : List Text} {question : Entry → Bool} {cause : FileError}
    (hasked : tree.ask here path question = .error cause) :
    ∃ other, cause = .nameTooLong other ∧ tree.find here path = .error (.nameTooLong other) := by
  unfold ask at hasked
  split at hasked
  · cases hasked
  · rename_i other hfound
    cases hasked
    exact ⟨other, rfl, hfound⟩
  · cases hasked

/-- A question about a settled place has no answer only where its path is too long. -/
theorem tooLong_of_ask {question : Entry → Bool} {cause : FileError}
    (hsettled : tree.Settled place)
    (hasked : tree.ask [] (.ofParts place) question = .error cause) :
    cause = .nameTooLong (.ofParts place) ∧ TooLong (.ofParts place) := by
  obtain ⟨other, rfl, hfound⟩ := eq_nameTooLong_of_ask hasked
  unfold find at hfound
  split at hfound
  · cases hfound
  split at hfound
  · rename_i hlength
    cases hfound
    exact ⟨rfl, .inl hlength⟩
  · have hfromTop : tree.Settled ([] ++ place) := hsettled
    obtain ⟨rfl, hname⟩ := exists_nameTooLong_of_findFrom hfromTop hfound
    exact ⟨rfl, .inr hname⟩

theorem findFrom_ne_nullByte : tree.findFrom path bound links place rest ≠ .error .nullByte := by
  fun_induction findFrom tree path bound links place rest with
  | case4 bound links place rest _ ih => exact ih
  | case8 bound place part rest _ _ _ target _ links path' ih => exact ih
  | case9 bound links place part rest _ _ _ entry _ _ ih => exact ih
  | _ => exact nofun

theorem find_ne_nullByte {here : List Text} (hnull : ∀ name ∈ path.parts, '\x00' ∉ name) :
    tree.find here path ≠ .error .nullByte := by
  unfold find
  split
  · rename_i hany
    obtain ⟨name, hmem, hname⟩ := List.any_eq_true.mp hany
    exact absurd (List.contains_iff_mem.mp hname) (hnull name hmem)
  · split
    · exact nofun
    · exact findFrom_ne_nullByte

/-- What does not lead anywhere cannot be read. -/
theorem exists_read_eq_error {here : List Text}
    (hleads : tree.leadsSomewhere here path ≠ .ok true)
    (hnull : ∀ name ∈ path.parts, '\x00' ∉ name) :
    ∃ cause, tree.read here path = .error cause ∧ cause ≠ .nullByte := by
  cases hfound : tree.find here path with
  | ok found =>
      refine absurd ?_ hleads
      unfold leadsSomewhere ask
      rw [hfound]
  | error cause =>
      refine ⟨cause, ?_, ?_⟩
      · unfold read
        rw [hfound]
      · rintro rfl
        exact find_ne_nullByte hnull hfound

end Walks

/-! ### Trees that answer alike -/

def Distinct (tree : FileTree) : Prop :=
  (tree.entries.map Prod.fst).Nodup

/-- The same stands at each place of two trees, and walks may go as deep and take as many steps. -/
structure Alike (tree other : FileTree) : Prop where
  entries : ∀ parts, tree.entry? parts = other.entry? parts
  depths : tree.linkDepth = other.linkDepth
  bounds : ∀ parts, tree.walkBound parts = other.walkBound parts

section Alike

variable {tree other : FileTree}

theorem Alike.symm (halike : tree.Alike other) : other.Alike tree :=
  ⟨fun parts => (halike.entries parts).symm, halike.depths.symm,
    fun parts => (halike.bounds parts).symm⟩

theorem Distinct.of_perm (hdistinct : tree.Distinct) (hperm : tree.entries.Perm other.entries) :
    other.Distinct :=
  (hperm.map Prod.fst).nodup_iff.mp hdistinct

/-- The order in which the entries of a tree are listed makes no difference. -/
theorem alike_of_perm (hdistinct : tree.Distinct) (hperm : tree.entries.Perm other.entries) :
    tree.Alike other := by
  constructor
  · intro parts
    unfold entry?
    split
    · rfl
    · refine Option.ext fun entry => ?_
      rw [lookup_eq_some_iff_mem hdistinct, lookup_eq_some_iff_mem (hdistinct.of_perm hperm),
        hperm.mem_iff]
  · unfold linkDepth
    rw [hperm.length_eq]
  · intro parts
    unfold walkBound
    rw [hperm.length_eq]
    dsimp only
    rw [hperm.foldl_eq']
    intro e _ f _ n
    cases e.2 <;> cases f.2 <;> simp only [Nat.max_assoc, Nat.max_comm, Nat.max_left_comm]

theorem Alike.linksWithin (halike : tree.Alike other) : LinksWithin tree other :=
  fun place _ hentry => (halike.entries place).symm.trans hentry

theorem Alike.findFrom_eq (halike : tree.Alike other) (path : FilePath) (bound links : Nat)
    (place rest : List Text) :
    tree.findFrom path bound links place rest = other.findFrom path bound links place rest := by
  induction bound generalizing links place rest with
  | zero => simp only [findFrom]
  | succ bound ih => cases rest <;> simp only [findFrom, halike.entries, ih]

theorem Alike.canonical_eq (halike : tree.Alike other) (here : List Text) (path : FilePath) :
    tree.canonical here path = other.canonical here path :=
  canonical_eq_of_linksWithin halike.linksWithin halike.symm.linksWithin halike.depths here path

theorem Alike.find_eq (halike : tree.Alike other) (here : List Text) (path : FilePath) :
    tree.find here path = other.find here path := by
  unfold find
  rw [halike.bounds, halike.findFrom_eq]

theorem Alike.ask_eq (halike : tree.Alike other) (here : List Text) (path : FilePath)
    (question : Entry → Bool) : tree.ask here path question = other.ask here path question := by
  unfold ask
  rw [halike.find_eq]

end Alike

end FileTree

end XmlCheck
