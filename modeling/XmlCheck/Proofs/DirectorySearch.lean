import XmlCheck.Proofs.DirectoryRows

/-!
# What a search through a directory finds

The search asks the file system about each row of names below a directory that ends like a document.
Where every question has an answer (`Discovery.Searchable`), what it finds is told by the tree alone:
a request for each row that leads to a file and has no excluded name, in the order of the names, and
no other one. Where some path is too long there is no answer, and the search ends without a request.
-/

namespace XmlCheck

namespace Discovery

/-! ### Searches one after the other -/

section Gathering

variable {α β : Type} {search : α → Except FileError (List β)} {items : List α}

theorem gather_eq_ok {found : α → List β} (hsearch : ∀ item ∈ items, search item = .ok (found item)) :
    gather search items = .ok (items.flatMap found) := by
  induction items with
  | nil => rfl
  | cons item items ih =>
      rw [List.forall_mem_cons] at hsearch
      simp only [gather, hsearch.1, ih hsearch.2, List.flatMap_cons]
      rfl

theorem exists_error_of_gather {cause : FileError} (hgather : gather search items = .error cause) :
    ∃ item ∈ items, search item = .error cause := by
  induction items with
  | nil => cases hgather
  | cons item items ih =>
      rw [gather] at hgather
      split at hgather
      · rename_i hitem
        cases hgather
        exact ⟨item, List.mem_cons_self, hitem⟩
      · cases hrest : gather search items with
        | ok found =>
            rw [hrest] at hgather
            cases hgather
        | error other =>
            rw [hrest] at hgather
            cases hgather
            obtain ⟨later, hmem, hlater⟩ := ih hrest
            exact ⟨later, List.mem_cons_of_mem item hmem, hlater⟩

theorem exists_gather_eq_error {item : α} {cause : FileError} (hmem : item ∈ items)
    (hsearch : search item = .error cause) : ∃ other, gather search items = .error other := by
  induction items with
  | nil => cases hmem
  | cons first items ih =>
      rw [gather]
      rcases List.mem_cons.mp hmem with rfl | hlater
      · exact ⟨cause, by rw [hsearch]⟩
      · obtain ⟨other, hrest⟩ := ih hlater
        cases hfirst : search first with
        | error sooner => exact ⟨sooner, rfl⟩
        | ok found => exact ⟨other, by rw [hrest]; rfl⟩

end Gathering

section Searching

variable {tree other : FileTree} {here place row : List Text} {root path : FilePath}
  {excluded : List Text}

/-! ### Questions with an answer -/

/-- No path is too long for a search: each directory can be listed by its path, and the question
whether there is a file has an answer for everything that is named like a document. -/
structure Searchable (tree : FileTree) (here place : List Text) (path : FilePath) : Prop where
  listable : ∀ row, tree.Descends place row →
    (Utf8.encode (path.extend row).toText).length ≤ pathLimit
  answered : ∀ row, tree.Below place row → documentEnding <:+ row.getLastD [] →
    ∃ answer, tree.isFile here (path.extend row) = .ok answer

theorem searchable_iff (hdistinct : tree.Distinct) : Searchable tree here place path ↔
    (∀ row ∈ directoryRows tree (tree.entries.length + 1) place,
      (Utf8.encode (path.extend row).toText).length ≤ pathLimit) ∧
    ∀ row ∈ allDocumentRows tree place, ∃ answer, tree.isFile here (path.extend row) = .ok answer := by
  constructor
  · rintro ⟨hlistable, hanswered⟩
    refine ⟨fun row hrow => ?_, fun row hrow => ?_⟩
    · exact hlistable row ((mem_directoryRows_iff hdistinct).mp hrow).2
    · obtain ⟨hbelow, hending⟩ := (mem_allDocumentRows_iff hdistinct).mp hrow
      exact hanswered row hbelow hending
  · rintro ⟨hlistable, hanswered⟩
    refine ⟨fun row hdescends => hlistable row ?_, fun row hbelow hending => hanswered row ?_⟩
    · exact (mem_directoryRows_iff hdistinct).mpr
        ⟨Nat.lt_succ_of_le hdescends.length_le, hdescends⟩
    · exact (mem_allDocumentRows_iff hdistinct).mpr ⟨hbelow, hending⟩

def leadsToFile (tree : FileTree) (here : List Text) (path : FilePath) (row : List Text) : Bool :=
  tree.isFile here (path.extend row) = .ok true

theorem keepFile_eq_ok {answer : Bool} (hanswer : tree.isFile here (path.extend row) = .ok answer) :
    keepFile tree here path row = .ok ([row].filter (leadsToFile tree here path)) := by
  unfold keepFile
  cases answer <;> simp [hanswer, leadsToFile, Except.map]

theorem documentsIn_eq_ok
    (hlistable : (Utf8.encode (path.extend row).toText).length ≤ pathLimit)
    (hanswered : ∀ document ∈ documentRows tree place row,
      ∃ answer, tree.isFile here (path.extend document) = .ok answer) :
    documentsIn tree here place path row =
      .ok ((documentRows tree place row).filter (leadsToFile tree here path)) := by
  rw [documentsIn, if_neg (Nat.not_lt.mpr hlistable)]
  rw [gather_eq_ok fun document hmem => keepFile_eq_ok (hanswered document hmem).choose_spec]
  rw [← List.filter_flatMap, List.flatMap_singleton']

/-- A row of names leads from a path to a file that is to be checked. -/
structure Wanted (tree : FileTree) (here place : List Text) (path : FilePath)
    (excluded : List Text) (row : List Text) : Prop where
  below : tree.Below place row
  ending : documentEnding <:+ row.getLastD []
  notExcluded : row.getLastD [] ∉ excluded
  file : tree.isFile here (path.extend row) = .ok true

theorem mem_filter_leadsToFile_iff (hdistinct : tree.Distinct) :
    row ∈ ((allDocumentRows tree place).filter (leadsToFile tree here path)).filter
        (fun row => !excluded.contains (row.getLastD [])) ↔
      Wanted tree here place path excluded row := by
  rw [List.mem_filter, List.mem_filter, mem_allDocumentRows_iff hdistinct, Bool.not_eq_true',
    ← Bool.not_eq_true, List.contains_iff_mem, leadsToFile, decide_eq_true_iff]
  constructor
  · rintro ⟨⟨⟨hbelow, hending⟩, hfile⟩, hexcluded⟩
    exact ⟨hbelow, hending, hexcluded, hfile⟩
  · rintro ⟨hbelow, hending, hexcluded, hfile⟩
    exact ⟨⟨⟨hbelow, hending⟩, hfile⟩, hexcluded⟩

/-- A search that has all its answers finds the rows that are wanted, each one once and in the order
of the names. -/
theorem exists_walk_eq_ok (hdistinct : tree.Distinct) (hsearch : Searchable tree here place path)
    (excluded : List Text) :
    ∃ rows, walk tree here excluded place path = .ok rows ∧ rows.Pairwise (· < ·) ∧
      ∀ row, row ∈ rows ↔ Wanted tree here place path excluded row := by
  obtain ⟨hlistable, hanswered⟩ := (searchable_iff hdistinct).mp hsearch
  have hgather := gather_eq_ok fun row hrow => documentsIn_eq_ok (hlistable row hrow)
    fun document hmem => hanswered document (List.mem_flatMap.mpr ⟨row, hrow, hmem⟩)
  rw [← List.filter_flatMap] at hgather
  change _ = Except.ok ((allDocumentRows tree place).filter _) at hgather
  refine ⟨_, by rw [walk, hgather]; rfl, pairwise_mergeSort_rowLe ?_, fun row => ?_⟩
  · exact ((nodup_allDocumentRows hdistinct place).filter _).filter _
  · rw [List.mem_mergeSort]
    exact mem_filter_leadsToFile_iff hdistinct

/-! ### Questions without an answer -/

theorem exists_nameTooLong_of_documentsIn {cause : FileError}
    (hdocuments : documentsIn tree here place path row = .error cause) :
    ∃ long, cause = .nameTooLong long := by
  unfold documentsIn at hdocuments
  split at hdocuments
  · cases hdocuments
    exact ⟨_, rfl⟩
  · obtain ⟨document, -, hkeep⟩ := exists_error_of_gather hdocuments
    unfold keepFile at hkeep
    cases hanswer : tree.isFile here (path.extend document) with
    | ok answer =>
        rw [hanswer] at hkeep
        cases hkeep
    | error other =>
        rw [hanswer] at hkeep
        cases hkeep
        obtain ⟨long, hlong, -⟩ := FileTree.eq_nameTooLong_of_ask hanswer
        exact ⟨long, hlong⟩

theorem exists_documentsIn_eq_error {document : List Text} {cause : FileError}
    (hmem : document ∈ documentRows tree place row)
    (hanswer : tree.isFile here (path.extend document) = .error cause) :
    ∃ failure, documentsIn tree here place path row = .error failure := by
  have hkeep : keepFile tree here path document = .error cause := by rw [keepFile, hanswer]; rfl
  obtain ⟨failure, hgather⟩ := exists_gather_eq_error hmem hkeep
  unfold documentsIn
  split
  · exact ⟨_, rfl⟩
  · exact ⟨failure, hgather⟩

theorem exists_walk_eq_error (hdistinct : tree.Distinct)
    (hsearch : ¬ Searchable tree here place path) (excluded : List Text) :
    ∃ long, walk tree here excluded place path = .error (.nameTooLong long) := by
  have hfails : ∃ row ∈ directoryRows tree (tree.entries.length + 1) place, ∃ failure,
      documentsIn tree here place path row = .error failure := by
    by_contra hnone
    push Not at hnone
    refine hsearch ((searchable_iff hdistinct).mpr ⟨fun row hrow => ?_, fun row hrow => ?_⟩)
    · refine Nat.le_of_not_lt fun hlong => hnone row hrow (.nameTooLong (path.extend row)) ?_
      rw [documentsIn, if_pos hlong]
    · obtain ⟨above, habove, hmem⟩ := List.mem_flatMap.mp hrow
      cases hanswer : tree.isFile here (path.extend row) with
      | ok answer => exact ⟨answer, rfl⟩
      | error cause =>
          obtain ⟨failure, hdocuments⟩ := exists_documentsIn_eq_error hmem hanswer
          exact absurd hdocuments (hnone above habove failure)
  obtain ⟨row, hrow, failure, hdocuments⟩ := hfails
  obtain ⟨other, hgather⟩ := exists_gather_eq_error hrow hdocuments
  obtain ⟨failing, -, hfailing⟩ := exists_error_of_gather hgather
  obtain ⟨long, rfl⟩ := exists_nameTooLong_of_documentsIn hfailing
  exact ⟨long, by rw [walk, hgather]; rfl⟩

/-! ### Requests -/

/-- An entry asks for the file at a path, under the name by which the path is told. -/
def AsksFor (tree : FileTree) (here : List Text) (root path : FilePath) (entry : BatchEntry) :
    Prop :=
  ∃ name, displayName tree here root path = .ok name ∧
    entry = .request { displayName := name, path := some path }

/-- A file has a name to be told by, unless the root is on links that lead in a circle. -/
theorem exists_displayName (hroot : tree.canonical here root ≠ .error (tree.circle here root))
    (hfile : tree.isFile here path = .ok true) :
    ∃ name, displayName tree here root path = .ok name := by
  obtain ⟨found, entry, hfound, -⟩ := FileTree.find_of_ask hfile
  unfold displayName
  rw [(FileTree.canonical_of_find hfound).1]
  cases hplace : tree.canonical here root with
  | ok settled =>
      dsimp only
      split
      · exact ⟨_, rfl⟩
      · exact ⟨_, rfl⟩
  | error cause =>
      rcases FileTree.canonical_eq_error hplace with ⟨rfl, -⟩ | rfl
      · exact ⟨_, rfl⟩
      · exact absurd hplace hroot

theorem exists_requests_eq {paths : List FilePath}
    (hnames : ∀ path ∈ paths, ∃ name, displayName tree here root path = .ok name) :
    ∃ entries, requests tree here root paths = { entries } ∧
      List.Forall₂ (AsksFor tree here root) paths entries := by
  induction paths with
  | nil => exact ⟨[], rfl, .nil⟩
  | cons path paths ih =>
      rw [List.forall_mem_cons] at hnames
      obtain ⟨⟨name, hname⟩, hlater⟩ := hnames
      obtain ⟨entries, hrequests, hasks⟩ := ih hlater
      refine ⟨_ :: entries, ?_, .cons ⟨name, hname, rfl⟩ hasks⟩
      simp only [requests, request, hname, hrequests, Except.map, Found.andThen]
      rfl

/-! ### Trees that answer alike -/

theorem Searchable.of_alike (halike : tree.Alike other)
    (hsearch : Searchable tree here place path) : Searchable other here place path := by
  refine ⟨fun row hdescends => ?_, fun row hbelow hending => ?_⟩
  · exact hsearch.listable row (hdescends.of_alike halike.symm)
  · obtain ⟨answer, hanswer⟩ := hsearch.answered row (hbelow.of_alike halike.symm) hending
    exact ⟨answer, by rw [← hanswer]; exact (halike.ask_eq _ _ _).symm⟩

theorem Wanted.of_alike (halike : tree.Alike other)
    (hwanted : Wanted tree here place path excluded row) :
    Wanted other here place path excluded row where
  below := hwanted.below.of_alike halike
  ending := hwanted.ending
  notExcluded := hwanted.notExcluded
  file := by rw [← hwanted.file]; exact (halike.ask_eq _ _ _).symm

theorem requests_eq_of_alike (halike : tree.Alike other) (paths : List FilePath) :
    requests tree here root paths = requests other here root paths := by
  induction paths with
  | nil => rfl
  | cons path paths ih => simp only [requests, request, displayName, halike.canonical_eq, ih]

end Searching

/-! ### Directories -/

section Directory

variable {tree other : FileTree} {here place settled : List Text} {root path : FilePath}
  {excluded : List Text}

theorem exists_find_of_isDirectory (hdirectory : tree.isDirectory here path = .ok true) :
    ∃ place, tree.find here path = .ok (place, .directory) := by
  obtain ⟨place, entry, hfound, hentry⟩ := FileTree.find_of_ask hdirectory
  cases entry with
  | directory => exact ⟨place, hfound⟩
  | file content => cases hentry
  | link target => cases hentry

theorem ofPath_directory (hfound : tree.find here path = .ok (place, .directory)) :
    ofPath tree here root excluded path =
      match walk tree here excluded place path with
      | .error failure => { failure := some failure }
      | .ok rows => requests tree here root (rows.map path.extend) := by
  have hdirectory : tree.isDirectory here path = .ok true := by
    simp only [FileTree.isDirectory, FileTree.ask, hfound]
  simp only [ofPath, expand, hdirectory, hfound]
  cases walk tree here excluded place path with
  | error failure => rfl
  | ok rows => rfl

theorem walk_eq_of_alike (hdistinct : tree.Distinct) (hother : other.Distinct)
    (halike : tree.Alike other) (hsearch : Searchable tree here place path) :
    walk tree here excluded place path = walk other here excluded place path := by
  obtain ⟨rows, hwalk, hrows, hmem⟩ := exists_walk_eq_ok hdistinct hsearch excluded
  obtain ⟨others, hwalkOther, hothers, hmemOther⟩ :=
    exists_walk_eq_ok hother (hsearch.of_alike halike) excluded
  have hsame : rows = others := eq_of_pairwise_lt hrows hothers fun row => by
    rw [hmem, hmemOther]
    exact ⟨Wanted.of_alike halike, Wanted.of_alike halike.symm⟩
  rw [hwalk, hwalkOther, hsame]

/-- A directory stands for the files below it that are wanted, each of them once and in the order of
the names on the way, whatever the order in which the file system lists its entries. If the file
system cannot be asked, since a path is too long for it, the search ends before the first request. A
search through some arguments and then some more gives the requests of both. -/
theorem directory_searched (hdistinct : tree.Distinct)
    (hroot : tree.canonical here root = .ok settled)
    (hdirectory : tree.isDirectory here path = .ok true) (excluded : List Text) :
    (∃ place, tree.find here path = .ok (place, .directory) ∧
      (Searchable tree here place path → ∃ rows entries,
        ofPaths tree here root excluded [path] = { entries } ∧
        List.Forall₂ (fun row => AsksFor tree here root (path.extend row)) rows entries ∧
        (rows.map fun row => (path.extend row).parts).Pairwise (· < ·) ∧
        ∀ row, row ∈ rows ↔ Wanted tree here place path excluded row) ∧
      (¬ Searchable tree here place path → ∃ long,
        ofPaths tree here root excluded [path] = { failure := some (.nameTooLong long) })) ∧
    (∀ other : FileTree, tree.entries.Perm other.entries →
      (ofPaths other here root excluded [path]).entries =
        (ofPaths tree here root excluded [path]).entries) ∧
    ∀ first second, (ofPaths tree here root excluded first).failure = none →
      (ofPaths tree here root excluded (first ++ second)).entries =
        (ofPaths tree here root excluded first).entries ++
          (ofPaths tree here root excluded second).entries := by
  obtain ⟨place, hfound⟩ := exists_find_of_isDirectory hdirectory
  refine ⟨⟨place, hfound, fun hsearch => ?_, fun hsearch => ?_⟩, fun other hperm => ?_,
    fun first second hfirst => ?_⟩
  · obtain ⟨rows, hwalk, hrows, hmem⟩ := exists_walk_eq_ok hdistinct hsearch excluded
    have hnames : ∀ found ∈ rows.map path.extend,
        ∃ name, displayName tree here root found = .ok name := by
      intro found hmap
      obtain ⟨row, hrow, rfl⟩ := List.mem_map.mp hmap
      exact exists_displayName (hroot ▸ nofun) ((hmem row).mp hrow).file
    obtain ⟨entries, hrequests, hasks⟩ := exists_requests_eq hnames
    refine ⟨rows, entries, ?_, List.forall₂_map_left_iff.mp hasks, ?_, hmem⟩
    · rw [ofPaths_singleton, ofPath_directory hfound, hwalk]
      exact hrequests
    · exact List.pairwise_map.mpr (hrows.imp fun hlt => List.Lex.append_left _ hlt path.parts)
  · obtain ⟨long, hwalk⟩ := exists_walk_eq_error hdistinct hsearch excluded
    exact ⟨long, by rw [ofPaths_singleton, ofPath_directory hfound, hwalk]⟩
  · have halike := FileTree.alike_of_perm hdistinct hperm
    have hfoundOther := (halike.find_eq here path).symm.trans hfound
    rw [ofPaths_singleton, ofPaths_singleton, ofPath_directory hfound,
      ofPath_directory hfoundOther]
    by_cases hsearch : Searchable tree here place path
    · rw [walk_eq_of_alike hdistinct (hdistinct.of_perm hperm) halike hsearch]
      simp only [requests_eq_of_alike halike]
    · obtain ⟨long, hwalk⟩ := exists_walk_eq_error hdistinct hsearch excluded
      have hsearchOther : ¬ Searchable other here place path := fun h =>
        hsearch (h.of_alike halike.symm)
      obtain ⟨longOther, hwalkOther⟩ :=
        exists_walk_eq_error (hdistinct.of_perm hperm) hsearchOther excluded
      rw [hwalk, hwalkOther]
  · rw [ofPaths_append, Found.andThen_of_failure_eq_none hfirst]

/-- A tree with files beside and below a directory that is named like one of them, a link to a file,
a link to a directory, and a file on the list of exclusions. -/
def nested : FileTree :=
  { entries := [(["d"], .directory), (["d", "a.xml"], .file []), (["d", "a"], .directory),
      (["d", "a", "b.xml"], .file []), (["d", "l.xml"], .link "a.xml"), (["d", "m"], .link "a"),
      (["d", "phpunit.xml"], .file []), (["d", "n.xml"], .directory)] }

theorem distinct_nested : nested.Distinct := by
  unfold FileTree.Distinct
  decide

theorem searchable_nested : Searchable nested [] ["d"] (.ofText "d") := by
  have hanswered : ∀ row ∈ allDocumentRows nested ["d"],
      nested.isFile [] ((FilePath.ofText "d").extend row) = .ok true ∨
        nested.isFile [] ((FilePath.ofText "d").extend row) = .ok false := by decide +kernel
  refine (searchable_iff distinct_nested).mpr ⟨by decide +kernel, fun row hrow => ?_⟩
  rcases hanswered row hrow with h | h
  · exact ⟨_, h⟩
  · exact ⟨_, h⟩

/-- A directory comes before a file whose name begins with its name, and neither the link to a
directory nor the directory that is named like a document counts. -/
theorem directory_searched_nested :
    nested.Distinct ∧ nested.canonical [] (.ofParts []) = .ok [] ∧
      nested.isDirectory [] (.ofText "d") = .ok true ∧
      Searchable nested [] ["d"] (.ofText "d") ∧
      ∃ rows entries, ofPaths nested [] (.ofParts []) defaultExclusions [.ofText "d"] = { entries } ∧
        List.Forall₂ (fun row => AsksFor nested [] (.ofParts []) ((FilePath.ofText "d").extend row))
          rows entries ∧
        (rows.map fun row => ((FilePath.ofText "d").extend row).parts) =
          ([["d", "a", "b.xml"], ["d", "a.xml"], ["d", "l.xml"]] : List (List Text)) := by
  have hdistinct : nested.Distinct := distinct_nested
  have hroot : nested.canonical [] (.ofParts []) = .ok [] := by decide
  have hdirectory : nested.isDirectory [] (.ofText "d") = .ok true := by decide +kernel
  have hsearch : Searchable nested [] ["d"] (.ofText "d") := searchable_nested
  have hwanted : ((allDocumentRows nested ["d"]).filter (leadsToFile nested [] (.ofText "d"))).filter
      (fun row => !defaultExclusions.contains (row.getLastD [])) =
        ([["a.xml"], ["l.xml"], ["a", "b.xml"]] : List (List Text)) := by decide +kernel
  obtain ⟨⟨place, hplace, hfinds, -⟩, -⟩ :=
    directory_searched hdistinct hroot hdirectory defaultExclusions
  have hfound : nested.find [] (.ofText "d") = .ok (["d"], .directory) := by decide +kernel
  cases hplace.symm.trans hfound
  obtain ⟨rows, entries, hentries, hasks, hincreasing, hmem⟩ := hfinds hsearch
  refine ⟨hdistinct, hroot, hdirectory, hsearch, rows, entries, hentries, hasks, ?_⟩
  refine eq_of_pairwise_lt hincreasing (by decide) fun parts => ?_
  have hparts : ∀ row, ((FilePath.ofText "d").extend row).parts = ("d" : Text) :: row :=
    fun _ => rfl
  simp only [List.mem_map, hmem, ← mem_filter_leadsToFile_iff hdistinct, hwanted, hparts,
    List.mem_cons, List.not_mem_nil, or_false, exists_eq_or_imp, exists_eq_left]
  constructor <;> rintro (rfl | rfl | rfl) <;> simp

/-- A tree with a file in a directory, and beside it a link to a name that is too long. -/
def overlong : FileTree :=
  { entries := [(["d"], .directory), (["d", "a.xml"], .file []),
      (["d", "l.xml"], .link (Text.repeated 300 'x'))] }

theorem distinct_overlong : overlong.Distinct := by
  unfold FileTree.Distinct
  decide

/-- The link keeps the file from being asked for. -/
theorem wanted_not_asked_for :
    overlong.Distinct ∧ overlong.canonical [] (.ofParts []) = .ok [] ∧
      overlong.isDirectory [] (.ofText "d") = .ok true ∧
      Wanted overlong [] ["d"] (.ofText "d") defaultExclusions ["a.xml"] ∧
      ofPaths overlong [] (.ofParts []) defaultExclusions [.ofText "d"] =
        { failure := some (.nameTooLong (.ofText "d/l.xml")) } := by
  have hdistinct : overlong.Distinct := distinct_overlong
  have hstands : overlong.entry? ["d", "a.xml"] = some (.file []) := by decide
  refine ⟨hdistinct, by decide +kernel, by decide +kernel, ⟨?_, by decide, by decide, ?_⟩, ?_⟩
  · exact FileTree.Below.stands (overlong.descends_nil _) hstands
  · decide +kernel
  · decide +kernel

end Directory

end Discovery

end XmlCheck
