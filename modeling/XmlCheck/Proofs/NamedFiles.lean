import XmlCheck.Proofs.DirectorySearch

/-!
# A directory and the files that it stands for

To name a directory is to name the files below it one by one, in the order of their names, with one
difference: an excluded file is told when it is named and passed over when it is only found. So the
items for a directory are those for its files without the excluded ones, and the files that the
search passes over are those that are told as excluded.

The search asks more questions than naming the files does, one for each entry that is named like a
document. Where one of them has no answer the search breaks off, though every file can be named.
-/

namespace XmlCheck

namespace Discovery

/-! ### Items without the excluded ones -/

def isRequest : BatchEntry → Bool
  | .request _ => true
  | .excluded _ => false

def Found.withoutExcluded (found : Found) : Found :=
  { found with entries := found.entries.filter isRequest }

theorem Found.withoutExcluded_andThen (first second : Found) :
    (first.andThen second).withoutExcluded =
      first.withoutExcluded.andThen second.withoutExcluded := by
  by_cases hfailure : first.failure = none
  · have hwithout : first.withoutExcluded.failure = none := hfailure
    rw [andThen_of_failure_eq_none hfailure, andThen_of_failure_eq_none hwithout]
    simp only [withoutExcluded, List.filter_append]
  · have hwithout : first.withoutExcluded.failure ≠ none := hfailure
    rw [andThen_of_failure hfailure, andThen_of_failure hwithout]

theorem Found.failure_andThen (first second : Found) :
    (first.andThen second).failure = none ↔ first.failure = none ∧ second.failure = none := by
  by_cases hfailure : first.failure = none
  · simp [andThen_of_failure_eq_none hfailure, hfailure]
  · simp [andThen_of_failure hfailure, hfailure]

section Files

variable {tree : FileTree} {here place row : List Text} {root path : FilePath}
  {excluded : List Text} {paths : List FilePath}

theorem requests_cons (tree : FileTree) (here : List Text) (root path : FilePath)
    (paths : List FilePath) :
    requests tree here root (path :: paths) =
      (requests tree here root [path]).andThen (requests tree here root paths) := by
  simp only [requests]
  cases request tree here root path with
  | error cause => rfl
  | ok entry => rfl

theorem withoutExcluded_requests (paths : List FilePath) :
    (requests tree here root paths).withoutExcluded = requests tree here root paths := by
  induction paths with
  | nil => rfl
  | cons path paths ih =>
      rw [requests_cons, Found.withoutExcluded_andThen, ih]
      congr 1
      unfold requests request
      cases displayName tree here root path with
      | error cause => rfl
      | ok name => rfl

/-! ### Files that are named -/

theorem isDirectory_of_isFile (hfile : tree.isFile here path = .ok true) :
    tree.isDirectory here path = .ok false := by
  obtain ⟨found, entry, hfound, hentry⟩ := FileTree.find_of_ask hfile
  cases entry with
  | file content => simp only [FileTree.isDirectory, FileTree.ask, hfound]
  | directory => cases hentry
  | link target => cases hentry

theorem ofPath_file (hfile : tree.isFile here path = .ok true) :
    ofPath tree here root excluded path =
      if path.name ∈ excluded then { entries := [.excluded path.name] }
      else requests tree here root [path] := by
  simp only [ofPath, expand, isDirectory_of_isFile hfile, List.contains_iff_mem]

theorem withoutExcluded_ofPaths (hfiles : ∀ path ∈ paths, tree.isFile here path = .ok true) :
    (ofPaths tree here root excluded paths).withoutExcluded =
      requests tree here root (paths.filter fun path => path.name ∉ excluded) := by
  induction paths with
  | nil => rfl
  | cons path paths ih =>
      rw [List.forall_mem_cons] at hfiles
      rw [ofPaths, Found.withoutExcluded_andThen, ih hfiles.2, ofPath_file hfiles.1]
      by_cases hexcluded : path.name ∈ excluded
      · rw [if_pos hexcluded, List.filter_cons_of_neg (by simpa using hexcluded)]
        rfl
      · rw [if_neg hexcluded, List.filter_cons_of_pos (by simpa using hexcluded),
          withoutExcluded_requests, ← requests_cons]

theorem failure_ofPaths (hroot : tree.canonical here root ≠ .error (tree.circle here root))
    (hfiles : ∀ path ∈ paths, tree.isFile here path = .ok true) :
    (ofPaths tree here root excluded paths).failure = none := by
  induction paths with
  | nil => rfl
  | cons path paths ih =>
      rw [List.forall_mem_cons] at hfiles
      rw [ofPaths, Found.failure_andThen, ofPath_file hfiles.1]
      refine ⟨?_, ih hfiles.2⟩
      by_cases hexcluded : path.name ∈ excluded
      · rw [if_pos hexcluded]
      · obtain ⟨name, hname⟩ := exists_displayName hroot hfiles.1
        rw [if_neg hexcluded]
        simp only [requests, request, hname]
        rfl

/-! ### The files below a directory -/

/-- The rows of names that lead to the files below a directory that are named like documents, be they
excluded or not, in the order of the names. -/
structure ListsFiles (tree : FileTree) (here place : List Text) (path : FilePath)
    (rows : List (List Text)) : Prop where
  increasing : rows.Pairwise (· < ·)
  mem_iff : ∀ row, row ∈ rows ↔ tree.Below place row ∧ documentEnding <:+ row.getLastD [] ∧
    tree.isFile here (path.extend row) = .ok true

variable {rows : List (List Text)}

theorem ListsFiles.unique {others : List (List Text)} (hrows : ListsFiles tree here place path rows)
    (hothers : ListsFiles tree here place path others) : rows = others :=
  eq_of_pairwise_lt hrows.increasing hothers.increasing fun row => by
    rw [hrows.mem_iff, hothers.mem_iff]

theorem mem_leadsToFile_iff (hdistinct : tree.Distinct) :
    row ∈ (allDocumentRows tree place).filter (leadsToFile tree here path) ↔
      tree.Below place row ∧ documentEnding <:+ row.getLastD [] ∧
        tree.isFile here (path.extend row) = .ok true := by
  rw [List.mem_filter, mem_allDocumentRows_iff hdistinct, leadsToFile, decide_eq_true_iff, and_assoc]

theorem listsFiles_of_perm (hdistinct : tree.Distinct) (hincreasing : rows.Pairwise (· < ·))
    (hperm : rows.Perm ((allDocumentRows tree place).filter (leadsToFile tree here path))) :
    ListsFiles tree here place path rows where
  increasing := hincreasing
  mem_iff := fun row => by
    rw [hperm.mem_iff]
    exact mem_leadsToFile_iff hdistinct

theorem exists_listsFiles (hdistinct : tree.Distinct) (here place : List Text) (path : FilePath) :
    ∃ rows, ListsFiles tree here place path rows := by
  let files := (allDocumentRows tree place).filter (leadsToFile tree here path)
  have hnodup : files.Nodup := (nodup_allDocumentRows hdistinct place).filter _
  exact ⟨files.mergeSort rowLe, listsFiles_of_perm hdistinct (pairwise_mergeSort_rowLe hnodup)
    (List.mergeSort_perm files rowLe)⟩

theorem ListsFiles.isFile (hrows : ListsFiles tree here place path rows) :
    ∀ found ∈ rows.map path.extend, tree.isFile here found = .ok true := by
  intro found hfound
  obtain ⟨row, hrow, rfl⟩ := List.mem_map.mp hfound
  exact ((hrows.mem_iff row).mp hrow).2.2

/-- The search finds the files that are not excluded. -/
theorem ListsFiles.walk_eq (hrows : ListsFiles tree here place path rows)
    (hdistinct : tree.Distinct) (hsearch : Searchable tree here place path) :
    walk tree here excluded place path = .ok (rows.filter fun row => row.getLastD [] ∉ excluded) := by
  obtain ⟨found, hwalk, hfound, hwanted⟩ := exists_walk_eq_ok hdistinct hsearch excluded
  rw [hwalk]
  congr 1
  refine eq_of_pairwise_lt hfound (hrows.increasing.filter _) fun row => ?_
  rw [hwanted, List.mem_filter, hrows.mem_iff, decide_eq_true_iff]
  constructor
  · rintro ⟨hbelow, hending, hexcluded, hfile⟩
    exact ⟨⟨hbelow, hending, hfile⟩, hexcluded⟩
  · rintro ⟨⟨hbelow, hending, hfile⟩, hexcluded⟩
    exact ⟨hbelow, hending, hexcluded, hfile⟩

theorem name_extend (path : FilePath) (hrow : row ≠ []) :
    (path.extend row).name = row.getLastD [] := by
  unfold FilePath.extend FilePath.name
  rw [List.getLastD_eq_getLast?, List.getLastD_eq_getLast?, List.getLast?_append_of_ne_nil _ hrow]

theorem extend_injective (path : FilePath) : Function.Injective path.extend := by
  intro row other hsame
  exact List.append_cancel_left (congrArg FilePath.parts hsame)

theorem ListsFiles.ne_nil (hrows : ListsFiles tree here place path rows) (hrow : row ∈ rows) :
    row ≠ [] := by
  obtain ⟨hbelow, -⟩ := (hrows.mem_iff row).mp hrow
  cases hbelow
  simp

theorem ListsFiles.map_filter (hrows : ListsFiles tree here place path rows) :
    (rows.filter fun row => row.getLastD [] ∉ excluded).map path.extend =
      (rows.map path.extend).filter fun found => found.name ∉ excluded := by
  rw [List.filter_map]
  congr 1
  refine List.filter_congr fun row hrow => ?_
  rw [Function.comp_apply, name_extend path (hrows.ne_nil hrow)]

/-- The item that asks for the file at a path stands among those for some paths if the path is one of
them. -/
theorem exists_mem_iff_of_asksFor {entries : List BatchEntry}
    (hasks : List.Forall₂ (AsksFor tree here root) paths entries) :
    (∃ name, .request { displayName := name, path := some path } ∈ entries) ↔ path ∈ paths := by
  induction hasks with
  | nil => simp
  | @cons first entry paths entries hfirst _ ih =>
      obtain ⟨name, -, rfl⟩ := hfirst
      simp only [List.mem_cons, exists_or, ih]
      simp [eq_comm]

end Files

/-! ### The main statement -/

section Directory

variable {tree : FileTree} {here : List Text} {root path : FilePath}

/-- The items for a directory are those for its files, named one by one in their order, without the
excluded ones; and what the search passes over is what is told as excluded when it is named. The
files can always be named, but the search breaks off before its first item where an answer that it
needs cannot be had. -/
theorem directory_as_its_files (hdistinct : tree.Distinct)
    (hroot : tree.canonical here root ≠ .error (tree.circle here root))
    (hdirectory : tree.isDirectory here path = .ok true) (excluded : List Text) :
    ∃ place rows, tree.find here path = .ok (place, .directory) ∧
      ListsFiles tree here place path rows ∧
      (ofPaths tree here root excluded (rows.map path.extend)).failure = none ∧
      (Searchable tree here place path →
        ofPaths tree here root excluded [path] =
          (ofPaths tree here root excluded (rows.map path.extend)).withoutExcluded ∧
        ∀ row ∈ rows,
          ofPaths tree here root excluded [path.extend row] =
              { entries := [.excluded (row.getLastD [])] } ↔
            ¬ ∃ name, .request { displayName := name, path := some (path.extend row) } ∈
              (ofPaths tree here root excluded [path]).entries) ∧
      (¬ Searchable tree here place path → ∃ long,
        ofPaths tree here root excluded [path] = { failure := some (.nameTooLong long) }) := by
  obtain ⟨place, hfound⟩ := exists_find_of_isDirectory hdirectory
  obtain ⟨rows, hrows⟩ := exists_listsFiles hdistinct here place path
  refine ⟨place, rows, hfound, hrows, failure_ofPaths hroot hrows.isFile, fun hsearch => ?_,
    fun hsearch => ?_⟩
  · have hsearched : ofPaths tree here root excluded [path] =
        requests tree here root ((rows.map path.extend).filter fun found => found.name ∉ excluded) := by
      rw [ofPaths_singleton, ofPath_directory hfound, hrows.walk_eq hdistinct hsearch,
        ← hrows.map_filter]
    refine ⟨?_, fun row hrow => ?_⟩
    · rw [hsearched, withoutExcluded_ofPaths hrows.isFile]
    · have hfile : tree.isFile here (path.extend row) = .ok true :=
        ((hrows.mem_iff row).mp hrow).2.2
      have hnames : ∀ found ∈ (rows.map path.extend).filter fun found => found.name ∉ excluded,
          ∃ name, displayName tree here root found = .ok name := fun found hmem =>
        exists_displayName hroot (hrows.isFile found (List.mem_filter.mp hmem).1)
      obtain ⟨entries, hentries, hasks⟩ := exists_requests_eq hnames
      rw [hsearched, hentries, exists_mem_iff_of_asksFor hasks, List.mem_filter,
        List.mem_map_of_injective (extend_injective path), ofPaths_singleton, ofPath_file hfile,
        ← name_extend path (hrows.ne_nil hrow), decide_eq_true_iff]
      by_cases hexcluded : (path.extend row).name ∈ excluded
      · simp [hexcluded]
      · obtain ⟨name, hname⟩ := exists_displayName hroot hfile
        rw [if_neg hexcluded]
        simp [hexcluded, hrow, requests, request, hname, Except.map, Found.andThen]
  · obtain ⟨long, hwalk⟩ := exists_walk_eq_error hdistinct hsearch excluded
    exact ⟨long, by rw [ofPaths_singleton, ofPath_directory hfound, hwalk]⟩

/-- The excluded file is passed over in the directory and told when it is named. -/
theorem nested_as_its_files :
    let d := FilePath.ofText "d"
    let rows : List (List Text) := [["a", "b.xml"], ["a.xml"], ["l.xml"], ["phpunit.xml"]]
    nested.Distinct ∧
      nested.canonical [] (.ofParts []) ≠ .error (nested.circle [] (.ofParts [])) ∧
      nested.isDirectory [] d = .ok true ∧ Searchable nested [] ["d"] d ∧
      ofPaths nested [] (.ofParts []) defaultExclusions [d] =
        (ofPaths nested [] (.ofParts []) defaultExclusions (rows.map d.extend)).withoutExcluded ∧
      ofPaths nested [] (.ofParts []) defaultExclusions [d.extend ["phpunit.xml"]] =
        { entries := [.excluded "phpunit.xml"] } ∧
      ¬ ∃ name, .request { displayName := name, path := some (d.extend ["phpunit.xml"]) } ∈
        (ofPaths nested [] (.ofParts []) defaultExclusions [d]).entries := by
  intro d rows
  have hroot : nested.canonical [] (.ofParts []) ≠ .error (nested.circle [] (.ofParts [])) := by
    decide
  have hdirectory : nested.isDirectory [] d = .ok true := by decide +kernel
  have hfound : nested.find [] d = .ok (["d"], .directory) := by decide +kernel
  have hlists : ListsFiles nested [] ["d"] d rows :=
    listsFiles_of_perm distinct_nested (by decide) (by decide +kernel)
  obtain ⟨place, files, hplace, hfiles, -, hsearched, -⟩ :=
    directory_as_its_files distinct_nested hroot hdirectory defaultExclusions
  cases hplace.symm.trans hfound
  cases hfiles.unique hlists
  obtain ⟨hsame, htold⟩ := hsearched searchable_nested
  have hexcluded : ofPaths nested [] (.ofParts []) defaultExclusions [d.extend ["phpunit.xml"]] =
      { entries := [.excluded "phpunit.xml"] } := by decide +kernel
  exact ⟨distinct_nested, hroot, hdirectory, searchable_nested, hsame, hexcluded,
    (htold ["phpunit.xml"] (by simp [rows])).mp hexcluded⟩

/-- The file of the directory can be named and is told, and the directory gives nothing. -/
theorem overlong_not_as_its_files :
    overlong.Distinct ∧
      overlong.canonical [] (.ofParts []) ≠ .error (overlong.circle [] (.ofParts [])) ∧
      overlong.isDirectory [] (.ofText "d") = .ok true ∧
      ListsFiles overlong [] ["d"] (.ofText "d") [["a.xml"]] ∧
      ofPaths overlong [] (.ofParts []) defaultExclusions [.ofText "d/a.xml"] =
        { entries := [.request { displayName := "d/a.xml", path := some (.ofText "d/a.xml") }] } ∧
      ofPaths overlong [] (.ofParts []) defaultExclusions [.ofText "d"] =
        { failure := some (.nameTooLong (.ofText "d/l.xml")) } := by
  have hlists : ListsFiles overlong [] ["d"] (.ofText "d") [["a.xml"]] :=
    listsFiles_of_perm distinct_overlong (by decide) (by decide +kernel)
  refine ⟨distinct_overlong, by decide +kernel, by decide +kernel, hlists, ?_, ?_⟩
  · decide +kernel
  · decide +kernel

end Directory

end Discovery

end XmlCheck
