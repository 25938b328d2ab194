import XmlCheck.Proofs.AnnotationReading
import XmlCheck.Proofs.NamedFiles
import XmlCheck.Proofs.PathText

/-!
# Display names as paths

A display name is the text of a path that is to be read from the project root. It is the rest of the
way to a file that lies there, and else the path as it was given. Read as a path again, it leads
from the root to the file of which it is told (`Discovery.Traceable`).
-/

namespace XmlCheck

namespace FileTree

/-- What a file system sees to: each place has one entry, the names are ones that files can have,
and no link has a null character in its target. -/
structure Proper (tree : FileTree) : Prop where
  distinct : tree.Distinct
  isFileName : ∀ entry ∈ tree.entries, ∀ name ∈ entry.1, IsFileName name
  null_not_mem : ∀ entry ∈ tree.entries, ∀ target, entry.2 = .link target → '\x00' ∉ target

section Places

variable {tree : FileTree} {here place parts settled : List Text} {root path : FilePath}

theorem Proper.isFileName_of_entry? (hproper : tree.Proper) {entry : Entry}
    (hentry : tree.entry? parts = some entry) : ∀ name ∈ parts, IsFileName name := by
  by_cases hnil : parts = []
  · rw [hnil]
    exact nofun
  · rw [entry?_of_ne_nil hnil] at hentry
    exact hproper.isFileName _ (mem_of_lookup hentry)

theorem Proper.null_not_mem_of_entry? (hproper : tree.Proper) {target : Text}
    (hentry : tree.entry? parts = some (.link target)) : '\x00' ∉ target :=
  hproper.null_not_mem _ (mem_entries_of_link hentry) target rfl

theorem Below.isFileName (hproper : tree.Proper) (hbelow : tree.Below place parts) :
    ∀ name ∈ parts, IsFileName name := by
  cases hbelow with
  | stands _ hentry =>
      exact fun name hmem =>
        hproper.isFileName_of_entry? hentry name (List.mem_append_right place hmem)

theorem Proper.null_not_mem_of_mem_partsOf (hproper : tree.Proper) {target name : Text}
    (hentry : tree.entry? parts = some (.link target)) (hmem : name ∈ FilePath.partsOf target) :
    '\x00' ∉ name :=
  fun hname => hproper.null_not_mem_of_entry? hentry (FilePath.mem_of_mem_partsOf hmem hname)

theorem isFileName_of_canonical (hproper : tree.Proper) (hhere : ∀ name ∈ here, IsFileName name)
    (hwritten : path.IsWritten) (hcanonical : tree.canonical here path = .ok place) :
    ∀ name ∈ place, IsFileName name := by
  refine forall_mem_of_canonical (fun _ _ hentry name hmem => ?_) hcanonical hhere hwritten
  exact FilePath.isFileName_of_mem_partsOf hmem (hproper.null_not_mem_of_mem_partsOf hentry hmem)

theorem isWritten_of_canonical {text : Text}
    (hcanonical : tree.canonical here (.ofText text) = .ok place) :
    (FilePath.ofText text).IsWritten :=
  FilePath.isWritten_ofText (canonical_eq_ok_iff.mp hcanonical).1

/-- A path that is seen from a root leads where it leads from the canonical place of the root. -/
theorem canonical_join_eq_ok_iff (hroot : tree.canonical here root = .ok settled) :
    tree.canonical here (root.join path) = .ok place ↔ tree.canonical settled path = .ok place := by
  obtain ⟨hnull, hwalk⟩ := canonical_eq_ok_iff.mp hroot
  rw [canonical_eq_ok_iff, canonical_eq_ok_iff]
  unfold FilePath.join
  by_cases habsolute : path.isAbsolute = true
  · simp only [habsolute, if_true, startOf]
  · -- a relative path goes on where the walk along the root ended
    have hstart : startOf here { root with parts := root.parts ++ path.parts } =
        startOf here root := rfl
    simp only [habsolute, if_false, hstart, Bool.false_eq_true]
    rw [canonicalFrom_append, hwalk, Option.bind_some, List.forall_mem_append]
    have hthere : startOf settled path = settled := if_neg habsolute
    rw [hthere]
    exact and_congr_left fun _ => and_iff_right hnull

theorem canonical_below (hsettled : tree.Settled (place ++ parts))
    (hnull : ∀ name ∈ parts, '\x00' ∉ name) :
    tree.canonical place ⟨.here, parts⟩ = .ok (place ++ parts) :=
  canonical_eq_ok_iff.mpr ⟨hnull, canonicalFrom_of_settled hsettled⟩

theorem canonical_of_isAbsolute (habsolute : path.isAbsolute = true) (here other : List Text) :
    tree.canonical here path = tree.canonical other path := by
  unfold canonical circle circlePlace startOf
  rw [if_pos habsolute, if_pos habsolute]

end Places

end FileTree

namespace Discovery

section Names

variable {tree : FileTree} {here settled place : List Text} {root path : FilePath} {name : Text}

/-- The path that a display name shows. -/
def shownPath (settled place : List Text) (path : FilePath) : FilePath :=
  match FilePath.below? settled place with
  | some parts => ⟨.here, parts⟩
  | none => path

theorem shownPath_append (settled parts : List Text) (path : FilePath) :
    shownPath settled (settled ++ parts) path = ⟨.here, parts⟩ := by
  rw [shownPath, FilePath.below?, Text.after?_append]

theorem shownPath_of_outside (houtside : ¬ settled <+: place) (path : FilePath) :
    shownPath settled place path = path := by
  unfold shownPath
  split
  · rename_i parts hbelow
    exact absurd ⟨parts, (Text.after?_eq_some hbelow).symm⟩ houtside
  · rfl

theorem displayName_eq (hroot : tree.canonical here root = .ok settled)
    (hplace : tree.canonical here path = .ok place) :
    displayName tree here root path = .ok (shownPath settled place path).toText := by
  unfold displayName shownPath
  simp only [hplace, hroot]
  cases FilePath.below? settled place with
  | none => rfl
  | some parts => rfl

/-- What lets a display name be read from the root: the file lies there, or the path leads to the
same place from everywhere, or the root is where the path is used. -/
inductive Traceable (here settled place : List Text) (path : FilePath) : Prop
  | inside (below : settled <+: place)
  | absolute (top : path.isAbsolute = true)
  | atRoot (same : here = settled)

theorem canonical_shownPath (hhere : tree.Settled here)
    (hplace : tree.canonical here path = .ok place) (hnames : ∀ name ∈ place, IsFileName name)
    (htraceable : Traceable here settled place path) :
    tree.canonical settled (shownPath settled place path) = .ok place := by
  by_cases hinside : settled <+: place
  · -- no part of the way to the file is a link, so neither is the rest of it
    have hsettled : tree.Settled place := FileTree.settled_of_canonical hplace hhere
    obtain ⟨parts, rfl⟩ := hinside
    rw [shownPath_append]
    exact FileTree.canonical_below hsettled fun name hmem =>
      (hnames name (List.mem_append_right settled hmem)).noNull
  · rw [shownPath_of_outside hinside]
    cases htraceable with
    | inside hbelow => exact absurd hbelow hinside
    | absolute htop => rw [FileTree.canonical_of_isAbsolute htop settled here, hplace]
    | atRoot hsame => rw [← hsame, hplace]

theorem isWritten_shownPath (hnames : ∀ name ∈ place, IsFileName name) (hwritten : path.IsWritten) :
    (shownPath settled place path).IsWritten := by
  by_cases hinside : settled <+: place
  · obtain ⟨parts, rfl⟩ := hinside
    rw [shownPath_append]
    exact fun name hmem => hnames name (List.mem_append_right settled hmem)
  · rw [shownPath_of_outside hinside]
    exact hwritten

theorem canonical_join_displayName (hproper : tree.Proper) (hhere : tree.Settled here)
    (hnames : ∀ name ∈ here, IsFileName name) (hroot : tree.canonical here root = .ok settled)
    (hwritten : path.IsWritten) (hplace : tree.canonical here path = .ok place)
    (htraceable : Traceable here settled place path)
    (hname : displayName tree here root path = .ok name) :
    tree.canonical here (root.join (.ofText name)) = .ok place := by
  have hplaced : ∀ name ∈ place, IsFileName name :=
    FileTree.isFileName_of_canonical hproper hnames hwritten hplace
  rw [displayName_eq hroot hplace] at hname
  cases hname
  rw [FilePath.ofText_toText (isWritten_shownPath hplaced hwritten),
    FileTree.canonical_join_eq_ok_iff hroot]
  exact canonical_shownPath hhere hplace hplaced htraceable

end Names

/-! ### What the items of a search are -/

section Items

variable {tree : FileTree} {here place row : List Text} {root path : FilePath}
  {excluded : List Text} {paths : List FilePath} {entry : BatchEntry}

theorem AsksFor.exists_canonical (hasks : AsksFor tree here root path entry) :
    ∃ place, tree.canonical here path = .ok place := by
  obtain ⟨name, hname, -⟩ := hasks
  unfold displayName at hname
  split at hname
  · cases hname
  · rename_i place hplace
    exact ⟨place, hplace⟩

theorem Found.mem_andThen {first second : Found} (hmem : entry ∈ (first.andThen second).entries) :
    entry ∈ first.entries ∨ entry ∈ second.entries := by
  by_cases hfailure : first.failure = none
  · rw [andThen_of_failure_eq_none hfailure] at hmem
    exact List.mem_append.mp hmem
  · rw [andThen_of_failure hfailure] at hmem
    exact .inl hmem

theorem exists_asksFor_of_mem_requests (hmem : entry ∈ (requests tree here root paths).entries) :
    ∃ path ∈ paths, AsksFor tree here root path entry := by
  induction paths with
  | nil => cases hmem
  | cons path paths ih =>
      rw [requests_cons] at hmem
      rcases Found.mem_andThen hmem with hfirst | hlater
      · refine ⟨path, List.mem_cons_self, ?_⟩
        unfold requests request at hfirst
        cases hname : displayName tree here root path with
        | error cause =>
            rw [hname] at hfirst
            cases hfirst
        | ok name =>
            rw [hname] at hfirst
            exact ⟨name, hname, List.mem_singleton.mp hfirst⟩
      · obtain ⟨other, hother, hasks⟩ := ih hlater
        exact ⟨other, List.mem_cons_of_mem path hother, hasks⟩

theorem exists_walk_of_expand {found : List FilePath}
    (hexpand : expand tree here excluded path = .ok (some found)) :
    ∃ place rows, walk tree here excluded place path = .ok rows ∧ found = rows.map path.extend := by
  unfold expand at hexpand
  split at hexpand
  · cases hexpand
  · cases hexpand
  · split at hexpand
    · cases hexpand
    · rename_i place entry hfound
      cases hwalk : walk tree here excluded place path with
      | error cause =>
          rw [hwalk] at hexpand
          cases hexpand
      | ok rows =>
          rw [hwalk] at hexpand
          cases hexpand
          exact ⟨place, rows, hwalk, rfl⟩

theorem below_of_walk (hdistinct : tree.Distinct) {rows : List (List Text)}
    (hwalk : walk tree here excluded place path = .ok rows) (hrow : row ∈ rows) :
    tree.Below place row := by
  by_cases hsearch : Searchable tree here place path
  · obtain ⟨found, hfound, -, hwanted⟩ := exists_walk_eq_ok hdistinct hsearch excluded
    cases hfound.symm.trans hwalk
    exact ((hwanted row).mp hrow).below
  · obtain ⟨long, hlong⟩ := exists_walk_eq_error hdistinct hsearch excluded
    cases hlong.symm.trans hwalk

/-- An item tells that an argument is excluded, or it asks for a path with names that files can
have. -/
theorem excluded_or_asksFor (hproper : tree.Proper) {argument : Text}
    (hmem : entry ∈ (ofPath tree here root excluded (.ofText argument)).entries) :
    ((FilePath.ofText argument).name ∈ excluded ∧
        entry = .excluded (FilePath.ofText argument).name) ∨
      ∃ path place, AsksFor tree here root path entry ∧ tree.canonical here path = .ok place ∧
        path.IsWritten := by
  unfold ofPath at hmem
  split at hmem
  · cases hmem
  · rename_i found hexpand
    obtain ⟨path, hpath, hasks⟩ := exists_asksFor_of_mem_requests hmem
    obtain ⟨target, htarget⟩ := hasks.exists_canonical
    refine .inr ⟨path, target, hasks, htarget, ?_⟩
    obtain ⟨place, rows, hwalk, rfl⟩ := exists_walk_of_expand hexpand
    obtain ⟨row, hrow, rfl⟩ := List.mem_map.mp hpath
    have hnull := (FileTree.canonical_eq_ok_iff.mp htarget).1
    rw [FilePath.extend, List.forall_mem_append] at hnull
    exact List.forall_mem_append.mpr ⟨FilePath.isWritten_ofText hnull.1,
      (below_of_walk hproper.distinct hwalk hrow).isFileName hproper⟩
  · split at hmem
    · rename_i hexcluded
      exact .inl ⟨List.contains_iff_mem.mp hexcluded, List.mem_singleton.mp hmem⟩
    · obtain ⟨path, hpath, hasks⟩ := exists_asksFor_of_mem_requests hmem
      cases List.mem_singleton.mp hpath
      obtain ⟨place, hplace⟩ := hasks.exists_canonical
      exact .inr ⟨_, place, hasks, hplace, FileTree.isWritten_of_canonical hplace⟩

theorem exists_mem_ofPath (hmem : entry ∈ (ofPaths tree here root excluded paths).entries) :
    ∃ path ∈ paths, entry ∈ (ofPath tree here root excluded path).entries := by
  induction paths with
  | nil => cases hmem
  | cons path paths ih =>
      rcases Found.mem_andThen hmem with hfirst | hlater
      · exact ⟨path, List.mem_cons_self, hfirst⟩
      · obtain ⟨other, hother, hentry⟩ := ih hlater
        exact ⟨other, List.mem_cons_of_mem path hother, hentry⟩

end Items

/-! ### The main statement -/

section Main

variable {tree : FileTree} {here settled : List Text} {root : FilePath}

/-- An item asks for the file at a place, by a path whose display name can be read from the root. -/
def Identifies (tree : FileTree) (here settled : List Text) (root : FilePath) (entry : BatchEntry)
    (place : List Text) : Prop :=
  ∃ path, AsksFor tree here root path entry ∧ tree.canonical here path = .ok place ∧
    Traceable here settled place path

theorem canonical_join_of_mem (hproper : tree.Proper) (hhere : tree.Settled here)
    (hnames : ∀ name ∈ here, IsFileName name) (hroot : tree.canonical here root = .ok settled)
    {excluded arguments : List Text} {entry : BatchEntry} {place : List Text}
    (hmem : entry ∈ (ofPaths tree here root excluded (arguments.map .ofText)).entries)
    (hidentifies : Identifies tree here settled root entry place) :
    tree.canonical here (root.join (.ofText entry.displayName)) = .ok place := by
  obtain ⟨path, ⟨name, hname, rfl⟩, hplace, htraceable⟩ := hidentifies
  obtain ⟨found, hfound, hentry⟩ := exists_mem_ofPath hmem
  obtain ⟨argument, -, rfl⟩ := List.mem_map.mp hfound
  rcases excluded_or_asksFor hproper hentry with ⟨-, hexcluded⟩ | ⟨other, -, hother, -, hwritten⟩
  · cases hexcluded
  · -- the item has its path in it, so it asks for no other one
    obtain ⟨_, _, hsame⟩ := hother
    cases hsame
    exact canonical_join_displayName hproper hhere hnames hroot hwritten hplace htraceable hname

/-- A path that leads to a place has a display name, and read from the root the name leads to this
place, unless the path is one that leads out of the root and depends on where it is used. So items
that ask for different files have different names, and the annotations for an item name its file. An
excluded file that was named has its last name only. -/
theorem display_names_trace_back (hproper : tree.Proper) (hhere : tree.Settled here)
    (hnames : ∀ name ∈ here, IsFileName name) (hroot : tree.canonical here root = .ok settled) :
    (∀ text place, tree.canonical here (.ofText text) = .ok place →
      ∃ name, displayName tree here root (.ofText text) = .ok name ∧
        (Traceable here settled place (.ofText text) →
          tree.canonical here (root.join (.ofText name)) = .ok place)) ∧
    ∀ excluded arguments : List Text,
      let entries := (ofPaths tree here root excluded (arguments.map .ofText)).entries
      (∀ entry ∈ entries,
        (∃ argument ∈ arguments, (FilePath.ofText argument).name ∈ excluded ∧
          entry = .excluded (FilePath.ofText argument).name) ∨
        ∃ path place, AsksFor tree here root path entry ∧ tree.canonical here path = .ok place) ∧
      (∀ entry ∈ entries, ∀ place, Identifies tree here settled root entry place →
        tree.canonical here (root.join (.ofText entry.displayName)) = .ok place) ∧
      (∀ entry ∈ entries, ∀ other ∈ entries, ∀ place next,
        Identifies tree here settled root entry place →
        Identifies tree here settled root other next →
        entry.displayName = other.displayName → place = next) ∧
      ∀ entry ∈ entries, ∀ pipeline later store,
        ∀ d ∈ (Batch.settle pipeline later here store entry).1.diagnostics,
          d.file = entry.displayName ∧ d.ShownBy d.annotation := by
  refine ⟨fun text place hplace => ?_, fun excluded arguments => ⟨?_, ?_, ?_, ?_⟩⟩
  · have hname := displayName_eq hroot hplace
    exact ⟨_, hname, fun htraceable => canonical_join_displayName hproper hhere hnames hroot
      (FileTree.isWritten_of_canonical hplace) hplace htraceable hname⟩
  · intro entry hmem
    obtain ⟨path, hpath, hentry⟩ := exists_mem_ofPath hmem
    obtain ⟨argument, hargument, rfl⟩ := List.mem_map.mp hpath
    rcases excluded_or_asksFor hproper hentry with hexcluded | ⟨path, place, hasks, hplace, -⟩
    · exact .inl ⟨argument, hargument, hexcluded⟩
    · exact .inr ⟨path, place, hasks, hplace⟩
  · exact fun entry hmem place => canonical_join_of_mem hproper hhere hnames hroot hmem
  · intro entry hmem other hother place next hplace hnext hsame
    have hleads := canonical_join_of_mem hproper hhere hnames hroot hmem hplace
    rw [hsame, canonical_join_of_mem hproper hhere hnames hroot hother hnext] at hleads
    cases hleads
    rfl
  · intro entry _ pipeline later store d hd
    refine ⟨?_, d.shownBy_annotation⟩
    rcases Diagnostic.reported_or_ofFile_of_settle hd with hreported | hfile
    · exact Diagnostic.file_of_reported hreported
    · exact Diagnostic.file_of_ofFile hfile

/-- A tree with a directory that has a file and a link out of it, and files of the same names beside
the directory and in it. -/
def twins : FileTree :=
  { entries := [(["a.xml"], .file []), (["phpunit.xml"], .file []), (["p"], .directory),
      (["p", "a.xml"], .file []), (["p", "l.xml"], .link "../a.xml"),
      (["p", "phpunit.xml"], .file [])] }

theorem proper_twins : twins.Proper where
  distinct := by
    unfold FileTree.Distinct
    decide
  isFileName := by decide
  null_not_mem := by simp [twins]

/-- The link is told by its absolute path and the file in the root by the rest of its path. -/
theorem twins_trace_back :
    let root := FilePath.ofText "p"
    let entries := (ofPaths twins [] root defaultExclusions
      ((["/p/l.xml", "p/a.xml"] : List Text).map .ofText)).entries
    twins.Proper ∧ twins.Settled [] ∧ (∀ name ∈ ([] : List Text), IsFileName name) ∧
      twins.canonical [] root = .ok ["p"] ∧
      entries.map BatchEntry.displayName = (["/p/l.xml", "a.xml"] : List Text) ∧
      twins.canonical [] (root.join (.ofText "/p/l.xml")) = .ok ["a.xml"] ∧
      twins.canonical [] (root.join (.ofText "a.xml")) = .ok ["p", "a.xml"] := by
  intro root entries
  have hroot : twins.canonical [] root = .ok ["p"] := by decide +kernel
  obtain ⟨htraces, -⟩ := display_names_trace_back proper_twins twins.settled_nil nofun hroot
  have hlink : twins.canonical [] (.ofText "/p/l.xml") = .ok ["a.xml"] := by decide +kernel
  have hfile : twins.canonical [] (.ofText "p/a.xml") = .ok ["p", "a.xml"] := by decide +kernel
  obtain ⟨linkName, hlinkName, hlinkTraces⟩ := htraces _ _ hlink
  obtain ⟨fileName, hfileName, hfileTraces⟩ := htraces _ _ hfile
  have hlinkShown : displayName twins [] root (.ofText "/p/l.xml") = .ok "/p/l.xml" := by
    decide +kernel
  have hfileShown : displayName twins [] root (.ofText "p/a.xml") = .ok "a.xml" := by
    decide +kernel
  cases hlinkName.symm.trans hlinkShown
  cases hfileName.symm.trans hfileShown
  exact ⟨proper_twins, twins.settled_nil, nofun, hroot, by decide +kernel,
    hlinkTraces (.absolute (by decide)), hfileTraces (.inside (by decide))⟩

/-- A relative path out of the root has the name of another file in it, and excluded files in
different directories have one name. -/
theorem twins_share_names :
    let root := FilePath.ofText "p"
    twins.Proper ∧ twins.canonical [] root = .ok ["p"] ∧
      twins.canonical [] (.ofText "a.xml") = .ok ["a.xml"] ∧
      twins.canonical [] (.ofText "p/a.xml") = .ok ["p", "a.xml"] ∧
      displayName twins [] root (.ofText "a.xml") = .ok "a.xml" ∧
      twins.canonical [] (root.join (.ofText "a.xml")) = .ok ["p", "a.xml"] ∧
      (ofPaths twins [] root defaultExclusions
        ((["a.xml", "p/a.xml", "phpunit.xml", "p/phpunit.xml"] : List Text).map .ofText)).entries =
        [.request { displayName := "a.xml", path := some (.ofText "a.xml") },
          .request { displayName := "a.xml", path := some (.ofText "p/a.xml") },
          .excluded "phpunit.xml", .excluded "phpunit.xml"] :=
  ⟨proper_twins, by decide +kernel, by decide +kernel, by decide +kernel, by decide +kernel,
    by decide +kernel, by decide +kernel⟩

end Main

end Discovery

end XmlCheck
