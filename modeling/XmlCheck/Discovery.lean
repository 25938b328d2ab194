import XmlCheck.Request

/-!
From path arguments to the files that they stand for. A directory stands for the documents below it,
in the order of their names; anything else stands for itself, and an excluded file that is named is
told apart.
-/

namespace XmlCheck

def defaultExclusions : List Text :=
  [".phpcs.xml".toList, "phpcs.xml".toList, "phpunit.xml".toList]

def documentEnding : Text := ".xml"

/-- Whether the first row of names does not come after the second: names are compared one by one, by
code points, and a row comes before those that it begins. -/
def rowLe : List Text → List Text → Bool
  | [], _ => true
  | _ :: _, [] => false
  | a :: as, b :: bs => Text.lt a b || (a == b && rowLe as bs)

namespace Discovery

/-- The name by which a path is told: from the project root if its file lies there. Nothing lies in
a root that no directory can be. -/
def displayName (tree : FileTree) (here : List Text) (root path : FilePath) :
    Except FileError Text :=
  match tree.canonical here path with
  | .error e => .error e
  | .ok place =>
    match tree.canonical here root with
    | .error .nullByte => .ok path.toText
    | .error e => .error e
    | .ok root =>
      match FilePath.below? root place with
      | some parts => .ok (FilePath.mk .here parts).toText
      | none => .ok path.toText

def gather {α β : Type} (search : α → Except FileError (List β)) :
    List α → Except FileError (List β)
  | [] => .ok []
  | item :: items =>
    match search item with
    | .error e => .error e
    | .ok found => (gather search items).map (found ++ ·)

/-- The names of the directories in a directory. A link to a directory is none. -/
def directoryNames (tree : FileTree) (place : List Text) : List Text :=
  ((tree.children place).filter fun child => child.2 = .directory).map Prod.fst

/-- The rows of names that lead from a place to the directories there and below, each one before
those in it, up to `bound` levels. -/
def directoryRows (tree : FileTree) : (bound : Nat) → (place : List Text) → List (List Text)
  | 0, _ => []
  | bound + 1, place =>
    [] :: (directoryNames tree place).flatMap fun name =>
      (directoryRows tree bound (place ++ [name])).map (name :: ·)

def isDocumentName (name : Text) : Bool :=
  documentEnding.isSuffixOf name

def documentRows (tree : FileTree) (place row : List Text) : List (List Text) :=
  (((tree.children (place ++ row)).map Prod.fst).filter isDocumentName).map fun name => row ++ [name]

def keepFile (tree : FileTree) (here : List Text) (path : FilePath) (row : List Text) :
    Except FileError (List (List Text)) :=
  (tree.isFile here (path.extend row)).map fun isFile => if isFile then [row] else []

/-- The rows of names that lead to the documents in one directory, which cannot be listed by a path
that is too long. -/
def documentsIn (tree : FileTree) (here : List Text) (place : List Text) (path : FilePath)
    (row : List Text) : Except FileError (List (List Text)) :=
  if pathLimit < (Utf8.encode (path.extend row).toText).length then
    .error (.nameTooLong (path.extend row))
  else gather (keepFile tree here path) (documentRows tree place row)

/-- The rows of names that lead from a directory to the documents below it, in their order. The
file system is asked about each of them before the exclusions count. -/
def walk (tree : FileTree) (here : List Text) (excluded : List Text) (place : List Text)
    (path : FilePath) : Except FileError (List (List Text)) :=
  (gather (documentsIn tree here place path) (directoryRows tree (tree.entries.length + 1) place)).map
    fun rows => (rows.filter fun row => !excluded.contains (row.getLastD [])).mergeSort rowLe

def request (tree : FileTree) (here : List Text) (root path : FilePath) :
    Except FileError BatchEntry :=
  (displayName tree here root path).map fun displayName => .request { displayName, path }

def expand (tree : FileTree) (here : List Text) (excluded : List Text) (path : FilePath) :
    Except FileError (Option (List FilePath)) :=
  match tree.isDirectory here path with
  | .error e => .error e
  | .ok false => .ok none
  | .ok true =>
    match tree.find here path with
    | .error e => .error e
    | .ok (place, _) =>
      (walk tree here excluded place path).map fun rows => some (rows.map path.extend)

structure Found where
  entries : List BatchEntry := []
  failure : Option FileError := none
  deriving DecidableEq, Repr

def Found.andThen (first second : Found) : Found :=
  match first.failure with
  | some _ => first
  | none => { second with entries := first.entries ++ second.entries }

def requests (tree : FileTree) (here : List Text) (root : FilePath) : List FilePath → Found
  | [] => {}
  | path :: paths =>
    match request tree here root path with
    | .error e => { failure := some e }
    | .ok entry => ({ entries := [entry] } : Found).andThen (requests tree here root paths)

def ofPath (tree : FileTree) (here : List Text) (root : FilePath) (excluded : List Text)
    (path : FilePath) : Found :=
  match expand tree here excluded path with
  | .error e => { failure := some e }
  | .ok (some paths) => requests tree here root paths
  | .ok none =>
    if excluded.contains path.name then { entries := [.excluded path.name] }
    else requests tree here root [path]

def ofPaths (tree : FileTree) (here : List Text) (root : FilePath) (excluded : List Text) :
    List FilePath → Found
  | [] => {}
  | path :: paths =>
    (ofPath tree here root excluded path).andThen (ofPaths tree here root excluded paths)

theorem Found.andThen_of_failure {first : Found} (hfailure : first.failure ≠ none)
    (second : Found) : first.andThen second = first := by
  unfold andThen
  split
  · rfl
  · contradiction

theorem Found.andThen_of_failure_eq_none {first : Found} (hfailure : first.failure = none)
    (second : Found) :
    first.andThen second = { second with entries := first.entries ++ second.entries } := by
  simp only [andThen, hfailure]

theorem Found.andThen_assoc (first second third : Found) :
    (first.andThen second).andThen third = first.andThen (second.andThen third) := by
  cases hfirst : first.failure with
  | some cause =>
      have hne : first.failure ≠ none := hfirst ▸ Option.some_ne_none cause
      rw [andThen_of_failure hne, andThen_of_failure hne, andThen_of_failure hne]
  | none =>
      rw [andThen_of_failure_eq_none hfirst, andThen_of_failure_eq_none hfirst]
      unfold andThen
      cases hsecond : second.failure <;> simp [hsecond]

theorem ofPaths_append (tree : FileTree) (here : List Text) (root : FilePath)
    (excluded : List Text) (first second : List FilePath) :
    ofPaths tree here root excluded (first ++ second) =
      (ofPaths tree here root excluded first).andThen
        (ofPaths tree here root excluded second) := by
  induction first with
  | nil => rfl
  | cons path paths ih => rw [List.cons_append, ofPaths, ofPaths, ih, Found.andThen_assoc]

theorem ofPaths_singleton (tree : FileTree) (here : List Text) (root : FilePath)
    (excluded : List Text) (path : FilePath) :
    ofPaths tree here root excluded [path] = ofPath tree here root excluded path := by
  rw [ofPaths, ofPaths]
  unfold Found.andThen
  rcases ofPath tree here root excluded path with ⟨entries, _ | cause⟩ <;> simp

end Discovery

end XmlCheck
