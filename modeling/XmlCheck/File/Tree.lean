import XmlCheck.File.Path
import XmlCheck.Text.Quoted

/-!
A file tree is a value: directories, files and links by their absolute paths. Two ways lead from a
path to an entry. `canonical` follows links as far as there are any and never fails on what is
missing; `find` is the strict walk behind reading, and says why it stops.
-/

namespace XmlCheck

inductive Entry
  | directory
  | file (content : List UInt8)
  | link (target : Text)
  deriving DecidableEq, Repr

/-- The entries of a file tree by their absolute paths. The top itself is always a directory. -/
structure FileTree where
  entries : List (List Text × Entry) := []

inductive FileError
  | notFound (path : FilePath)
  | notDirectory (path : FilePath)
  | isDirectory (path : FilePath)
  | nameTooLong (path : FilePath)
  | tooManyLinks (path : FilePath)
  | linkCircle (path : FilePath)
  | nullByte
  deriving DecidableEq, Repr

namespace FileError

def words : FileError → Text
  | .notFound _ => "No such file or directory"
  | .notDirectory _ => "Not a directory"
  | .isDirectory _ => "Is a directory"
  | .nameTooLong _ => "File name too long"
  | .tooManyLinks _ => "Too many levels of symbolic links"
  | .linkCircle _ => "Symlink loop"
  | .nullByte => "embedded null byte"

def shown (error : FileError) (number : Nat) (path : FilePath) : Text :=
  ("[Errno " : Text) ++ Text.ofNat number ++ "] " ++ error.words ++ ": " ++
    Text.quoted path.toText

def message (error : FileError) : Text :=
  match error with
  | .notFound path => error.shown 2 path
  | .notDirectory path => error.shown 20 path
  | .isDirectory path => error.shown 21 path
  | .nameTooLong path => error.shown 36 path
  | .tooManyLinks path => error.shown 40 path
  | .linkCircle path => error.words ++ " from " ++ Text.quoted path.toText
  | .nullByte => error.words

end FileError

/-- The longest name, in octets. -/
def nameLimit : Nat := 255

/-- The longest path text, in octets. -/
def pathLimit : Nat := 4095

def linkLimit : Nat := 40

namespace FileTree

def entry? (tree : FileTree) (parts : List Text) : Option Entry :=
  if parts.isEmpty then some .directory else tree.entries.lookup parts

def insert (tree : FileTree) (parts : List Text) (entry : Entry) : FileTree :=
  ⟨(parts, entry) :: tree.entries.filter fun e => e.1 != parts⟩

def erase (tree : FileTree) (parts : List Text) : FileTree :=
  ⟨tree.entries.filter fun e => e.1 != parts⟩

/-- The tree with a directory at each place between `above` and the last name that follows. -/
def withDirectories (tree : FileTree) (above : List Text) : List Text → FileTree
  | [] => tree
  | [_] => tree
  | name :: rest =>
    let place := above ++ [name]
    let tree := if (tree.entry? place).isSome then tree else tree.insert place .directory
    withDirectories tree place rest

def withParents (tree : FileTree) (parts : List Text) : FileTree :=
  tree.withDirectories [] parts

def startOf (here : List Text) (path : FilePath) : List Text :=
  if path.isAbsolute then [] else here

/-- Where one name leads from a place without links. A link is followed to its end, unless it stands
in the targets of more than `depth` others. A name that is missing, or that stands below something
other than a directory, is kept as it is. -/
def follow (tree : FileTree) : (depth : Nat) → (place : List Text) → (name : Text) →
    Option (List Text)
  | depth, place, name =>
    if name = ['.', '.'] then some place.dropLast
    else
      match tree.entry? (place ++ [name]) with
      | some (.link target) =>
        match depth with
        | 0 => none
        | depth + 1 =>
          let path := FilePath.ofText target
          path.parts.foldlM (follow tree depth) (startOf place path)
      | _ => some (place ++ [name])

def canonicalFrom (tree : FileTree) (depth : Nat) (place names : List Text) :
    Option (List Text) :=
  names.foldlM (tree.follow depth) place

/-- What one name of a walk does: it leads upwards or to what it names, and a link leads where its
target does. -/
inductive Step (tree : FileTree) : (depth : Nat) → (place : List Text) → (name : Text) →
    (found : List Text) → Prop
  | up {depth : Nat} {place : List Text} : Step tree depth place ['.', '.'] place.dropLast
  | down {depth : Nat} {place : List Text} {name : Text} (descends : name ≠ ['.', '.'])
    (stays : ∀ target, tree.entry? (place ++ [name]) ≠ some (.link target)) :
    Step tree depth place name (place ++ [name])
  | link {depth : Nat} {place found : List Text} {name target : Text}
    (descends : name ≠ ['.', '.'])
    (entry_eq : tree.entry? (place ++ [name]) = some (.link target))
    (leads : tree.canonicalFrom depth (startOf place (.ofText target))
      (FilePath.ofText target).parts = some found) :
    Step tree (depth + 1) place name found

theorem follow_eq_some_iff {tree : FileTree} {depth : Nat} {place found : List Text}
    {name : Text} : tree.follow depth place name = some found ↔ tree.Step depth place name found := by
  constructor
  · intro hfound
    unfold follow at hfound
    split at hfound
    · rename_i hname
      cases hfound
      rw [hname]
      exact .up
    · rename_i hname
      split at hfound
      · rename_i target hentry
        cases depth with
        | zero => cases hfound
        | succ depth => exact .link hname hentry hfound
      · rename_i hstays
        cases hfound
        exact .down hname hstays
  · intro hstep
    unfold follow
    cases hstep with
    | up => rfl
    | down hname hstays =>
        rw [if_neg hname]
        split
        · rename_i target hentry
          exact absurd hentry (hstays target)
        · rfl
    | link hname hentry hleads =>
        rw [if_neg hname]
        simp only [hentry]
        exact hleads

@[simp]
theorem canonicalFrom_nil (tree : FileTree) (depth : Nat) (place : List Text) :
    tree.canonicalFrom depth place [] = some place := rfl

theorem canonicalFrom_append (tree : FileTree) (depth : Nat) (place first rest : List Text) :
    tree.canonicalFrom depth place (first ++ rest) =
      (tree.canonicalFrom depth place first).bind fun middle =>
        tree.canonicalFrom depth middle rest := by
  unfold canonicalFrom
  rw [List.foldlM_append]
  rfl

theorem canonicalFrom_cons_eq_some {tree : FileTree} {depth : Nat} {place rest found : List Text}
    {name : Text} : tree.canonicalFrom depth place (name :: rest) = some found ↔
      ∃ middle, tree.Step depth place name middle ∧
        tree.canonicalFrom depth middle rest = some found := by
  unfold canonicalFrom
  rw [List.foldlM_cons]
  simp only [← follow_eq_some_iff]
  exact Option.bind_eq_some_iff

/-- How many links may stand in the targets of one another. Of more links than there are one stands
in its own target. -/
def linkDepth (tree : FileTree) : Nat :=
  linkLimit + tree.entries.length

/-- Takes steps along names. One that gets stuck keeps the names behind it. -/
def stepsAlong (step : List Text → Text → Except (List Text) (List Text)) :
    (place names : List Text) → Except (List Text) (List Text)
  | place, [] => .ok place
  | place, name :: rest =>
    match step place name with
    | .ok middle => stepsAlong step middle rest
    | .error stuck => .error (stuck ++ rest)

/-- Where one name leads while links are `opened`, that is, on the way to their targets. Gets stuck
at a link that is open already. -/
def followOpened (tree : FileTree) : (depth : Nat) → (opened : List (List Text)) →
    (place : List Text) → (name : Text) → Except (List Text) (List Text)
  | depth, opened, place, name =>
    if name = ['.', '.'] then .ok place.dropLast
    else
      match tree.entry? (place ++ [name]) with
      | some (.link target) =>
        match depth with
        | 0 => .error (place ++ [name])
        | depth + 1 =>
          if opened.contains (place ++ [name]) then .error (place ++ [name])
          else
            let path := FilePath.ofText target
            stepsAlong (followOpened tree depth ((place ++ [name]) :: opened))
              (startOf place path) path.parts
      | _ => .ok (place ++ [name])

/-- The path that is told of where links lead in a circle: the link that the walk comes to again,
and the names that were still ahead. A name upwards takes back the name before it. -/
def circlePlace (tree : FileTree) (here : List Text) (path : FilePath) : List Text :=
  let walk :=
    stepsAlong (tree.followOpened tree.linkDepth []) (startOf here path) path.parts
  let names :=
    match walk with
    | .ok place => place
    | .error stuck => stuck
  names.foldl
    (fun place name => if name = ['.', '.'] then place.dropLast else place ++ [name]) []

def circle (tree : FileTree) (here : List Text) (path : FilePath) : FileError :=
  .linkCircle (.ofParts (tree.circlePlace here path))

/-- The absolute path without links that a path stands for, seen from a directory. Fails only on a
name that no file can have and on links that lead in a circle. -/
def canonical (tree : FileTree) (here : List Text) (path : FilePath) :
    Except FileError (List Text) :=
  if path.parts.any fun part => List.contains part '\x00' then .error .nullByte
  else
    match tree.canonicalFrom tree.linkDepth (startOf here path) path.parts with
    | some parts => .ok parts
    | none => .error (tree.circle here path)

def placeOf (tree : FileTree) (here : List Text) (path : FilePath) : List Text :=
  match tree.canonical here path with
  | .ok parts => parts
  | .error _ => startOf here path ++ path.parts

/-- How many steps the strict walk may take: each name and each name of a followed link is one. -/
def walkBound (tree : FileTree) (parts : List Text) : Nat :=
  let longest := tree.entries.foldl
    (fun n e => match e.2 with
      | .link target => max n (FilePath.partsOf target).length
      | _ => n) 0
  parts.length + (linkLimit + tree.entries.length + 1) * (longest + 1) + 1

/-- The strict walk: `links` counts the links still allowed. -/
def findFrom (tree : FileTree) (path : FilePath) :
    (bound links : Nat) → (place rest : List Text) → Except FileError (List Text × Entry)
  | 0, _, _, _ => .error (.tooManyLinks path)
  | _, _, place, [] =>
    match tree.entry? place with
    | some entry => .ok (place, entry)
    | none => .error (.notFound path)
  | bound + 1, links, place, part :: rest =>
    match tree.entry? place with
    | some .directory =>
      if part = ['.', '.'] then findFrom tree path bound links place.dropLast rest
      else if nameLimit < (Utf8.encode part).length then .error (.nameTooLong path)
      else
        match tree.entry? (place ++ [part]) with
        | none => .error (.notFound path)
        | some (.link target) =>
          match links with
          | 0 => .error (.tooManyLinks path)
          | links + 1 =>
            let path' := FilePath.ofText target
            findFrom tree path bound links (if path'.isAbsolute then [] else place)
              (path'.parts ++ rest)
        | some _ => findFrom tree path bound links (place ++ [part]) rest
    | some _ => .error (.notDirectory path)
    | none => .error (.notFound path)

def find (tree : FileTree) (here : List Text) (path : FilePath) :
    Except FileError (List Text × Entry) :=
  if path.parts.any fun part => List.contains part '\x00' then .error .nullByte
  else if pathLimit < (Utf8.encode path.toText).length then .error (.nameTooLong path)
  else
    findFrom tree path (tree.walkBound path.parts) linkLimit (startOf here path) path.parts

def read (tree : FileTree) (here : List Text) (path : FilePath) : Except FileError (List UInt8) :=
  match tree.find here path with
  | .error e => .error e
  | .ok (_, .file content) => .ok content
  | .ok _ => .error (.isDirectory path)

/-- Asks a question about the entry that a path leads to. A path that leads nowhere has the answer
no; only a name that is too long is an error. -/
def ask (tree : FileTree) (here : List Text) (path : FilePath) (question : Entry → Bool) :
    Except FileError Bool :=
  match tree.find here path with
  | .ok (_, entry) => .ok (question entry)
  | .error (.nameTooLong p) => .error (.nameTooLong p)
  | .error _ => .ok false

def isFile (tree : FileTree) (here : List Text) (path : FilePath) : Except FileError Bool :=
  tree.ask here path fun | .file _ => true | _ => false

def isDirectory (tree : FileTree) (here : List Text) (path : FilePath) : Except FileError Bool :=
  tree.ask here path fun | .directory => true | _ => false

def leadsSomewhere (tree : FileTree) (here : List Text) (path : FilePath) :
    Except FileError Bool :=
  tree.ask here path fun _ => true

def children (tree : FileTree) (place : List Text) : List (Text × Entry) :=
  tree.entries.filterMap fun e =>
    match FilePath.below? place e.1 with
    | some [name] => some (name, e.2)
    | _ => none

def write (tree : FileTree) (here : List Text) (path : FilePath) (content : List UInt8) :
    FileTree :=
  let place := tree.placeOf here path
  (tree.withParents place).insert place (.file content)

def makeDirectory (tree : FileTree) (here : List Text) (path : FilePath) : FileTree :=
  let place := tree.placeOf here path
  let tree := tree.withParents place
  if (tree.entry? place).isSome then tree else tree.insert place .directory

/-- Where the last name of a path stands, itself not followed if it is a link. -/
def ownPlaceOf (tree : FileTree) (here : List Text) (path : FilePath) : List Text :=
  tree.placeOf here path.parent ++ [path.name]

def makeLink (tree : FileTree) (here : List Text) (path : FilePath) (target : Text) : FileTree :=
  let place := tree.ownPlaceOf here path
  (tree.withParents place).insert place (.link target)

def remove (tree : FileTree) (here : List Text) (path : FilePath) : FileTree :=
  tree.erase (tree.ownPlaceOf here path)

end FileTree

end XmlCheck
