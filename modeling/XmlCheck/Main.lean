import XmlCheck.CommandLine

/-!
The program. It takes a picture of the files that a command may ask for, runs the command on the
picture, and writes what the command gives.
-/

namespace XmlCheck.Picture

def kindOf? (parts : List Text) : IO (Option IO.FS.FileType) := do
  let path := (← IO.currentDir) / String.ofList (FilePath.ofParts parts).toText
  try
    return some (← path.symlinkMetadata).type
  catch _ => return none

def contentOf? (parts : List Text) : IO (Option (List UInt8)) := do
  try
    return some (← IO.FS.readBinFile (String.ofList (FilePath.ofParts parts).toText)).toList
  catch _ => return none

def namesBelow (parts : List Text) : IO (List Text) := do
  let path := (← IO.currentDir) / String.ofList (FilePath.ofParts parts).toText
  return (← path.readDir).toList.map fun entry => entry.fileName.toList

def targetOf? (parts : List Text) : IO (Option (List Text)) := do
  try
    let path ← IO.FS.realPath (String.ofList (FilePath.ofParts parts).toText)
    return some (FilePath.partsOf path.toString.toList)
  catch _ => return none

mutual

/-- The picture with the entry at a place and those above it. A link is kept, and what it leads to
is put in as well. -/
partial def add (isDeep : Bool) (tree : FileTree) (parts : List Text) : IO FileTree := do
  let name := parts.getLastD []
  let tree ← if parts.isEmpty then pure tree else add false tree parts.dropLast
  let place :=
    if parts.isEmpty then [] else tree.placeOf [] (.ofParts parts.dropLast) ++ [name]
  match ← kindOf? place with
  | some .file =>
    match ← contentOf? place with
    | some content => return tree.insert place (.file content)
    | none => return tree
  | some .dir =>
    let tree := if place.isEmpty then tree else tree.insert place .directory
    if isDeep then addBelow tree place else return tree
  | some .symlink =>
    match ← targetOf? place with
    | some target => add isDeep (tree.insert place (.link (FilePath.ofParts target).toText)) target
    | none => return tree
  | _ => return tree

/-- The picture with all entries below a directory, links not gone into. -/
partial def addBelow (tree : FileTree) (place : List Text) : IO FileTree := do
  let mut tree := tree
  for name in ← namesBelow place do
    let isDeep :=
      match ← kindOf? (place ++ [name]) with
      | some .dir => true
      | _ => false
    tree ← add isDeep tree (place ++ [name])
  return tree

end

def givenVariables : IO (List (Text × Text)) := do
  let names := [Settings.fileVariable, Settings.rootVariable, Settings.policyVariable,
    Settings.annotationsVariable]
  let mut found := []
  for name in names do
    if let some value ← IO.getEnv (String.ofList name) then
      found := (name, value.toList) :: found
  return found

/-- The surroundings of a command that checks paths: the settings file first, then the project that
it describes. -/
def surroundings (paths : List Text) : IO Surroundings := do
  let here := FilePath.partsOf (← IO.currentDir).toString.toList
  let given ← givenVariables
  let place (path : FilePath) : List Text := FileTree.startOf here path ++ path.parts
  let named := (given.lookup Settings.fileVariable).getD []
  let settingsFile := if named.isEmpty then Settings.fileName else named
  let mut tree ← add false {} (place (.ofText settingsFile))
  match Settings.load { files := tree, here, «variables» := given } none with
  | .error _ => return { files := tree, here, «variables» := given }
  | .ok settings =>
    let base := FilePath.ofParts settings.root
    let tables := (settings.components ++ settings.modules).map fun entry =>
      (base.join (.ofText entry.2)).parts
    for parts in settings.root :: tables ++ paths.map (fun path => place (.ofText path)) do
      tree ← add true tree parts
    return { files := tree, here, «variables» := given }

end XmlCheck.Picture

open XmlCheck

def main (arguments : List String) : IO UInt32 := do
  let arguments := arguments.map String.toList
  let around ←
    match Command.ofArguments? arguments with
    | some (.check paths) => Picture.surroundings paths
    | _ => pure {}
  let result := Command.runArguments around arguments
  IO.print (String.ofList result.output)
  match result.ending with
  | .exit status => return status.toUInt32
  | .refused error =>
    IO.eprintln (String.ofList error.message)
    return misuseStatus.toUInt32
  | .broken failure =>
    IO.eprintln (String.ofList failure.message)
    return 1
