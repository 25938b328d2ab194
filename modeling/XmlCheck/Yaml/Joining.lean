import XmlCheck.Yaml.Node

/-!
Mappings that take over the entries of others. The entries that are taken over come first, so that
the mapping's own entries, read later, count.
-/

namespace XmlCheck.Yaml.Node

/-- The entries of mappings in a list, those of the first one last. -/
def allEntries : List Node → Except YamlFault (List (Node × Node))
  | [] => .ok []
  | .mapping _ _ entries :: rest => (allEntries rest).map fun more => more ++ entries
  | _ => .error .wrongMerge

def givenEntries : Node → Except YamlFault (List (Node × Node))
  | .mapping _ _ entries => .ok entries
  | .sequence _ nodes => allEntries nodes
  | _ => .error .wrongMerge

/-- A key as it stands in a mapping: the key of a value is a mere text there. -/
def plainKey : Node → Node
  | .scalar .value text => .scalar .text text
  | key => key

/-- Whether a node is the key of what a mapping takes over. -/
def isMergeKey : Node → Bool
  | .scalar .merge _ => true
  | _ => false

/-- The entries that are taken over and the own ones. There may be one key for entries to be taken
over, unless it gives nothing. -/
def splitEntries : (taken own : List (Node × Node)) → List (Node × Node) →
    Except YamlFault (List (Node × Node) × List (Node × Node))
  | taken, own, [] => .ok (taken, own.reverse)
  | taken, own, (key, value) :: rest =>
    if isMergeKey key then
      if !taken.isEmpty then .error .doubleKey
      else
        match givenEntries value with
        | .ok given => splitEntries given own rest
        | .error e => .error e
    else splitEntries taken ((plainKey key, value) :: own) rest

def join (tag : Tag) (entries : List (Node × Node)) : Except YamlFault Node := do
  let (taken, own) ← splitEntries [] [] entries
  .ok (.mapping tag (!taken.isEmpty) (taken ++ own))

mutual

def joined : Node → Except YamlFault Node
  | .scalar tag text => .ok (.scalar tag text)
  | .sequence tag nodes => do .ok (.sequence tag (← joinedNodes nodes))
  | .mapping tag _ entries => do join tag (← joinedEntries entries)
  | .enclosing => .ok .enclosing

def joinedNodes : List Node → Except YamlFault (List Node)
  | [] => .ok []
  | node :: nodes => do .ok ((← joined node) :: (← joinedNodes nodes))

def joinedEntries : List (Node × Node) → Except YamlFault (List (Node × Node))
  | [] => .ok []
  | (key, value) :: entries => do
    .ok ((← joined key, ← joined value) :: (← joinedEntries entries))

end

end XmlCheck.Yaml.Node
