import BundleManifest.Running.Yaml.Scalar

namespace BundleManifest.Yaml

open Document (Failure Reading)

inductive Node where
  /-- Text without quotes, which stands for a scalar of any kind. -/
  | plain (text : Text)
  | quoted (text : Text)
  | list (items : List Node)
  | mapping (entries : List (Node × Node))
  deriving Inhabited

namespace Node

/-- What stands where nothing is written. -/
def nothing : Node := .plain []

/-- Whether the node, as a key, asks for the entries of its value. -/
def isMerge : Node → Bool
  | .plain t => t==mergeMark
  | _ => false

def entries? : Node → Option (List (Node × Node))
  | .mapping entries => some entries
  | _ => none

/-- The entries that a value adds to the mapping it is merged into: its own, or those of the
mappings in a list, the last one first. -/
def mergedEntries? : Node → Option (List (Node × Node))
  | .list items => (items.mapM entries?).map fun parts => parts.reverse.flatten
  | n => n.entries?

/-- The entries with the merged ones in front; what cannot be merged is left in its place. -/
def merge (entries : List (Node × Node)) : List (Node × Node) :=
  let sources := entries.filterMap fun (key,value) =>
    if key.isMerge then value.mergedEntries? else none
  sources.flatten++entries.filter fun (key,value) =>
    !(key.isMerge && value.mergedEntries?.isSome)

mutual

/-- The node with all merges done, inner ones first. -/
def merged : Node → Node
  | .list items => .list (mergedItems items)
  | .mapping entries => .mapping (merge (mergedValues entries))
  | n => n

def mergedItems : List Node → List Node
  | [] => []
  | n::r => merged n::mergedItems r

def mergedValues : List (Node × Node) → List (Node × Node)
  | [] => []
  | (key,value)::r => (key,merged value)::mergedValues r

end

/-- The value of a scalar node; a collection has none. -/
def scalar? (resolve : Text → Reading Scalar) : Node → Option (Reading Scalar)
  | .plain t => some (resolve t)
  | .quoted t => some (.ok (.text t))
  | _ => none

/-- The key that a node stands for; a collection cannot be one. -/
def key (n : Node) : Reading Scalar := (n.scalar? resolveKey).getD (.error (.malformed 0))

private def failureOf {α : Type} (level : Nat) : Reading α → List (Nat × Failure)
  | .ok _ => []
  | .error e => [(level,e)]

mutual

/-- The failures that making values would meet, each with its level. A merge that cannot be done
comes before the entries beside it. -/
def failures (level : Nat) : Node → List (Nat × Failure)
  | .plain t => failureOf level (resolve t)
  | .quoted _ => []
  | .list items => itemFailures (level+1) items
  | .mapping entries =>
    (if entries.any (·.1.isMerge) then [(level+1,.malformed 0)] else [])++
      entryFailures (level+1) entries

def itemFailures (level : Nat) : List Node → List (Nat × Failure)
  | [] => []
  | n::r => failures level n++itemFailures level r

def entryFailures (level : Nat) : List (Node × Node) → List (Nat × Failure)
  | [] => []
  | (k,v)::r => failureOf level k.key++failures level v++entryFailures level r

end

/-- Of the failures on the least level the first. -/
def firstFailure? (found : List (Nat × Failure)) : Option Failure :=
  (found.find? fun f => found.all fun g => f.1 ≤ g.1).map Prod.snd

mutual

/-- The document of a node that meets no failure. -/
def value : Node → Document
  | .plain t => .scalar ((resolve t).toOption.getD .null)
  | .quoted t => .ofText t
  | .list items => .list (values items)
  | .mapping entries => .ofEntries (entryValues entries)

def values : List Node → List Document
  | [] => []
  | n::r => value n::values r

def entryValues : List (Node × Node) → List (Scalar × Document)
  | [] => []
  | (k,v)::r => (k.key.toOption.getD .null,value v)::entryValues r

end

/-- The document that a node stands for. -/
def document (n : Node) : Reading Document :=
  match firstFailure? (n.merged.failures 0) with
  | some e => .error e
  | none => .ok n.merged.value

end Node

end BundleManifest.Yaml
