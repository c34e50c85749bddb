import StreamMesh.Yaml.Implicit
import StreamMesh.Yaml.Token.Basic

/-!
# Nodes

A node is a part of a document with a tag that says how to read it.

## Main definitions

* `Tag` — how a node is read
* `Node` — a scalar, a sequence or a mapping
* `Node.unfolded` — a node that refers to itself, with the reference followed some times
-/

namespace StreamMesh.Yaml

/-- How a node is read. -/
inductive Tag where
  | null
  | bool
  | int
  | float
  | binary
  | timestamp
  | orderedMap
  | pairs
  | set
  | str
  | seq
  | map
  /-- A tag for which there is no reading, with its full name. -/
  | other (name : String)
  deriving DecidableEq, Repr, Inhabited

namespace Tag

/-- What the names of the known tags start with. -/
def standardStart : String := "tag:yaml.org,2002:"

/-- The known tags by the rest of their names. -/
def known : List (String × Tag) := [
  ("null", null), ("bool", bool), ("int", int), ("float", float), ("binary", binary),
  ("timestamp", timestamp), ("omap", orderedMap), ("pairs", pairs), ("set", set), ("str", str),
  ("seq", seq), ("map", map)]

/-- The tag of the key that marks a mapping to be merged. -/
def merge : Tag := other (standardStart ++ "merge")

/-- The tag of the key that marks a default value. -/
def value : Tag := other (standardStart ++ "value")

/-- The tag of a name. -/
def ofName (name : String) : Tag :=
  match known.find? fun p => standardStart ++ p.1 == name with
  | some (_, t) => t
  | none => other name

/-- The tag of a plain scalar's type. -/
def ofImplicit : Implicit → Tag
  | .bool => bool
  | .float => float
  | .int => int
  | .merge => merge
  | .null => null
  | .timestamp => timestamp
  | .value => value
  | .str => str

end Tag

/-- A part of a document. -/
inductive Node where
  | scalar (tag : Tag) (content : Content) (mark : Mark)
  | sequence (tag : Tag) (items : List Node) (mark : Mark)
  | mapping (tag : Tag) (entries : List (Node × Node)) (mark : Mark)
  /-- The collection around this part that has an anchor of the given name. -/
  | around (anchor : String) (mark : Mark)
  deriving Inhabited

namespace Node

/-- Where a node starts. -/
def mark : Node → Mark
  | scalar _ _ m => m
  | sequence _ _ m => m
  | mapping _ _ m => m
  | around _ m => m

/-- The tag of a node. -/
def tag : Node → Tag
  | scalar t _ _ => t
  | sequence t _ _ => t
  | mapping t _ _ => t
  | around _ _ => .seq

/-- The word for the kind of a node. -/
def kindName : Node → String
  | scalar .. => "scalar"
  | sequence .. => "sequence"
  | mapping .. => "mapping"
  | around .. => "sequence"

mutual

/-- Whether a node refers to the collection of an anchor around it. -/
def refersTo (anchor : String) : Node → Bool
  | scalar .. => false
  | sequence _ items _ => anyRefersTo anchor items
  | mapping _ entries _ => anyEntryRefersTo anchor entries
  | around a _ => a == anchor

/-- Whether one of several nodes refers to the collection of an anchor around it. -/
def anyRefersTo (anchor : String) : List Node → Bool
  | [] => false
  | n :: rest => n.refersTo anchor || anyRefersTo anchor rest

/-- Whether one of several entries refers to the collection of an anchor around it. -/
def anyEntryRefersTo (anchor : String) : List (Node × Node) → Bool
  | [] => false
  | (k, v) :: rest => k.refersTo anchor || v.refersTo anchor || anyEntryRefersTo anchor rest

end

mutual

/-- A node with another in place of the references to an anchor. -/
def replace (anchor : String) (other : Node) : Node → Node
  | scalar t c m => scalar t c m
  | sequence t items m => sequence t (replaceItems anchor other items) m
  | mapping t entries m => mapping t (replaceEntries anchor other entries) m
  | around a m => if a == anchor then other else around a m

/-- Nodes with another in place of the references to an anchor. -/
def replaceItems (anchor : String) (other : Node) : List Node → List Node
  | [] => []
  | n :: rest => replace anchor other n :: replaceItems anchor other rest

/-- Entries with another node in place of the references to an anchor. -/
def replaceEntries (anchor : String) (other : Node) : List (Node × Node) → List (Node × Node)
  | [] => []
  | (k, v) :: rest =>
    (replace anchor other k, replace anchor other v) :: replaceEntries anchor other rest

end

/-- How often a reference of a node to itself is followed. No record is nested deeper. -/
def unfoldDepth : Nat := 6

/-- A node whose references to itself, under an anchor, are followed some times. -/
def unfolded (anchor : String) (n : Node) : Node :=
  if n.refersTo anchor then Nat.repeat (fun m => replace anchor m n) unfoldDepth n else n

end Node

end StreamMesh.Yaml
