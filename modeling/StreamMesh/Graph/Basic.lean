import StreamMesh.Assoc

/-!
# Directed graphs

A graph is a table of vertices and, for each, the list of its successors. Both are read in the
order in which they were added; an edge that is added twice is listed twice.

## Main definitions

* `Graph` — the table
* `Graph.addVertex`, `Graph.addEdge` — one more vertex or edge
* `Graph.edges` — all edges, by vertex and then by successor
-/

namespace StreamMesh

/-- Vertices with their successors. -/
structure Graph where
  adjacency : Assoc String (List String)
  deriving DecidableEq, Repr

/-- A vertex that an edge names and the graph does not have. -/
structure UnknownVertex where
  vertex : String
  deriving DecidableEq, Repr

/-- The message about an unknown vertex. -/
def UnknownVertex.message (e : UnknownVertex) : String := "Unknown vertex: " ++ e.vertex

namespace Graph

/-- The graph without vertices. -/
def empty : Graph := ⟨.empty⟩

/-- The vertices, oldest first. -/
def vertices (g : Graph) : List String := g.adjacency.keys

/-- Whether a vertex is in the graph. -/
def hasVertex (g : Graph) (v : String) : Bool := g.adjacency.contains v

/-- The successors of a vertex, oldest first. -/
def successors? (g : Graph) (v : String) : Option (List String) := g.adjacency.find? v

/-- The successors of a vertex; a vertex that is not in the graph has none. -/
def successors (g : Graph) (v : String) : List String := (g.successors? v).getD []

/-- Adds a vertex. A vertex that is there already keeps its successors. -/
def addVertex (g : Graph) (v : String) : Graph :=
  if g.hasVertex v then g else ⟨g.adjacency.insert v []⟩

/-- Adds an edge between two vertices of the graph. -/
def addEdge (g : Graph) (origin target : String) : Except UnknownVertex Graph :=
  match g.successors? origin with
  | none => .error ⟨origin⟩
  | some known =>
    if g.hasVertex target then .ok ⟨g.adjacency.insert origin (known ++ [target])⟩
    else .error ⟨target⟩

/-- All edges: those of the oldest vertex first. -/
def edges (g : Graph) : List (String × String) :=
  g.adjacency.entries.flatMap fun (v, targets) => targets.map fun w => (v, w)

end Graph

end StreamMesh
