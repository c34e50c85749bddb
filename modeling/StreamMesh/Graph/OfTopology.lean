import StreamMesh.Graph.Basic
import StreamMesh.Topology.Basic

/-!
# The graph of a topology

The nodes are the vertices and the connections the edges. A source has to feed a processor, and a
processor a processor or a sink; sources are looked at before processors.

## Main definitions

* `Topology.edge` — the edge of a node, checked
* `Topology.graph` — the graph of a topology
-/

namespace StreamMesh

namespace Topology

/-- What a node of a kind has to connect to, in a message. -/
def expected : NodeKind → String
  | .source => "processor"
  | _ => "processor or sink"

/-- Whether a node of one kind may connect to one of another. -/
def connects : NodeKind → Option NodeKind → Bool
  | .source, some .processor => true
  | .processor, some .processor => true
  | .processor, some .sink => true
  | _, _ => false

/-- The connection of a node, if it may have it. -/
def edge (t : Topology) (n : Node) (target : String) : Except Fault (String × String) :=
  if connects n.kind (t.kindOf? target) then .ok (n.name, target)
  else .error (.invalidEdge n.name target (expected n.kind))

/-- The edges of several nodes in a row, or the first that must not be. -/
def edgesOf (t : Topology) : List Node → Except Fault (List (String × String))
  | [] => .ok []
  | n :: rest => match n.connectsTo? with
    | none => t.edgesOf rest
    | some target => do
      let e ← t.edge n target
      let es ← t.edgesOf rest
      return e :: es

/-- Adds edges between vertices of a graph; an edge that leads elsewhere is passed over. -/
def addEdges (g : Graph) (es : List (String × String)) : Graph :=
  es.foldl (fun g e => match g.addEdge e.1 e.2 with
    | .ok g' => g'
    | .error _ => g) g

/-- The nodes of one kind, in the order of their declaration. -/
def nodesOf (t : Topology) (kind : NodeKind) : List Node := (t.ofKind kind).map Prod.snd

/-- The graph of a topology, or the first connection that must not be: those of sources come before
those of processors. -/
def graph (t : Topology) : Except Fault Graph := do
  let es ← t.edgesOf (t.nodesOf .source ++ t.nodesOf .processor)
  return addEdges (t.names.foldl Graph.addVertex .empty) es

end Topology

end StreamMesh
