import StreamMesh.Mesh.Processor
import StreamMesh.Topology.Basic

/-!
# Synthesis

The manifests of a topology are made node by node along an order of its nodes, and the tracing
configuration follows them. Any failure ends the synthesis.

## Main definitions

* `nodeRenderings` — the manifests of a node
* `synthesize` — the manifests of a topology
-/

namespace StreamMesh.Mesh

/-- The deployment target whose manifests are made. -/
def target : String := "dapr"

/-- The manifests of a processor with its neighbours in a topology. -/
def processorRenderings (d : Deployment) (t : Topology) (name connectsTo : String)
    (env : Assoc RawText RawText) : Except Failure (List Rendering) := do
  let (p, result) := (Processor.fresh name env).registerOutput d connectsTo (t.kindOf? connectsTo)
  Failure.ofFault result
  let input := t.inputOf? name
  let (p, result) := p.registerInput d input (input.bind t.kindOf?)
  Failure.ofFault result
  p.renderings d

/-- The manifests of a node. -/
def nodeRenderings (d : Deployment) (t : Topology) : Node → Except Failure (List Rendering)
  | .source name connectsTo => return [← sourceBinding d name connectsTo]
  | .processor name connectsTo _ env => processorRenderings d t name connectsTo env
  | .sink name _ => return [← sinkBinding d name]

/-- The manifests of the nodes of some names, one node after the other. -/
def blocks (d : Deployment) (t : Topology) : List String → Except Failure (List Rendering)
  | [] => return []
  | name :: rest => do
    let n ← Failure.ofFault (t.node name)
    let block ← nodeRenderings d t n
    return block ++ (← blocks d t rest)

/-- The manifests of a topology along an order of its nodes. The namespace has to be settled. -/
def synthesize (d : Deployment) (t : Topology) (order : List String) :
    Except Failure (List Rendering) := do
  if d.ns.isNone then throw .noNamespace
  let nodes ← blocks d t order
  return nodes ++ [← tracingObject d]

/-- The report that all manifests are made. -/
def synthesizedEvent (t : Topology) (rs : List Rendering) : Event :=
  .synthesized t.name target rs.length

end StreamMesh.Mesh
