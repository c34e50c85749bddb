import StreamMesh.Spec
import StreamMesh.Topology.Basic

/-!
# Topologies from specifications

The steps of a specification are read as nodes, one after the other. The first step that lacks
something or clashes with another ends the reading. What is logged until then is kept.

## Main definitions

* `Step.declare` — one step as a node
* `Topology.ofSpec` — the topology of a specification, and what is logged
-/

namespace StreamMesh

namespace Step

/-- The kind of a step. -/
def kind? (s : Step) : Except Fault NodeKind :=
  match s.kind with
  | none => .error (.missingField "kind" s.name)
  | some k => NodeKind.parse (.ofRaw k)

/-- The environment of a step: each name at its first place with its last value. -/
def envTable (s : Step) : Assoc RawText RawText :=
  Assoc.ofList (s.env.map fun e => (.whole e.name, e.value))

/-- What is logged about a step of a kind: an environment that only processors have. -/
def warnings (s : Step) (kind : NodeKind) : List Event :=
  if kind ≠ .processor ∧ s.env ≠ [] then [.envIgnored s.name kind] else []

/-- Declares a step of a kind as a node. -/
def declare (s : Step) (kind : NodeKind) (t : Topology) : Except Failure Topology :=
  match kind with
  | .source => t.declareSource s.name s.connectsTo
  | .processor => t.declareProcessor s.name s.connectsTo s.envTable
  | .sink => match s.connectsTo with
    | some target => .error (.fault (.sinkConnects s.name target))
    | none => Failure.ofFault (t.declareSink s.name)

end Step

namespace Topology

/-- Declares steps one after the other, with what is logged on the way. -/
def declareSteps (t : Topology) : List Step → List Event × Except Failure Topology
  | [] => ([], .ok t)
  | s :: rest => match s.kind? with
    | .error f => ([], .error (.fault f))
    | .ok kind => match s.declare kind t with
      | .error f => (s.warnings kind, .error f)
      | .ok t' =>
        let (events, result) := t'.declareSteps rest
        (s.warnings kind ++ events, result)

/-- The report that a specification has been read. -/
def ingestedEvent (t : Topology) : Event :=
  .ingested t.name (t.ofKind .source).length (t.ofKind .processor).length (t.ofKind .sink).length

/-- The topology of a specification, inputs not yet registered, and what is logged. -/
def ofSpec (spec : Spec) : List Event × Except Failure Topology :=
  match named spec.name with
  | .error f => ([], .error (.fault f))
  | .ok t => match spec.steps with
    | none => ([], .error (.fault (.missingField "steps" spec.name)))
    | some steps => match t.declareSteps steps with
      | (events, .ok t') => (events ++ [t'.ingestedEvent], .ok t')
      | (events, .error f) => (events, .error f)

end Topology

end StreamMesh
