import StreamMesh.Graph.OfTopology
import StreamMesh.Graph.Order
import StreamMesh.Mesh.Synthesis
import StreamMesh.Topology.OfSpec

/-!
# Compilation

A specification is read as a topology, its connections are checked and ordered, inputs are
registered, and manifests are made under the resolved configuration. A compilation yields all
manifests or none.

## Main definitions

* `Plan` — a topology with its inputs, and an order of its nodes
* `plan` — the plan of a specification, and what is logged
* `Compiled` — the result of a compilation
* `compile` — from a specification and a configuration to the result
-/

namespace StreamMesh

/-- A topology with its inputs, and an order of its nodes. -/
structure Plan where
  topology : Topology
  order : List String
  deriving DecidableEq, Repr

/-- The plan of a topology, and what is logged. -/
def Topology.plan (t : Topology) : List Event × Except Fault Plan :=
  match t.graph with
  | .error f => ([], .error f)
  | .ok g =>
    let built := Event.graphBuilt t.name g.vertices
    match g.order with
    | .error f => ([built], .error f)
    | .ok order => match t.registerInputs with
      | (_, some f) => ([built], .error f)
      | (t', none) =>
        ([built, t'.inputsEvent, .orderResolved t'.name g.vertices order], .ok ⟨t', order⟩)

/-- The plan of a specification, and what is logged. -/
def plan (spec : Spec) : List Event × Except Failure Plan :=
  match Topology.ofSpec spec with
  | (events, .error f) => (events, .error f)
  | (events, .ok t) =>
    let (more, result) := t.plan
    (events ++ more, Failure.ofFault result)

/-- The result of a compilation. -/
structure Compiled where
  pipeline : String
  ns : String
  order : List String
  renderings : List Rendering

namespace Compiled

/-- The target of all compilations. -/
def target (_ : Compiled) : String := Mesh.target

/-- The version under which results are recorded. -/
def version (_ : Compiled) : String := "0.1.0"

/-- The hash of the text that a result is made from, where it is known. -/
def checkHash : Value → Schema.Checked (Option RawText) :=
  fun v => (Schema.nullable Schema.text v).under (.key "source_hash")

/-- The generated files. -/
def artifacts (c : Compiled) : List Artifact := c.renderings.map Rendering.artifact

/-- The names of the generated files. -/
def fileNames (c : Compiled) : List String := c.renderings.map Rendering.fileName

/-- The generated files of one directory. -/
def byCategory (c : Compiled) (category : Category) : List Artifact :=
  c.artifacts.filter fun a => a.category == category

end Compiled

/-- Accepts the targets for which manifests can be made. -/
def checkTarget (target : String) : Except Fault Unit :=
  if target = Mesh.target then .ok () else .error (.unsupportedTarget target [Mesh.target])

/-- The name of a pipeline as a field of the result, which has to be a string. -/
def Compiled.checkPipeline : RawText → Schema.Checked String
  | .whole name => .accepted name
  | .broken _ => .rejected [⟨[.key "pipeline"], .illFormedText⟩]

/-- Compiles a specification under a configuration. -/
def compile (spec : Spec) (config : Deployment) : Except Failure Compiled := do
  let p ← (plan spec).2
  let d ← Failure.ofChecked "DeploymentConfig" (config.resolve p.topology.name)
  let renderings ← Mesh.synthesize d p.topology p.order
  let pipeline ← Failure.ofChecked "CompiledArtifacts" (Compiled.checkPipeline p.topology.name)
  return ⟨pipeline, d.nsText, p.order, renderings⟩

end StreamMesh
