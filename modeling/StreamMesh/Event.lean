import StreamMesh.Topology.Node

/-!
# What is logged

The stages of a compilation report what they did. An event has a level, a name and fields.

## Main definitions

* `Event` — what is reported
* `Event.level`, `Event.name`, `Event.fields` — how it is written to the log
-/

namespace StreamMesh

/-- How much an event matters. -/
inductive Level where
  | debug
  | info
  | warning
  | error
  deriving DecidableEq, Repr

/-- The word for a level. -/
def Level.text : Level → String
  | debug => "debug"
  | info => "info"
  | warning => "warning"
  | error => "error"

/-- What is reported. -/
inductive Event where
  /-- A step that is no processor has environment variables. -/
  | envIgnored (step : Option String) (kind : NodeKind)
  | ingested (pipeline : RawText) (sources processors sinks : Nat)
  | graphBuilt (pipeline : RawText) (nodes : List String)
  | inputsRegistered (pipeline : RawText) (inputs : List (String × Option String))
  | orderResolved (pipeline : RawText) (declared order : List String)
  | synthesized (pipeline : RawText) (target : String) (count : Nat)
  /-- Details of a fault that are not part of its message. -/
  | faultDetails (fault : String) (message : RawText) (details : String)
  deriving DecidableEq, Repr

namespace Event

/-- The level of an event. -/
def level : Event → Level
  | envIgnored .. => .warning
  | ingested .. | graphBuilt .. | inputsRegistered .. => .debug
  | orderResolved .. | synthesized .. => .info
  | faultDetails .. => .error

/-- The name of an event. -/
def name : Event → String
  | envIgnored .. => "step_env_ignored"
  | ingested .. => "topology_ingested"
  | graphBuilt .. => "topology_graph_built"
  | inputsRegistered .. => "inputs_registered"
  | orderResolved .. => "compilation_order_resolved"
  | synthesized .. => "artifacts_synthesized"
  | faultDetails .. => "sluice_error"

/-- A text or null. -/
def textOrNull : Option String → Value
  | some s => .str s
  | none => .null

/-- A list of texts. -/
def texts (xs : List String) : Value := .list (xs.map .str)

/-- The fields of an event. -/
def fields : Event → List (String × Value)
  | envIgnored step kind => [("step", textOrNull step), ("kind", .str kind.text)]
  | ingested pipeline sources processors sinks =>
    [("pipeline", .ofRaw pipeline), ("sources", .int sources), ("processors", .int processors),
      ("sinks", .int sinks)]
  | graphBuilt pipeline nodes => [("pipeline", .ofRaw pipeline), ("nodes", texts nodes)]
  | inputsRegistered pipeline inputs =>
    [("pipeline", .ofRaw pipeline),
      ("processors", .map (inputs.map fun (n, i) => (.str n, textOrNull i)))]
  | orderResolved pipeline declared order =>
    [("pipeline", .ofRaw pipeline), ("declared", texts declared), ("order", texts order)]
  | synthesized pipeline target count =>
    [("pipeline", .ofRaw pipeline), ("target", .str target), ("count", .int count)]
  | faultDetails fault message details =>
    [("error_type", .str fault), ("user_message", .ofRaw message),
      ("internal_details", .str details)]

end Event

/-- What the log gets to know about a fault: its details, if there are any. -/
def Fault.log (f : Fault) (details : Option String) : List Event :=
  match details with
  | some d => if d.isEmpty then [] else [.faultDetails f.name f.message d]
  | none => []

end StreamMesh
