import StreamMesh.Assoc
import StreamMesh.Fault

/-!
# Nodes of a topology

A node is a source, which reads a topic and feeds one processor, a processor, which has one input
and feeds a processor or a sink, or a sink, which writes a topic.

## Main definitions

* `NodeKind` — the three kinds
* `NodeKind.parse` — a kind from a raw value
* `Node` — the nodes
-/

namespace StreamMesh

/-- The kinds of nodes. -/
inductive NodeKind where
  | source
  | processor
  | sink
  deriving DecidableEq, Repr

namespace NodeKind

/-- The word for a kind. -/
def text : NodeKind → String
  | source => "source"
  | processor => "processor"
  | sink => "sink"

/-- The kind of a word. -/
def ofText? (s : String) : Option NodeKind :=
  if s = "source" then some source
  else if s = "processor" then some processor
  else if s = "sink" then some sink
  else none

/-- The words for the kinds. -/
def allowed : List String := [source.text, processor.text, sink.text]

/-- The kind that a raw value names. -/
def parse (v : Value) : Except Fault NodeKind :=
  match v with
  | .str s => match ofText? s with
    | some k => .ok k
    | none => .error (.invalidKind v allowed)
  | _ => .error (.invalidKind v allowed)

end NodeKind

/-- A node of a topology. -/
inductive Node where
  | source (name connectsTo : String)
  /-- `input` names the node that feeds the processor, once that is known. -/
  | processor (name connectsTo : String) (input : Option String) (env : Assoc RawText RawText)
  /-- `inputs` names the nodes that feed the sink, as far as they are known. -/
  | sink (name : String) (inputs : List String)
  deriving DecidableEq, Repr

namespace Node

/-- The kind of a node. -/
def kind : Node → NodeKind
  | source .. => .source
  | processor .. => .processor
  | sink .. => .sink

/-- The name of a node. -/
def name : Node → String
  | source name _ => name
  | processor name .. => name
  | sink name _ => name

/-- The name of the node that a node feeds. -/
def connectsTo? : Node → Option String
  | source _ target => some target
  | processor _ target .. => some target
  | sink .. => none

end Node

end StreamMesh
