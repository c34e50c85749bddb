import StreamMesh.Event
import StreamMesh.Failure

/-!
# Topologies

A topology is a named table of nodes in the order of their declaration. All kinds share the one
table, so no name is declared twice. Inputs of processors and sinks are registered afterwards.

## Main definitions

* `Topology` — the table
* `Topology.named`, `declareSource`, `declareProcessor`, `declareSink` — declarations
* `Topology.get`, `node`, `kindOf?`, `inputOf?` — look-ups
* `Topology.registerInput`, `registerInputs` — one input, and those of all connections
-/

namespace StreamMesh

/-- Nodes by name, in the order of their declaration. -/
structure Topology where
  name : RawText
  nodes : Assoc String Node
  deriving DecidableEq, Repr

namespace Topology

/-- A text that is given and not empty. -/
def given? (s : Option String) : Option String := s.filter fun t => !t.isEmpty

/-- A text of any code points that is given and not empty. -/
def givenRaw? (s : Option RawText) : Option RawText := s.filter fun t => !t.isEmpty

/-- The topology of a name, without nodes. -/
def named (name : Option RawText) : Except Fault Topology :=
  match givenRaw? name with
  | some n => .ok ⟨n, .empty⟩
  | none => .error (.missingField "name" none)

/-- The node of a name. -/
def find? (t : Topology) (name : String) : Option Node := t.nodes.find? name

/-- The names of all nodes. -/
def names (t : Topology) : List String := t.nodes.keys

/-- Whether an entry of the table is of a kind. -/
def isOfKind (kind : NodeKind) (entry : String × Node) : Bool := entry.2.kind == kind

/-- The entries of one kind, in the order of their declaration. -/
def ofKind (t : Topology) (kind : NodeKind) : List (String × Node) :=
  t.nodes.entries.filter (isOfKind kind)

/-- The names of one kind, in the order of their declaration. -/
def namesOf (t : Topology) (kind : NodeKind) : List String := (t.ofKind kind).map Prod.fst

/-- Adds a node whose name is new. -/
def add (t : Topology) (n : Node) : Except Fault Topology :=
  match t.find? n.name with
  | some known => .error (.duplicateName n.name known.kind.text)
  | none => .ok { t with nodes := t.nodes.insert n.name n }

/-- A name and a connection, both of which have to be given, as fields of a node of some record. The
connection has to be a string. -/
def endpoints (record : String) (name : Option String) (connectsTo : Option RawText) :
    Except Failure (String × String) :=
  match given? name with
  | none => .error (.fault (.missingField "name" none))
  | some n => match givenRaw? connectsTo with
    | none => .error (.fault (.missingField "connectsTo" (some n)))
    | some (.broken _) => .error (.invalid record [⟨[.key "connects_to"], .illFormedText⟩])
    | some (.whole target) => .ok (n, target)

/-- Declares a source. -/
def declareSource (t : Topology) (name : Option String) (connectsTo : Option RawText) :
    Except Failure Topology := do
  let (n, target) ← endpoints "SourceNode" name connectsTo
  Failure.ofFault (t.add (.source n target))

/-- Declares a processor. -/
def declareProcessor (t : Topology) (name : Option String) (connectsTo : Option RawText)
    (env : Assoc RawText RawText) : Except Failure Topology := do
  let (n, target) ← endpoints "ProcessorNode" name connectsTo
  Failure.ofFault (t.add (.processor n target none env))

/-- Declares a sink. -/
def declareSink (t : Topology) (name : Option String) : Except Fault Topology :=
  match given? name with
  | none => .error (.missingField "name" none)
  | some n => t.add (.sink n [])

/-- The kind of a node, if it is declared. -/
def kindOf? (t : Topology) (name : String) : Option NodeKind := (t.find? name).map Node.kind

/-- The node of a name, of whatever kind. -/
def node (t : Topology) (name : String) : Except Fault Node :=
  match t.find? name with
  | some n => .ok n
  | none => .error (.unknownComponent name "node")

/-- The node of a name and a kind. -/
def get (t : Topology) (name : String) (kind : NodeKind) : Except Fault Node :=
  match t.find? name with
  | some n => if n.kind = kind then .ok n else .error (.unknownComponent name kind.text)
  | none => .error (.unknownComponent name kind.text)

/-- The input of a processor, once it is registered. -/
def inputOf? (t : Topology) (name : String) : Option String :=
  match t.find? name with
  | some (.processor _ _ input _) => input
  | _ => none

/-- A node with one more input. A processor takes one input only, a sink any number, a source
none. -/
def Node.fedBy (source dest : String) : Node → Except Fault Node
  | .processor name target input env =>
    match input with
    | some known =>
      if known = source then .ok (.processor name target (some source) env)
      else .error (.secondInput dest known source)
    | none => .ok (.processor name target (some source) env)
  | .sink name inputs =>
    .ok (.sink name (if inputs.contains source then inputs else inputs ++ [source]))
  | .source .. => .error (.invalidEdge source dest "processor or sink")

/-- Records that `source` feeds `dest`, a node of the given kind. -/
def registerInput (t : Topology) (source dest : String) (kind : NodeKind) :
    Except Fault Topology := do
  let n ← t.get dest kind
  let n ← Node.fedBy source dest n
  return { t with nodes := t.nodes.insert dest n }

/-- Records the connection of one node, if it has one. -/
def registerConnection (t : Topology) (n : Node) : Except Fault Topology :=
  match n.connectsTo? with
  | none => .ok t
  | some target => match t.kindOf? target with
    | none => .error (.unknownComponent target "node")
    | some kind => t.registerInput n.name target kind

/-- Records the connections of several nodes, one after the other. What is recorded before a fault
stays. -/
def registerConnections (t : Topology) : List Node → Topology × Option Fault
  | [] => (t, none)
  | n :: rest => match t.registerConnection n with
    | .ok t' => t'.registerConnections rest
    | .error f => (t, some f)

/-- Records the connections of all nodes, in the order of their declaration. -/
def registerInputs (t : Topology) : Topology × Option Fault :=
  t.registerConnections t.nodes.values

/-- The report that all inputs are registered. -/
def inputsEvent (t : Topology) : Event :=
  .inputsRegistered t.name ((t.namesOf .processor).map fun n => (n, t.inputOf? n))

end Topology

end StreamMesh
