import StreamMesh.Value

/-!
# Faults of a pipeline

Every fault ends the compilation it occurs in. A fault says what went wrong in terms of the
pipeline; its message is fit to be shown.

## Main definitions

* `Fault` — what can be wrong with a pipeline or its configuration
* `Fault.family`, `Fault.name`, `Fault.message` — how a fault is classed and shown
-/

namespace StreamMesh

/-- Where in a configuration something is wrong, as far as it is known. -/
structure Location where
  file : Option String
  field : Option String
  line : Option Int
  deriving DecidableEq, Repr, Inhabited

/-- What can be wrong with a pipeline or its configuration. -/
inductive Fault where
  | general (message : String)
  | validation (message : String)
  | compilation (message : String)
  | configuration (message : String) (location : Location)
  /-- A step or the pipeline lacks an attribute. -/
  | missingField (field : String) (node : Option RawText)
  /-- A name is declared twice. -/
  | duplicateName (name existingKind : String)
  | unknownComponent (name kind : String)
  | invalidKind (kind : Value) (allowed : List String)
  /-- A connection leads to a missing node or to one of the wrong kind. -/
  | invalidEdge (origin target expected : String)
  /-- The connections run in a circle through a node. -/
  | cyclicGraph (node : String)
  /-- A sink declares a connection. -/
  | sinkConnects (sink : Option String) (target : RawText)
  /-- A processor is fed by two nodes. -/
  | secondInput (processor known other : String)
  | unsupportedTarget (target : String) (available : List String)
  /-- What feeds a processor is neither a source nor a processor. -/
  | invalidInputKind (processor : String) (input kind : Option String)
  /-- What a processor feeds is neither a processor nor a sink. -/
  | invalidOutputKind (processor output : String) (kind : Option String)
  /-- A source or sink has no topic in its mapping. -/
  | unmappedTopic (node mapping : String) (available : List RawText)

/-- The families of faults. -/
inductive Fault.Family where
  | general
  | validation
  | compilation
  | configuration
  deriving DecidableEq, Repr

namespace Fault

/-- The family that a fault belongs to. -/
def family : Fault → Family
  | general _ => .general
  | validation _ | missingField .. | duplicateName .. | unknownComponent .. | invalidKind ..
  | invalidEdge .. | cyclicGraph _ | sinkConnects .. | secondInput .. => .validation
  | compilation _ | unsupportedTarget .. => .compilation
  | invalidInputKind .. | invalidOutputKind .. => .compilation
  | configuration .. | unmappedTopic .. => .configuration

/-- The name under which a fault is reported. -/
def name : Fault → String
  | general _ => "SluiceError"
  | validation _ | sinkConnects .. | secondInput .. => "ValidationError"
  | compilation _ | unsupportedTarget .. => "CompilationError"
  | configuration .. => "ConfigurationError"
  | missingField .. => "MissingFieldError"
  | duplicateName .. => "DuplicateNameError"
  | unknownComponent .. => "UnknownComponentError"
  | invalidKind .. => "InvalidKindError"
  | invalidEdge .. => "InvalidEdgeError"
  | cyclicGraph _ => "CyclicGraphError"
  | invalidInputKind .. => "InvalidInputKindError"
  | invalidOutputKind .. => "InvalidOutputKindError"
  | unmappedTopic .. => "UnmappedTopicError"

/-- A text that may be absent, in a message. -/
def shown (s : Option String) : String := s.getD "None"

/-- The known parts of a location; empty texts and line zero count as unknown. -/
def locationParts (l : Location) : List String :=
  (match l.file with
    | some f => if f.isEmpty then [] else ["in " ++ f]
    | none => [])
  ++ (match l.line with
    | some n => if n = 0 then [] else ["line " ++ toString n]
    | none => [])
  ++ (match l.field with
    | some f => if f.isEmpty then [] else ["field '" ++ f ++ "'"]
    | none => [])

/-- A message with the location that it is about. -/
def withLocation (message : RawText) (l : Location) : RawText :=
  match locationParts l with
  | [] => message
  | parts => message ++ " (" ++ String.intercalate ", " parts ++ ")"

/-- The place of a node's topic in the configuration. -/
def topicLocation (node mapping : String) : Location := ⟨none, some (mapping ++ "." ++ node), none⟩

/-- Texts in a row, or `none` for no text. -/
def rowOr (none : String) : List RawText → RawText
  | [] => none
  | xs => RawText.join ", " xs

/-- The message of a fault. -/
def message : Fault → RawText
  | general m | validation m | compilation m => m
  | configuration m l => withLocation m l
  | missingField field node =>
    "Required field '" ++ field ++ "' missing"
      ++ match node with
        | some n => if n.isEmpty then "" else " for '" ++ n ++ "'"
        | none => ""
  | duplicateName name kind => "Node '" ++ name ++ "' is already declared as a " ++ kind
  | unknownComponent name kind => "No " ++ kind ++ " named '" ++ name ++ "' is declared"
  | invalidKind kind allowed =>
    "Invalid step kind '" ++ kind.text ++ "': must be one of " ++ String.intercalate "|" allowed
  | invalidEdge origin target expected =>
    "'" ++ origin ++ "' connects to '" ++ target ++ "', which does not exist or is not a "
      ++ expected
  | cyclicGraph node => "The pipeline graph contains a cycle through '" ++ node ++ "'"
  | sinkConnects sink target =>
    "Sink '" ++ shown sink ++ "' cannot connect to '" ++ target
      ++ "': sinks have no outgoing connection"
  | secondInput processor known other =>
    "Processor '" ++ processor ++ "' is fed by both '" ++ known ++ "' and '" ++ other
      ++ "'; a processor accepts a single input"
  | unsupportedTarget target available =>
    "Unsupported deployment target '" ++ target ++ "'. Available: "
      ++ String.intercalate ", " available
  | invalidInputKind processor none _ => "Processor '" ++ processor ++ "' has no input stream"
  | invalidInputKind processor (some input) kind =>
    "Invalid input stream kind to processor '" ++ processor ++ "': '" ++ input ++ "' is a "
      ++ shown kind
  | invalidOutputKind processor output kind =>
    "Invalid output stream kind from processor '" ++ processor ++ "': '" ++ output ++ "' is a "
      ++ shown kind
  | unmappedTopic node mapping available =>
    withLocation
      ("No topic mapped for '" ++ node ++ "'. Mapped: " ++ rowOr "none" available)
      (topicLocation node mapping)

/-- A node without a topic, with the names that have one in rising order. -/
def unmapped (node mapping : String) (names : List RawText) : Fault :=
  .unmappedTopic node mapping (names.mergeSort fun a b => !b.precedes a)

end Fault

end StreamMesh
