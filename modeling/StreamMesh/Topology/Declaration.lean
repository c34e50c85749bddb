import StreamMesh.Failure
import StreamMesh.Schema.Check
import StreamMesh.Topology.Basic

/-!
# Declarations of raw values

A declaration may come with values of any type. What counts as nothing is missing; what counts for
something has to be text, and in an environment all keys and values have to be.

## Main definitions

* `Declaration` — a node that is to be declared, with raw values
* `Declaration.node` — the node, or why the values do not make one
* `Topology.declare` — adds the node to a topology
-/

namespace StreamMesh

/-- A node that is to be declared, with raw values. -/
inductive Declaration where
  | source (name connectsTo : Value)
  | processor (name connectsTo env : Value)
  | sink (name : Value)

namespace Declaration

open Schema

/-- Passes a value that counts for something on; otherwise the field is missing, in the node of a
name where that is known. -/
def need (field : String) (node : Option RawText) (v : Value) : Except Failure Unit :=
  if v.isBlank then .error (.fault (.missingField field node)) else .ok ()

/-- A name as a field of a node. -/
def named (name : Value) : Checked String := (nonEmptyText name).under (.key "name")

/-- A connection as a field of a node. -/
def connected (connectsTo : Value) : Checked String :=
  (nonEmptyText connectsTo).under (.key "connects_to")

/-- The node of a declaration, or why its values do not make one. -/
def node : Declaration → Except Failure Node
  | .source name connectsTo => do
    need "name" none name
    need "connectsTo" (some name.text) connectsTo
    Failure.ofChecked "SourceNode" (Node.source <$> named name <*> connected connectsTo)
  | .processor name connectsTo env => do
    need "name" none name
    need "connectsTo" (some name.text) connectsTo
    Failure.ofChecked "ProcessorNode"
      ((fun n target table => Node.processor n target none table) <$> named name
        <*> connected connectsTo <*> (texts env.orEmpty).under (.key "env"))
  | .sink name => do
    need "name" none name
    Failure.ofChecked "SinkNode" ((fun n => Node.sink n []) <$> named name)

end Declaration

/-- Adds the node of a declaration to a topology. -/
def Topology.declare (t : Topology) (d : Declaration) : Except Failure Topology := do
  let n ← d.node
  Failure.ofFault (t.add n)

end StreamMesh
