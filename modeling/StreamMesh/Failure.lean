import StreamMesh.Fault
import StreamMesh.Schema.Issue

/-!
# Why a compilation fails

## Main definitions

* `Failure` — a fault of the pipeline, a record that does not fit its schema, or a text or a number
  that cannot be written
* `Failure.ofChecked`, `Failure.ofFault` — checks and look-ups as steps of a compilation
-/

namespace StreamMesh

/-- Why a compilation fails. -/
inductive Failure where
  | fault (f : Fault)
  /-- A record of the given name does not fit its schema. -/
  | invalid (record : String) (issues : List Schema.Issue)
  /-- Objects are to be generated while the namespace is not settled. -/
  | noNamespace
  /-- What is to be said of a record cannot be encoded. -/
  | unencodable (reason : BrokenText)
  /-- A whole number has too many digits to be written out. -/
  | tooLong

/-- What is said where the namespace is not settled. -/
def Failure.noNamespaceMessage : String :=
  "DeploymentConfig.namespace must be resolved before generation"

/-- The failure of a check that finds some issues. A reason that cannot be encoded takes the place
of all of them. -/
def Failure.ofIssues (record : String) (issues : List Schema.Issue) : Failure :=
  match issues.findSome? fun i => i.defect.unencodable? with
  | some t => unencodable t
  | none => invalid record issues

/-- A check as a step of a compilation. -/
def Failure.ofChecked {α : Type} (record : String) : Schema.Checked α → Except Failure α
  | .accepted a => .ok a
  | .rejected issues => .error (.ofIssues record issues)

/-- A step that can find a fault as a step of a compilation. -/
def Failure.ofFault {α : Type} : Except Fault α → Except Failure α
  | .ok a => .ok a
  | .error f => .error (.fault f)

end StreamMesh
