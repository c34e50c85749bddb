import StreamMesh.Label
import StreamMesh.Schema.Check

/-!
# Pipeline specifications

A pipeline is declared as a name and a list of steps. What a step lacks is left to the reading of
the steps as nodes; here only the shape of the document is checked.

## Main definitions

* `EnvEntry`, `Step`, `Spec` — a declared pipeline
* `EnvEntry.valueText` — scalars as values of environment variables
* `Spec.check` — a specification from a document
-/

namespace StreamMesh

/-- One environment variable of a step. -/
structure EnvEntry where
  name : String
  value : RawText
  deriving DecidableEq, Repr, Inhabited

/-- One declared step. -/
structure Step where
  name : Option String
  kind : Option RawText
  connectsTo : Option RawText
  env : List EnvEntry
  deriving DecidableEq, Repr, Inhabited

/-- A declared pipeline. -/
structure Spec where
  name : Option RawText
  steps : Option (List Step)
  deriving DecidableEq, Repr, Inhabited

open Schema

/-- Writes truth values, numbers and null as text; other values stay what they are. Only so many
digits of a whole number are written. -/
def EnvEntry.valueText : Value → Checked Value
  | .bool b => .accepted (.str (if b then "true" else "false"))
  | .int n =>
    if Decimal.isWritable n then .accepted (.str (toString n))
    else .fail (.refused Decimal.tooLong)
  | .float x => .accepted (.str (Decimal.floatText x))
  | .null => .accepted (.str "")
  | v => .accepted v

/-- An environment variable from a document. -/
def EnvEntry.check : Value → Checked EnvEntry :=
  record "EnvVar" fun m =>
    EnvEntry.mk <$> required "name" nonEmptyText m
      <*> optional "value" "" (fun v => (valueText v).bind text) m
      <* noOthers ["name", "value"] m

/-- What is said of a text that cannot name a step. -/
def Step.nameRule (name : RawText) : RawText :=
  "Step name '" ++ name ++ "' must be at most " ++ toString Label.maxLength
    ++ " lowercase letters, digits or '-', starting and ending with a letter or digit"

/-- The defect of a step's name. The empty name is left to the reading of the steps. -/
def Step.nameDefect? (name : String) : Option Defect :=
  if name.isEmpty || Label.isStepName name then none else some (.refused (Step.nameRule name))

/-- The name of a step from a document. -/
def Step.checkName (v : Value) : Checked String :=
  (text v).bind fun
    | .whole s => match Step.nameDefect? s with
      | none => .accepted s
      | some d => .fail d
    | .broken t => .fail (.refused (Step.nameRule (.broken t)))

/-- The key of a step's connection: the first spelling wins if both are there. -/
def Step.connectionKey (entries : List (Value × Value)) : String :=
  match Value.entry? "connectsTo" entries, Value.entry? "connects_to" entries with
  | none, some _ => "connects_to"
  | _, _ => "connectsTo"

/-- A step from a document. -/
def Step.check : Value → Checked Step :=
  record "StepSpec" fun m =>
    let connection := Step.connectionKey m
    Step.mk <$> optional "name" none (nullable Step.checkName) m
      <*> optional "kind" none (nullable text) m
      <*> optional connection none (nullable text) m
      <*> optional "env" [] (items EnvEntry.check) m
      <* noOthers ["name", "kind", connection, "env"] m

/-- A specification from a document. -/
def Spec.check : Value → Checked Spec :=
  record "PipelineSpec" fun m =>
    Spec.mk <$> optional "name" none (nullable text) m
      <*> optional "steps" none (nullable (items Step.check)) m
      <* noOthers ["name", "steps"] m

end StreamMesh
