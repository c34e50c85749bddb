import StreamMesh.Compile
import StreamMesh.Digest
import StreamMesh.Files.Tree
import StreamMesh.Yaml.Error

/-!
# Specifications and configurations in files

A file holds one document, and an empty document counts as an empty mapping. A file is looked for
before it is read, so that a missing file is told apart from one that cannot be read. How a text is
read as a document is left open.

## Main definitions

* `Loader` — how the text of a document is read
* `SourceError` — why files yield no result
* `Spec.load`, `Deployment.load` — the content of a file
* `compileFile` — the result of compiling a file, and the digest of its text
-/

namespace StreamMesh

/-- How the text of a document is read. -/
abbrev Loader := String → Except Yaml.Error Value

/-- Why files yield no result. -/
inductive SourceError where
  /-- No file is found, with what is said about its kind. -/
  | missing (notice : String) (path : Path)
  | file (e : FileError)
  | document (e : Yaml.Error)
  | failure (f : Failure)

/-- The message about a missing file. -/
def missingMessage (notice : String) (path : Path) : String := notice ++ ": " ++ path.text

/-- A step that can fail on the documents as a step of reading files. -/
def SourceError.ofFailure {α : Type} : Except Failure α → Except SourceError α
  | .ok a => .ok a
  | .error f => .error (.failure f)

namespace Tree

/-- The text of a file and the value of its document. What is said of a missing file starts with
`notice`. -/
def document (load : Loader) (t : Tree) (notice : String) (p : Path) :
    Except SourceError (String × Value) :=
  match t.has p with
  | .error e => .error (.file e)
  | .ok false => .error (.missing notice p)
  | .ok true => match t.readText p with
    | .error e => .error (.file e)
    | .ok text => match load text with
      | .error e => .error (.document e)
      | .ok v => .ok (text, v.orEmpty)

end Tree

/-- The specification that a file holds, and the text of the file. -/
def Spec.loadText (load : Loader) (t : Tree) (p : Path) : Except SourceError (String × Spec) :=
  match t.document load "File not found" p with
  | .error e => .error e
  | .ok (text, v) =>
    SourceError.ofFailure ((Failure.ofChecked "PipelineSpec" (Spec.check v)).map fun s => (text, s))

/-- The specification that a file holds. -/
def Spec.load (load : Loader) (t : Tree) (p : Path) : Except SourceError Spec :=
  (Spec.loadText load t p).map Prod.snd

/-- The configuration that a file holds. -/
def Deployment.load (load : Loader) (t : Tree) (p : Path) : Except SourceError Deployment :=
  match t.document load "Deployment config not found" p with
  | .error e => .error e
  | .ok (_, v) => SourceError.ofFailure (Failure.ofChecked "DeploymentConfig" (Deployment.check v))

/-- The configuration for compiling a file: a given one, that of a file, or the built-in one. -/
def Deployment.choose (load : Loader) (t : Tree) (given : Option Deployment)
    (path : Option Path) : Except SourceError Deployment :=
  match given, path with
  | some d, _ => .ok d
  | none, some p => Deployment.load load t p
  | none, none => .ok Deployment.builtIn

/-- The result of compiling the specification that a file holds, and the digest of its text. -/
def compileFile (load : Loader) (t : Tree) (p : Path) (given : Option Deployment)
    (configPath : Option Path) : Except SourceError (Compiled × String) := do
  let (text, spec) ← Spec.loadText load t p
  let config ← Deployment.choose load t given configPath
  let compiled ← SourceError.ofFailure (compile spec config)
  return (compiled, sha256 text)

end StreamMesh
