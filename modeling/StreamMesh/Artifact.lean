import StreamMesh.Manifest
import StreamMesh.Schema.Check
import StreamMesh.Yaml.Print

/-!
# Artifacts

An artifact is a generated text with the directory and the file that it belongs into. The name of
the file must not lead out of the directory.

## Main definitions

* `Category` — the directories
* `Artifact` — a generated file
* `Artifact.check` — an artifact from a document
* `Rendering` — an artifact before its manifest is written out
-/

namespace StreamMesh

/-- The directories of generated files. -/
inductive Category where
  | bindings
  | deployments
  | scaling
  | streams
  | topics
  | monitoring
  deriving DecidableEq, Repr, Inhabited

namespace Category

/-- The name of a directory. -/
def text : Category → String
  | bindings => "bindings"
  | deployments => "deployments"
  | scaling => "scaling"
  | streams => "streams"
  | topics => "topics"
  | monitoring => "monitoring"

/-- All directories. -/
def all : List Category := [bindings, deployments, scaling, streams, topics, monitoring]

/-- The directory of a name. -/
def ofText? (s : String) : Option Category := all.find? fun c => c.text == s

/-- The names of the directories in a message. -/
def choices : String := "'bindings', 'deployments', 'scaling', 'streams', 'topics' or 'monitoring'"

open Schema in
/-- A directory from a document. -/
def check : Value → Checked Category
  | .str s => match ofText? s with
    | some c => .accepted c
    | none => .fail (.notOneOf choices)
  | _ => .fail (.notOneOf choices)

/-- What is said of a value that is no directory. -/
def invalidMessage (v : Value) : String := v.inner ++ " is not a valid ArtifactCategory"

/-- The directory that a raw value names, or what is said of the value. -/
def parse (v : Value) : Except String Category :=
  match v with
  | .str s => match ofText? s with
    | some c => .ok c
    | none => .error (invalidMessage v)
  | _ => .error (invalidMessage v)

end Category

/-- A generated file. -/
structure Artifact where
  category : Category
  fileName : String
  content : RawText
  deriving DecidableEq, Repr, Inhabited

namespace Artifact

open Schema

/-- The defect of a text that cannot name a file. -/
def fileNameDefect? (s : String) : Option Defect :=
  if s.isEmpty then some .emptyText
  else if s.toList.any fun c => c == '/' || c == '\\' then some (.mismatch "^[^/\\\\]+$")
  else none

/-- An artifact from a document. -/
def check : Value → Checked Artifact :=
  record "Artifact" fun m =>
    Artifact.mk <$> required "category" Category.check m
      <*> required "file_name" (textThat fileNameDefect?) m
      <*> required "content" text m
      <* noOthers ["category", "file_name", "content"] m

/-- The path of an artifact below the root of all. A file named by a single dot is the directory. -/
def relativePath (a : Artifact) : String :=
  if a.fileName = "." then a.category.text else a.category.text ++ "/" ++ a.fileName

end Artifact

/-- A manifest with the directory and the file that it belongs into. -/
structure Rendering where
  category : Category
  fileName : String
  manifest : Manifest

namespace Rendering

open Schema

/-- The generated file. -/
def artifact (r : Rendering) : Artifact := ⟨r.category, r.fileName, r.manifest.spelled⟩

/-- A manifest for a file whose name is checked. -/
def make (category : Category) (fileName : RawText) (manifest : Manifest) : Checked Rendering :=
  match fileName with
  | .broken _ => .rejected [⟨[.key "file_name"], .illFormedText⟩]
  | .whole name => match Artifact.fileNameDefect? name with
    | none => .accepted ⟨category, name, manifest⟩
    | some d => .rejected [⟨[.key "file_name"], d⟩]

end Rendering

end StreamMesh
