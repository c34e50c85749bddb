import StreamMesh.Artifact
import StreamMesh.Files.Tree

/-!
# Writing artifacts

Artifacts are written one after the other below a directory, each into the directory of its
category. The first that cannot be written ends this; those before it stay, and so does the empty
file of one whose text cannot be encoded.

## Main definitions

* `Artifact.path` — where an artifact goes
* `Tree.writeArtifact`, `Tree.writeArtifacts` — writing one and several artifacts
* `Tree.storeArtifacts` — writing several artifacts, with the paths that were written
-/

namespace StreamMesh

/-- The directory of an artifact below another directory. -/
def Artifact.directory (root : Path) (a : Artifact) : Path := root.child a.category.text

/-- Where an artifact goes below a directory. -/
def Artifact.path (root : Path) (a : Artifact) : Path := (a.directory root).child a.fileName

namespace Tree

/-- Writes an artifact below a directory. -/
def writeArtifact (root : Path) (a : Artifact) (t : Tree) : Tree × Option FileError :=
  match t.ensureDirectory (a.directory root) with
  | (t', some e) => (t', some e)
  | (t', none) => t'.writeText (a.path root) a.content

/-- Writes artifacts below a directory, up to the first that cannot be written. -/
def writeArtifacts (root : Path) : List Artifact → Tree → Tree × Option FileError
  | [], t => (t, none)
  | a :: rest, t => match t.writeArtifact root a with
    | (t', none) => writeArtifacts root rest t'
    | (t', some e) => (t', some e)

/-- Writes artifacts below a directory, and tells the paths in the order in which they are written,
or why one cannot be. -/
def storeArtifacts (root : Path) (as : List Artifact) (t : Tree) :
    Tree × Except FileError (List Path) :=
  go [] as t
where
  go (written : List Path) : List Artifact → Tree → Tree × Except FileError (List Path)
    | [], t => (t, .ok written)
    | a :: rest, t => match t.writeArtifact root a with
      | (t', none) => go (written ++ [a.path root]) rest t'
      | (t', some e) => (t', .error e)

end Tree

end StreamMesh
