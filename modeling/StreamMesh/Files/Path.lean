import StreamMesh.Text.Pieces

/-!
# Paths

A path is read once and kept as its names, so that two spellings of one path are shown alike:
repeated slashes and single dots do not count. Two dots stay, since they depend on the files.

## Main definitions

* `Path` — where a path starts, and its names
* `Path.ofText`, `Path.text` — reading and showing a path
* `Path.child` — the path of a file below
-/

namespace StreamMesh

/-- Where a path starts, and the names that lead on. -/
structure Path where
  /-- How many slashes stand in front: none for a path from the working directory, otherwise one, or
  two if there are exactly two. -/
  slashes : Nat
  names : List String
  deriving DecidableEq, Repr, Inhabited

namespace Path

/-- The parts of a text between slashes. -/
def parts (s : String) : List String := (Text.pieces '/' s.toList).map String.ofList

/-- Whether a part of a path leads anywhere. -/
def counts (name : String) : Bool := name != "" && name != "."

/-- How many slashes count at the start of a text. -/
def leadingSlashes (s : String) : Nat :=
  let given := (s.toList.takeWhile (· == '/')).length
  if given ≤ 2 then given else 1

/-- The path of a text. -/
def ofText (s : String) : Path := ⟨leadingSlashes s, (parts s).filter counts⟩

/-- A path as a text; the working directory is a single dot. -/
def text (p : Path) : String :=
  if p.slashes = 0 ∧ p.names = [] then "."
  else String.ofList (List.replicate p.slashes '/') ++ String.intercalate "/" p.names

/-- The path of a file below, by its name. -/
def child (p : Path) (name : String) : Path := ⟨p.slashes, p.names ++ [name].filter counts⟩

/-- The most bytes that a name may have. -/
def maxNameBytes : Nat := 255

/-- The most bytes that a path may have. -/
def maxBytes : Nat := 4095

end Path

end StreamMesh
