import StreamMesh.Command.Run
import StreamMesh.Yaml.Document

/-!
# The program

The program takes a picture of the files that its command looks at, lets the command work on the
picture, and then makes the same changes to the files.

## Main definitions

* `snapshot` — a tree with what stands at some paths
* `settle` — makes the changes between two trees
* `main` — the program
-/

namespace StreamMesh

/-- What stands at a path, if it can be told. -/
def probe (p : Path) : IO (Option Entry) := do
  try
    return some (.file (← IO.FS.readFile p.text))
  catch
    | .inappropriateType _ code _ => return if code = 21 then some .directory else none
    | _ => return none

/-- Adds what stands at a path to a tree, unless the tree knows it. -/
def look (t : Tree) (p : Path) : IO Tree := do
  match t.place p with
  | .error _ => return t
  | .ok place =>
    if (t.at? place).isSome then return t
    match ← probe p with
    | some e => return t.put place e
    | none => return t

/-- A tree with what stands at some paths and above them. -/
def snapshot (paths : List Path) : IO Tree := do
  let home := (Path.ofText (toString (← IO.currentDir))).names
  let above := (List.range (home.length + 1)).map fun n => (⟨1, home.take n⟩ : Path)
  let all := paths.flatMap fun p => (List.range (p.names.length + 1)).map fun n =>
    (⟨p.slashes, p.names.take n⟩ : Path)
  (above ++ all).foldlM look ⟨Assoc.empty, home⟩

/-- Makes the changes between two trees. -/
def settle (before after : Tree) : IO Unit :=
  after.entries.entries.forM fun (place, e) => do
    if before.at? place != some e then
      let path := Path.text ⟨1, place⟩
      match e with
      | .directory => IO.FS.createDir path
      | .file text => IO.FS.writeFile path text

/-- What is told about an error for which a command has no complaint. -/
def SourceError.message : SourceError → String
  | .missing notice path => missingMessage notice path
  | .file e => e.message
  | .document _ => "The document holds what cannot be read."
  | .failure (.fault f) => f.message.lossy
  | .failure (.invalid record issues) => (Complaint.ofIssues issues record).message.lossy
  | .failure .noNamespace => Failure.noNamespaceMessage
  | .failure (.unencodable t) => t.reason
  | .failure .tooLong => Decimal.tooLong

/-- Shows a report and makes its changes. -/
def conclude (before : Tree) (r : Report) : IO UInt32 := do
  settle before r.tree
  match Notice.allShown? Markup.isBareHandler r.notices with
  | some s =>
    IO.print s
    return r.exitCode.toUInt32
  | none =>
    IO.eprintln "A message cannot be shown."
    return 1

/-- Does what some arguments ask for. -/
def perform (args : List String) : IO UInt32 := do
  match Invocation.ofArguments args with
  | .error misuse =>
    IO.eprintln misuse.message
    return 2
  | .ok invocation =>
    let before ← snapshot invocation.paths
    match invocation.ending Yaml.documentValue before with
    | .error x =>
      settle before x.tree
      IO.eprintln x.error.message
      return 1
    | .ok r => conclude before r

end StreamMesh

/-- The program. -/
def main (args : List String) : IO UInt32 := StreamMesh.perform args
