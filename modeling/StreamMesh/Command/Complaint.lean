import StreamMesh.Files.Tree
import StreamMesh.Failure
import StreamMesh.Yaml.Error

/-!
# Complaints

A command that fails for a reason that its user can mend says so in a message and ends with an exit
code: 1 for documents that are not right, 2 for files that are missing or cannot be written.

## Main definitions

* `Complaint` — a message and an exit code
* `Complaint.missingFile`, `Complaint.denied`, `Complaint.unwritten` — about files
* `Complaint.ofFault`, `Complaint.ofIssues`, `Complaint.ofDocument?` — about documents
-/

namespace StreamMesh

/-- A message and an exit code. -/
structure Complaint where
  message : RawText
  exitCode : Nat
  deriving DecidableEq, Repr

/-- A failure of the system as it is reported: its number, if it has one, and its text. -/
structure SystemFault where
  number : Option Nat
  text : String
  deriving DecidableEq, Repr

namespace SystemFault

/-- The numbers of failures that mean a lack of rights. -/
def deniedNumbers : List Nat := [1, 13]

/-- Whether a failure means a lack of rights. -/
def isDenied (f : SystemFault) : Bool := f.number.any deniedNumbers.contains

/-- What is told of a failure: its text, or its number where the text is empty. -/
def reason (f : SystemFault) : String :=
  match f.number with
  | some n => if f.text.isEmpty then "[Errno " ++ toString n ++ "] " else f.text
  | none => f.text

end SystemFault

/-- A failure of the system, if a fault about files is one. -/
def FileFault.system? (f : FileFault) : Option SystemFault :=
  f.number?.map fun n => ⟨some n, f.text⟩

namespace Complaint

/-- The exit code where documents are not right. -/
def badInput : Nat := 1

/-- The exit code where files are missing or cannot be written. -/
def badSystem : Nat := 2

/-- A file is missing that an option names. -/
def missingFile (path option : String) : Complaint :=
  ⟨↑("File not found: " ++ path ++ "\n\nUse " ++ option ++ " to specify the file path."), badSystem⟩

/-- There is no right to do something with a file. -/
def denied (path operation : String) : Complaint :=
  ⟨↑("Permission denied: Cannot " ++ operation ++ " " ++ path), badSystem⟩

/-- Manifests cannot be written below a directory. -/
def unwritten (f : SystemFault) (path : String) : Complaint :=
  if f.isDenied then denied path "write to"
  else ⟨↑("Cannot write manifests to " ++ path ++ ": " ++ f.reason), badSystem⟩

/-- A pipeline has a fault that shows while something is done with it. -/
def ofFault (f : Fault) (action : String) : Complaint :=
  ⟨action ++ " failed (" ++ f.name ++ "): " ++ f.message, badInput⟩

/-- A part of a place as a text. -/
def placeText : Schema.Place → String
  | .key s => s
  | .index n => toString n

/-- An issue as a line of a message. -/
def issueLine (i : Schema.Issue) : RawText :=
  "  - " ++ String.intercalate "." (i.place.map placeText) ++ ": " ++ i.defect.message

/-- The document of a file does not fit its schema. -/
def ofIssues (issues : List Schema.Issue) (path : String) : Complaint :=
  ⟨"Invalid configuration in " ++ path ++ ":\n"
    ++ RawText.join "\n" ("Validation failed:" :: issues.map issueLine), badInput⟩

/-- What is said of the text of a document, where `source` names the text. Scalars that spell no
value are not told about. -/
def documentMessage? (source : String) : Yaml.Error → Option String
  | .forbidden code position => some (Yaml.forbiddenMessage source code position)
  | .at _ problem mark =>
    some ("YAML syntax error at line " ++ toString (mark.line + 1) ++ ", column "
      ++ toString (mark.column + 1) ++ ": " ++ problem.message)
  | _ => none

/-- The text of a file is no document. -/
def ofDocument? (e : Yaml.Error) (source path : String) : Option Complaint :=
  (documentMessage? source e).map fun message =>
    ⟨↑("Invalid YAML in " ++ path ++ ": " ++ message), badInput⟩

end Complaint

end StreamMesh
