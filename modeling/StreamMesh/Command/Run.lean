import StreamMesh.Command.Complaint
import StreamMesh.Command.Invocation
import StreamMesh.Console.Notice
import StreamMesh.Files.Source
import StreamMesh.Files.Write

/-!
# Commands

A command reads files of a tree, tells its user what it finds, and leaves a tree. Nothing is written
before the whole compilation has succeeded. An error about which there is nothing to say to the user
ends the command as it stands, and what has been written until then stays.

## Main definitions

* `Report` — what is told, the exit code, and the tree that is left
* `Escape` — an error that ends a command, and the tree that is left
* `runValidate` — checks a pipeline and shows its order
* `runCompile` — compiles a pipeline and writes its manifests
* `Invocation.ending`, `Invocation.run` — does what is asked for
-/

namespace StreamMesh

/-- What a command tells, how it exits, and the tree that it leaves. -/
structure Report where
  notices : List Notice
  exitCode : Nat
  tree : Tree
  deriving DecidableEq, Repr

/-- An error that ends a command without a complaint, and the tree that it leaves. -/
structure Escape where
  error : SourceError
  tree : Tree

/-- Ends a command with a complaint, after what has been told before. -/
def Complaint.report (c : Complaint) (before : List Notice) (t : Tree) : Report :=
  ⟨before ++ [.failure c.message], c.exitCode, t⟩

/-- The complaint about files that yield no result, if their user can mend that. `path` is the file
as spelled, `source` what its text is called, and `action` what is done with it. -/
def SourceError.complaint? (path source action : String) : SourceError → Option Complaint
  | .missing .. => none
  | .file _ => none
  | .document e => Complaint.ofDocument? e source path
  | .failure (.fault f) => some (.ofFault f action)
  | .failure (.invalid _ issues) => some (.ofIssues issues path)
  | .failure .noNamespace => none
  | .failure (.unencodable _) => none
  | .failure .tooLong => none

/-- Ends a command with the complaint about an error, or with the error if there is none. -/
def SourceError.report (e : SourceError) (path source action : String) (before : List Notice)
    (t : Tree) : Except Escape Report :=
  match e.complaint? path source action with
  | some c => .ok (c.report before t)
  | none => .error ⟨e, t⟩

/-- The kind of each node of an order. -/
def Plan.kinds (p : Plan) : Assoc String String :=
  Assoc.ofList (p.order.filterMap fun name => (p.topology.kindOf? name).map fun k => (name, k.text))

/-- The plan of the pipeline in a file. -/
def planFile (load : Loader) (t : Tree) (p : Path) : Except SourceError Plan :=
  match Spec.load load t p with
  | .error e => .error e
  | .ok spec => SourceError.ofFailure (plan spec).2

/-- Checks the pipeline in a file and shows its order. -/
def runValidate (load : Loader) (t : Tree) (file : String) : Except Escape Report :=
  let path := Path.ofText file
  match t.has path with
  | .error e => .error ⟨.file e, t⟩
  | .ok false => .ok ((Complaint.missingFile file "--file").report [] t)
  | .ok true => match planFile load t path with
    | .error e => e.report file path.text "Validation" [] t
    | .ok p =>
      .ok ⟨[.order p.order (some p.kinds),
        .success ("Pipeline '" ++ p.topology.name ++ "' valid")], 0, t⟩

/-- The configuration in force for a request, with what is told about it. -/
def CompileRequest.loadConfig (load : Loader) (r : CompileRequest) (t : Tree) :
    Except SourceError (List Notice × Deployment) :=
  let path := Path.ofText r.config
  match t.has path with
  | .error e => .error (.file e)
  | .ok true => (Deployment.load load t path).map fun d => ([], d)
  | .ok false =>
    .ok ([.warning ↑("No deployment config at " ++ r.config ++ ", using built-in defaults")],
      Deployment.builtIn)

/-- The result of compiling for a target. -/
def compileFor (load : Loader) (target : String) (t : Tree) (p : Path) (d : Deployment) :
    Except SourceError Compiled :=
  match checkTarget target with
  | .error f => .error (.failure (.fault f))
  | .ok _ => (compileFile load t p (some d) none).map Prod.fst

/-- Writes what has been compiled and tells about it, or complains about what cannot be written. -/
def CompileRequest.deliver (r : CompileRequest) (t : Tree) (before : List Notice) (c : Compiled) :
    Except Escape Report :=
  match t.writeArtifacts (Path.ofText r.output) c.artifacts with
  | (t', none) =>
    .ok ⟨before ++ [.order c.order none, .info ↑("Namespace: " ++ c.ns),
      .success ↑("Compiled " ++ toString c.artifacts.length ++ " manifests to " ++ r.output)],
      0, t'⟩
  | (t', some e) => match e.fault.system? with
    | some f => .ok ((Complaint.unwritten f r.output).report before t')
    | none => .error ⟨.file e, t'⟩

/-- Compiles the pipeline of a request whose files have been found. -/
def CompileRequest.work (load : Loader) (r : CompileRequest) (t : Tree) : Except Escape Report :=
  match r.loadConfig load t with
  | .error e => e.report r.config (Path.ofText r.config).text "Compilation" [] t
  | .ok (before, d) => match compileFor load r.target t (Path.ofText r.file) d with
    | .error e => e.report r.file "<unicode string>" "Compilation" before t
    | .ok c => r.deliver t before c

/-- Compiles a pipeline and writes its manifests. A configuration that is asked for has to be
there. -/
def runCompile (load : Loader) (t : Tree) (r : CompileRequest) : Except Escape Report :=
  match t.has (Path.ofText r.file) with
  | .error e => .error ⟨.file e, t⟩
  | .ok false => .ok ((Complaint.missingFile r.file "--file").report [] t)
  | .ok true =>
    -- A configuration that is only looked for may be missing.
    if r.configGiven then match t.has (Path.ofText r.config) with
      | .error e => .error ⟨.file e, t⟩
      | .ok false => .ok ((Complaint.missingFile r.config "--config").report [] t)
      | .ok true => r.work load t
    else r.work load t

/-- The name of the program and its version. -/
def versionLine : String := "sluice, version 0.1.0"

/-- How the program is used. -/
def usageLine : String := "Usage: sluice COMMAND, where COMMAND is compile or validate"

/-- The paths that a command looks at. Of the place for manifests these are its directories. -/
def Invocation.paths : Invocation → List Path
  | .help => []
  | .version => []
  | .validate file => [.ofText file]
  | .compile r =>
    [.ofText r.file, .ofText r.config]
      ++ Category.all.map fun c => (Path.ofText r.output).child c.text

/-- How what is asked for ends. -/
def Invocation.ending (load : Loader) (t : Tree) : Invocation → Except Escape Report
  | .help => .ok ⟨[.info usageLine], 0, t⟩
  | .version => .ok ⟨[.info versionLine], 0, t⟩
  | .compile r => runCompile load t r
  | .validate file => runValidate load t file

/-- Does what is asked for. -/
def Invocation.run (load : Loader) (t : Tree) (i : Invocation) : Except SourceError Report :=
  (i.ending load t).mapError Escape.error

end StreamMesh
