import StreamMesh.Proofs.Command.Stages
import StreamMesh.Proofs.Compile.Output
import StreamMesh.Proofs.Files.Confinement
import StreamMesh.Yaml.Document

/-!
# What a compilation changes

Until it has come to a result, a compilation only reads. What changes then are the files of the
artifacts: all of them if the command succeeds, and only some of them if writing breaks off, for
nothing is taken back.

## Main definitions

* `leftTree`, `Failed` — the tree that a command leaves, and whether it has failed
* `endsWith` — a check of what a command reports

## Main results

* `compile_changes` — a compilation without a result changes nothing, and one that succeeds only the
  files of its artifacts
* `writing_breaks_off` — what is left where an artifact cannot be written
* `unfinished_manifests` — a compilation that fails and leaves one manifest of two
-/

namespace StreamMesh

open Yaml (documentValue)

/-- The tree that a command leaves, however it ends. -/
def leftTree : Except Escape Report → Tree
  | .ok rep => rep.tree
  | .error x => x.tree

/-- A command that ends with an exit code other than zero, or in an error. -/
def Failed : Except Escape Report → Prop
  | .ok rep => rep.exitCode ≠ 0
  | .error _ => True

/-- Whether a command ends with a report that passes a check. -/
def endsWith (check : Report → Bool) : Except Escape Report → Bool
  | .ok rep => check rep
  | .error _ => false

theorem exists_of_endsWith {check : Report → Bool} {x : Except Escape Report}
    (h : endsWith check x = true) : ∃ rep, x = .ok rep ∧ check rep = true := by
  cases x with
  | ok rep => exact ⟨rep, rfl, h⟩
  | error => cases h

variable {load : Loader} {t t' : Tree} {root : Path} {a : Artifact} {as : List Artifact}
  {e : FileError} {r : CompileRequest} {c : Compiled} {told : List Notice} {args : List String}
  {rep : Report}

namespace CompileRequest

/-- A result whose artifacts can be written is delivered. -/
theorem deliver_of_written (h : t.writeArtifacts (.ofText r.output) c.artifacts = (t', none)) :
    r.deliver t told c = .ok ⟨told ++ [.order c.order none, .info ↑("Namespace: " ++ c.ns),
      .success ↑("Compiled " ++ toString c.artifacts.length ++ " manifests to " ++ r.output)],
      0, t'⟩ := by
  simp only [deliver, h]

/-- Where an artifact cannot be written, the command fails with what has been written so far. -/
theorem failed_of_unwritten (h : t.writeArtifacts (.ofText r.output) c.artifacts = (t', some e)) :
    Failed (r.deliver t told c) ∧ leftTree (r.deliver t told c) = t' := by
  simp only [deliver, h]
  cases e.fault.system? with
  | none => exact ⟨trivial, rfl⟩
  | some f =>
    refine ⟨?_, rfl⟩
    change (Complaint.unwritten f r.output).exitCode ≠ 0
    rw [Complaint.exitCode_unwritten]
    decide

/-- Without a result, a compilation fails and the tree stays as it was. -/
theorem failed_of_not_compiles (hr : r.Accepted) (h : ∀ c, ¬ r.Compiles load t c) :
    Failed (runCompile load t r) ∧ leftTree (runCompile load t r) = t := by
  rcases runCompile_of_not_compiles hr h with ⟨c, told, hcode, hrun⟩ | ⟨e, hrun⟩
  · rw [hrun]
    refine ⟨?_, rfl⟩
    change c.exitCode ≠ 0
    rcases hcode with hcode | hcode <;> rw [hcode] <;> decide
  · rw [hrun]
    exact ⟨trivial, rfl⟩

/-- With a result, a compilation fails exactly if an artifact cannot be written. -/
theorem Compiles.failed_iff (hr : r.Accepted) (h : r.Compiles load t c) :
    Failed (runCompile load t r) ↔
    ∃ t' e, t.writeArtifacts (.ofText r.output) c.artifacts = (t', some e) := by
  rw [runCompile_of_compiles hr h]
  cases hwrite : t.writeArtifacts (.ofText r.output) c.artifacts with
  | mk t' failure =>
    cases failure with
    | none =>
      rw [deliver_of_written hwrite]
      exact iff_of_false (fun hfailed => hfailed rfl) (by simp)
    | some e => exact iff_of_true (failed_of_unwritten hwrite).1 ⟨t', e, rfl⟩

theorem Compiles.plain (h : r.Compiles load t c) : ∀ a ∈ c.artifacts, a.Plain := by
  obtain ⟨d, hd, hc⟩ := h
  obtain ⟨-, text, spec, hload, hcompile⟩ := compileFor_eq_ok_iff.mp hc
  exact (compilation_of_compile_eq_ok (validated_of_inForce hd) hcompile).plain

/-- A compilation that succeeds has come to a result, and has written all of it. -/
theorem exists_written (hr : r.Accepted) (hrun : runCompile load t r = .ok rep)
    (hcode : rep.exitCode = 0) :
    ∃ c, r.Compiles load t c ∧ Tree.Written (.ofText r.output) c.artifacts t rep.tree := by
  have hsucceeded : ¬ Failed (runCompile load t r) := by
    rw [hrun]
    exact not_not.mpr hcode
  have hresult : ∃ c, r.Compiles load t c := by
    by_contra hnone
    exact hsucceeded (failed_of_not_compiles hr fun c hc => hnone ⟨c, hc⟩).1
  obtain ⟨c, hc⟩ := hresult
  refine ⟨c, hc, ?_⟩
  rw [hc.failed_iff hr] at hsucceeded
  rw [runCompile_of_compiles hr hc] at hrun
  cases hwrite : t.writeArtifacts (.ofText r.output) c.artifacts with
  | mk t' failure =>
    cases failure with
    | some e => exact absurd ⟨t', e, hwrite⟩ hsucceeded
    | none =>
      rw [deliver_of_written hwrite] at hrun
      cases hrun
      exact Tree.written_of_writeArtifacts hwrite

end CompileRequest

open CompileRequest in
/-- A compilation that comes to no result changes nothing. One that succeeds has come to the result
of its pipeline under the configuration in force, and changes no other files than those of its
artifacts; each of their paths holds the last artifact that has it. In between there are only the
compilations with a result that cannot be written. -/
theorem compile_changes (h : Invocation.ofArguments args = .ok (.compile r)) :
    ((∀ c, ¬ r.Compiles load t c) →
      Failed (runCompile load t r) ∧ leftTree (runCompile load t r) = t) ∧
    (∀ c, r.Compiles load t c → (Failed (runCompile load t r) ↔
      ∃ t' e, t.writeArtifacts (.ofText r.output) c.artifacts = (t', some e))) ∧
    ∀ rep, runCompile load t r = .ok rep → rep.exitCode = 0 →
      ∃ d c, r.inForce load t = .ok d ∧ compileFor load r.target t (.ofText r.file) d = .ok c ∧
        (∀ x s, ¬(rep.tree.at? x = some (.file s) ↔ t.at? x = some (.file s)) →
          ∃ a ∈ c.artifacts, rep.tree.place (a.path (.ofText r.output)) = .ok x) ∧
        ∀ before a after, c.artifacts = before ++ a :: after →
          (∀ b ∈ after, b.path (.ofText r.output) ≠ a.path (.ofText r.output)) →
          rep.tree.Holds (a.path (.ofText r.output)) a.content := by
  have hr := Invocation.ofArguments_eq_compile h
  refine ⟨failed_of_not_compiles hr, fun c hc => hc.failed_iff hr, fun rep hrun hcode => ?_⟩
  obtain ⟨c, hcompiles, hwritten⟩ := exists_written hr hrun hcode
  have hplain := hcompiles.plain
  obtain ⟨d, hd, hc⟩ := hcompiles
  exact ⟨d, c, hd, hc, fun x s => hwritten.place_of_changed,
    fun before a after => hwritten.find_of_last hplain⟩

section Sink

/-- What arguments ask for that only name the command. -/
def CompileRequest.standard : CompileRequest :=
  ⟨"./pipeline.yaml", "./deployment.yaml", false, "./build", "dapr"⟩

/-- A tree with a pipeline of one sink, its configuration, and some other entries. -/
def Tree.withSink (others : List (List String × Entry)) : Tree :=
  ⟨Assoc.ofList ((["pipeline.yaml"], .file "name: demo\nsteps:\n- name: out\n  kind: sink\n") ::
    (["deployment.yaml"], .file "brokers: [kafka:9092]\nsink_topics:\n  out: reports\n") ::
    others), []⟩

theorem CompileRequest.accepted_standard : CompileRequest.standard.Accepted :=
  ⟨by decide, fun _ => rfl⟩

/-- The sink compiles. Without its pipeline, nothing does. -/
theorem compile_changes_sink :
    Invocation.ofArguments ["compile"] = .ok (.compile .standard) ∧
    (∃ rep, runCompile documentValue (Tree.withSink []) .standard = .ok rep ∧ rep.exitCode = 0 ∧
      ∃ d c, CompileRequest.standard.inForce documentValue (Tree.withSink []) = .ok d ∧
        compileFor documentValue "dapr" (Tree.withSink []) (.ofText "./pipeline.yaml") d = .ok c ∧
        ∀ before a after, c.artifacts = before ++ a :: after →
          (∀ b ∈ after, b.path (.ofText "./build") ≠ a.path (.ofText "./build")) →
          rep.tree.Holds (a.path (.ofText "./build")) a.content) ∧
    leftTree (runCompile documentValue Tree.withBuild .standard) = Tree.withBuild := by
  have hargs : Invocation.ofArguments ["compile"] = .ok (.compile .standard) := by decide
  have hsucceeds : endsWith (·.exitCode == 0)
      (runCompile documentValue (Tree.withSink []) .standard) = true := by
    decide +kernel
  have hmissing : ∀ c, ¬ CompileRequest.standard.Compiles documentValue Tree.withBuild c :=
    fun c hc => absurd hc.found.file (by decide)
  refine ⟨hargs, ?_, ((compile_changes hargs).1 hmissing).2⟩
  obtain ⟨rep, hrun, hcode⟩ := exists_of_endsWith hsucceeds
  rw [beq_iff_eq] at hcode
  obtain ⟨d, c, hd, hc, -, hlast⟩ := (compile_changes hargs).2.2 rep hrun hcode
  exact ⟨rep, hrun, hcode, d, c, hd, hc, hlast⟩

end Sink

/-- Writing that breaks off leaves the artifacts before the one that cannot be written, so the files
are the same as before only if those stood there already. Where a text cannot be encoded, its file
is left empty besides. A compilation that writes the artifacts fails, and leaves the same tree. -/
theorem writing_breaks_off (h : t.writeArtifacts root as = (t', some e)) :
    (∃ before a after t₁, as = before ++ a :: after ∧ t.Interrupted t' root e before a t₁ ∧
      Tree.Written root before t t₁ ∧
      ((∀ b, e.fault ≠ .unencodable b) → t₁.SameFiles t' ∧
        (t.SameFiles t' ↔ ∀ x b, t₁.LastAt root before x b → t.HoldsAt x b.content)) ∧
      ∀ b, e.fault = .unencodable b → a.content = .broken b ∧
        Tree.Written root (before ++ [a.emptied]) t t' ∧
        (t.SameFiles t' ↔
          ∀ x b, t'.LastAt root (before ++ [a.emptied]) x b → t.HoldsAt x b.content)) ∧
    ∀ {load r c}, r.Accepted → r.Compiles load t c → Path.ofText r.output = root →
      c.artifacts = as → Failed (runCompile load t r) ∧ leftTree (runCompile load t r) = t' := by
  constructor
  · obtain ⟨before, a, after, t₁, hsplit, hbroken⟩ := Tree.exists_interrupted h
    refine ⟨before, a, after, t₁, hsplit, hbroken, hbroken.written, fun hencoded => ?_,
      fun b hb => ?_⟩
    · exact ⟨hbroken.sameFiles hencoded, hbroken.sameFiles_iff hencoded⟩
    · have hwritten := hbroken.written_emptied hb
      exact ⟨((Tree.left_of_writeArtifact hbroken.fails).2 b hb).1, hwritten,
        hwritten.sameFiles_iff⟩
  · rintro load r c hr hc rfl rfl
    rw [CompileRequest.runCompile_of_compiles hr hc]
    exact CompileRequest.failed_of_unwritten h

section Notes

/-- A tree with a pipeline of one sink, and a file where the directory for monitoring goes. -/
def Tree.withNotes : Tree :=
  .withSink [(["build"], .directory), (["build", "monitoring"], .file "notes")]

/-- The second of two artifacts cannot be written where a file stands in place of its directory. -/
theorem writing_breaks_off_notes :
    ∃ t' e before a after t₁,
      Tree.withNotes.writeArtifacts (.ofText "build")
        [⟨.bindings, "out-binding.yaml", "kind: Component\n"⟩,
          ⟨.monitoring, "tracing-config.yaml", "kind: Configuration\n"⟩] = (t', some e) ∧
      [⟨.bindings, "out-binding.yaml", "kind: Component\n"⟩,
        ⟨.monitoring, "tracing-config.yaml", "kind: Configuration\n"⟩] = before ++ a :: after ∧
      Tree.withNotes.Interrupted t' (.ofText "build") e before a t₁ ∧ t₁.SameFiles t' := by
  have hwrite : Tree.withNotes.writeArtifacts (.ofText "build")
      [⟨.bindings, "out-binding.yaml", "kind: Component\n"⟩,
        ⟨.monitoring, "tracing-config.yaml", "kind: Configuration\n"⟩] =
      (_, some ⟨.occupied, _⟩) := rfl
  obtain ⟨⟨before, a, after, t₁, hsplit, hbroken, -, hencoded, -⟩, -⟩ := writing_breaks_off hwrite
  exact ⟨_, _, before, a, after, t₁, hwrite, hsplit, hbroken, (hencoded nofun).1⟩

/-- A compilation that fails and leaves a manifest that was not there before. -/
theorem unfinished_manifests :
    ∃ rep c e, runCompile documentValue Tree.withNotes .standard = .ok rep ∧ rep.exitCode = 2 ∧
      CompileRequest.standard.Compiles documentValue Tree.withNotes c ∧
      Tree.withNotes.writeArtifacts (.ofText "./build") c.artifacts = (rep.tree, some e) ∧
      ¬ Tree.withNotes.SameFiles rep.tree := by
  have hleaves : endsWith (fun rep => rep.exitCode == 2 &&
      (rep.tree.at? ["build", "bindings", "out-binding.yaml"]).any (· != .directory))
      (runCompile documentValue Tree.withNotes .standard) = true := by
    decide +kernel
  have hr := CompileRequest.accepted_standard
  obtain ⟨rep, hrun, hrep⟩ := exists_of_endsWith hleaves
  rw [Bool.and_eq_true, beq_iff_eq, Option.any_eq_true] at hrep
  obtain ⟨hcode, entry, hat, hfile⟩ := hrep
  have hfailed : Failed (runCompile documentValue Tree.withNotes .standard) := by
    rw [hrun]
    change rep.exitCode ≠ 0
    rw [hcode]
    decide
  have hchanged : ¬ Tree.withNotes.SameFiles rep.tree := by
    intro hsame
    cases entry with
    | directory => cases hfile
    | file s =>
      have habsent : Tree.withNotes.at? ["build", "bindings", "out-binding.yaml"] = none := rfl
      cases habsent.symm.trans ((hsame _ _).mp hat)
  -- the tree has changed, so there is a result, and it could not be written
  have hresult : ∃ c, CompileRequest.standard.Compiles documentValue Tree.withNotes c := by
    by_contra hnone
    have hleft := (CompileRequest.failed_of_not_compiles hr fun c hc => hnone ⟨c, hc⟩).2
    rw [hrun] at hleft
    exact hchanged (hleft ▸ .refl _)
  obtain ⟨c, hc⟩ := hresult
  obtain ⟨t', e, hwrite⟩ := (hc.failed_iff hr).mp hfailed
  have hleft : leftTree (CompileRequest.standard.deliver Tree.withNotes
      (CompileRequest.standard.remarks Tree.withNotes) c) = t' :=
    (CompileRequest.failed_of_unwritten hwrite).2
  rw [← CompileRequest.runCompile_of_compiles hr hc, hrun] at hleft
  exact ⟨rep, c, e, hrun, hcode, hc, hwrite.trans (by rw [← hleft]; rfl), hchanged⟩

end Notes

end StreamMesh
