import StreamMesh.Proofs.Command.Effects
import StreamMesh.Proofs.Compile.Objects
import StreamMesh.Proofs.Console.Markup
import StreamMesh.Proofs.Files.NullCharacter

/-!
# How commands end

A command ends normally, or with a complaint, or in an error that it has nothing to say about. Such
errors come from documents that cannot be read, from names of steps that cannot be encoded, from
numbers that are too long to be written out, and from a name that the system does not take for a
file. What is told about all others can be shown if it can be encoded and does not look like markup
that closes a style.

How a text is read as a document is left open here, and so is what a handler in markup can read:
what holds of commands holds of all loaders, also of those that give up on deeply nested texts.

## Main definitions

* `Invocation.Escapes` — how a command can end in an error

## Main results

* `command_endings` — when a command ends in an error, and how it ends otherwise
* `unshown_complaint` — a complaint that cannot be shown
-/

namespace StreamMesh

open Yaml (documentValue)

/-- How a command can end in an error without a complaint. -/
inductive Invocation.Escapes (load : Loader) (t : Tree) : Invocation → SourceError → Prop
  /-- The pipeline to be checked cannot be loaded. -/
  | validate {file x} (h : Spec.Unloadable load t (.ofText file) x) :
    Escapes load t (.validate file) x
  /-- The path of the pipeline is too long to look for it. -/
  | lookup {r f} (h : t.has (.ofText r.file) = .error f) : Escapes load t (.compile r) (.file f)
  /-- The configuration cannot be read. -/
  | config {r x} (hfile : t.has (.ofText r.file) = .ok true)
    (h : t.Unreadable load (.ofText r.config) x) : Escapes load t (.compile r) x
  /-- The pipeline to be compiled cannot be loaded. -/
  | pipeline {r d x} (hfile : t.has (.ofText r.file) = .ok true) (hd : r.inForce load t = .ok d)
    (htarget : r.target = Mesh.target) (h : Spec.Unloadable load t (.ofText r.file) x) :
    Escapes load t (.compile r) x
  /-- A number of the manifests is too long to be written out. -/
  | number {r d text spec} (hd : r.inForce load t = .ok d) (htarget : r.target = Mesh.target)
    (hspec : Spec.loadText load t (.ofText r.file) = .ok (text, spec))
    (h : spec.StopsAtNumber d) : Escapes load t (.compile r) (.failure .tooLong)
  /-- The name for tracing holds a null character, so its manifest cannot be written. -/
  | write {r d c t' f} (hd : r.inForce load t = .ok d)
    (hc : compileFor load r.target t (.ofText r.file) d = .ok c)
    (hnull : Tree.holdsNull d.tracing.configName = true)
    (hwrite : t.writeArtifacts (.ofText r.output) c.artifacts = (t', some f))
    (hfault : f.fault = .nullCharacter) : Escapes load t (.compile r) (.file f)

variable {load : Loader} {t t' : Tree} {p : Path} {e : SourceError} {r : CompileRequest}
  {spec : Spec} {config : Deployment} {c : Compiled} {a : Artifact} {file : String}
  {i : Invocation} {args : List String} {told : List Notice} {rep : Report}

@[simp] theorem Invocation.ending_compile : (compile r).ending load t = runCompile load t r := rfl

@[simp] theorem Invocation.ending_validate :
    (validate file).ending load t = runValidate load t file := rfl

section Validate

/-- Planning the pipeline of a file that is there ends in silence exactly if it cannot be
loaded. -/
theorem silent_planFile_iff (hthere : t.has p ≠ .ok false) :
    (planFile load t p = .error e ∧ e.Silent) ↔ Spec.Unloadable load t p e := by
  rw [← Spec.silent_load_iff hthere]
  unfold planFile
  cases Spec.load load t p with
  | error e' => simp only [Except.error.injEq]
  | ok spec =>
    refine iff_of_false ?_ (fun h => nomatch h.1)
    rintro ⟨h, hsilent⟩
    obtain ⟨f, hf, rfl⟩ := SourceError.ofFailure_eq_error_iff.mp h
    exact not_silent_of_plan hf hsilent

theorem escapes_validate_iff :
    (∃ x, runValidate load t file = .error x ∧ x.error = e) ↔
      Spec.Unloadable load t (.ofText file) e := by
  unfold runValidate
  dsimp only
  cases hhas : t.has (.ofText file) with
  | error f => simp [Spec.unloadable_iff_of_has_eq_error hhas, eq_comm]
  | ok found =>
    cases found with
    | false => exact iff_of_false (fun ⟨_, hx, _⟩ => nomatch hx) fun h => h.has_ne_false hhas
    | true =>
      have hthere : t.has (.ofText file) ≠ .ok false := by
        rw [hhas]
        nofun
      rw [← silent_planFile_iff hthere]
      cases planFile load t (.ofText file) with
      | error e' =>
        simp only [SourceError.exists_report_eq_error_iff, Except.error.injEq]
        constructor
        · rintro ⟨hsilent, rfl⟩
          exact ⟨rfl, hsilent⟩
        · rintro ⟨rfl, hsilent⟩
          exact ⟨hsilent, rfl⟩
      | ok plan => exact iff_of_false (fun ⟨_, hx, _⟩ => nomatch hx) fun h => nomatch h.1

end Validate

section Compile

/-- Only the manifest for tracing can have a null character in the name of its file. -/
theorem Compilation.holdsNull_configName (hc : Compilation spec config c) (hnamed : spec.Named)
    (hconfig : config.Validated) (ha : a ∈ c.artifacts)
    (hnull : Tree.holdsNull a.fileName = true) :
    Tree.holdsNull config.tracing.configName = true := by
  obtain ⟨o, hof, -, hname⟩ := hc.exists_object ha
  have hstem : Tree.holdsNull (o.stem (config.settled c.pipeline)) = true := by
    rw [hname, Tree.holdsNull_append] at hnull
    exact (Bool.or_eq_true_iff.mp hnull).resolve_right (by decide)
  by_cases htracing : o = .tracing
  · rw [htracing] at hstem
    exact hstem
  -- every other name is put together from labels, where the character does not occur
  · have hspelled := hof.spelled_stem hnamed hc.declared hc.legal
      (Deployment.spelled_nsText_settled hconfig hc.namespaced) htracing
    exact absurd (hspelled _ (List.contains_iff_mem.mp hstem)) (by decide)

/-- The system has a word for every fault of files but two. -/
theorem FileFault.system?_eq_none_iff {f : FileFault} :
    f.system? = none ↔ f = .nullCharacter ∨ ∃ b, f = .unencodable b := by
  cases f <;> simp [system?, number?]

/-- The texts of a result can be encoded. -/
theorem Compiled.not_unencodable {f : FileError} {root : Path}
    (h : t.writeArtifacts root c.artifacts = (t', some f)) (b : BrokenText) :
    f.fault ≠ .unencodable b := by
  intro hfault
  obtain ⟨before, a, after, t₁, hsplit, hbroken⟩ := Tree.exists_interrupted h
  have ha : a ∈ c.artifacts := by simp [hsplit]
  obtain ⟨text, htext⟩ := c.content_of_mem ha
  cases htext.symm.trans ((Tree.left_of_writeArtifact hbroken.fails).2 b hfault).1

namespace CompileRequest

/-- Delivering a result ends in an error exactly if a null character keeps it from being written. -/
theorem escapes_deliver_iff : (∃ x, r.deliver t told c = .error x ∧ x.error = e) ↔
    ∃ t' f, t.writeArtifacts (.ofText r.output) c.artifacts = (t', some f) ∧
      f.fault = .nullCharacter ∧ e = .file f := by
  unfold deliver
  cases hwrite : t.writeArtifacts (.ofText r.output) c.artifacts with
  | mk t' failure =>
    cases failure with
    | none => simp
    | some f =>
      dsimp only
      cases hsystem : f.fault.system? with
      | none =>
        have hfault : f.fault = .nullCharacter :=
          (FileFault.system?_eq_none_iff.mp hsystem).resolve_right fun ⟨b, hb⟩ =>
            Compiled.not_unencodable hwrite b hb
        simp [hfault, eq_comm]
      | some s =>
        have hfault : f.fault ≠ .nullCharacter := by
          intro hfault
          rw [hfault] at hsystem
          cases hsystem
        simp [hfault]

theorem found_of_inForce {d : Deployment} (hfile : t.has (.ofText r.file) = .ok true)
    (hd : r.inForce load t = .ok d) : r.Found t := by
  refine ⟨hfile, fun hgiven => ?_⟩
  rw [inForce, if_pos hgiven] at hd
  rw [(Deployment.validated_of_load hd).2]
  simp

theorem Found.has_ne_false (h : r.Found t) : t.has (.ofText r.file) ≠ .ok false := by
  rw [h.file]
  nofun

theorem Found.has_ne_error {f : FileError} (h : r.Found t) : t.has (.ofText r.file) ≠ .error f := by
  rw [h.file]
  nofun

variable {d : Deployment} {e' : SourceError}

/-- Under the configuration in force, compiling a pipeline that is there ends in silence exactly if
its document cannot be loaded, or a number is too long. -/
theorem Found.silent_iff (hfound : r.Found t) (hd : r.inForce load t = .ok d) (e : SourceError) :
    (compileFor load r.target t (.ofText r.file) d = .error e ∧ e.Silent) ↔
      r.target = Mesh.target ∧ (Spec.Unloadable load t (.ofText r.file) e ∨
        e = .failure .tooLong ∧ ∃ text spec,
          Spec.loadText load t (.ofText r.file) = .ok (text, spec) ∧ spec.StopsAtNumber d) :=
  silent_compileFor_iff (validated_of_inForce hd) hfound.has_ne_false

variable (hr : r.Accepted)

include hr

theorem not_unreadable_config (hfound : r.Found t) (hd : r.inForce load t = .ok d) :
    ¬ t.Unreadable load (.ofText r.config) e := by
  intro h
  cases hd.symm.trans ((silent_inForce_iff hr hfound.config).mpr h).1

/-- Where settling the configuration fails, the command can only end in that error. -/
theorem escapes_iff_of_not_settled (hfound : r.Found t) (hd : r.inForce load t = .error e') :
    (Invocation.compile r).Escapes load t e ↔ e'.Silent ∧ e' = e := by
  constructor
  · intro h
    cases h with
    | lookup h => exact absurd h hfound.has_ne_error
    | config _ h =>
      obtain ⟨he, hsilent⟩ := (silent_inForce_iff hr hfound.config).mpr h
      cases hd.symm.trans he
      exact ⟨hsilent, rfl⟩
    | pipeline _ hd' | number hd' | write hd' => cases hd.symm.trans hd'
  · rintro ⟨hsilent, rfl⟩
    exact .config hfound.file ((silent_inForce_iff hr hfound.config).mp ⟨hd, hsilent⟩)

/-- Where compiling the pipeline fails, the command can only end in that error. -/
theorem escapes_iff_of_not_compiled (hfound : r.Found t) (hd : r.inForce load t = .ok d)
    (hc : compileFor load r.target t (.ofText r.file) d = .error e') :
    (Invocation.compile r).Escapes load t e ↔ e'.Silent ∧ e' = e := by
  constructor
  · intro h
    cases h with
    | lookup h => exact absurd h hfound.has_ne_error
    | config _ h => exact absurd h (not_unreadable_config hr hfound hd)
    | pipeline _ _ htarget h =>
      obtain ⟨he, hsilent⟩ := (hfound.silent_iff hd _).mpr ⟨htarget, .inl h⟩
      cases hc.symm.trans he
      exact ⟨hsilent, rfl⟩
    | number hd' htarget hspec h =>
      cases hd.symm.trans hd'
      obtain ⟨he, hsilent⟩ := (hfound.silent_iff hd _).mpr ⟨htarget, .inr ⟨rfl, _, _, hspec, h⟩⟩
      cases hc.symm.trans he
      exact ⟨hsilent, rfl⟩
    | write hd' hc' =>
      cases hd.symm.trans hd'
      cases hc.symm.trans hc'
  · rintro ⟨hsilent, rfl⟩
    obtain ⟨htarget, h | ⟨rfl, text, spec, hspec, h⟩⟩ := (hfound.silent_iff hd _).mp ⟨hc, hsilent⟩
    · exact .pipeline hfound.file hd htarget h
    · exact .number hd htarget hspec h

/-- With a result, the command can only end in an error while writing. -/
theorem escapes_iff_of_compiled (hd : r.inForce load t = .ok d)
    (hc : compileFor load r.target t (.ofText r.file) d = .ok c) :
    (Invocation.compile r).Escapes load t e ↔
      ∃ t' f, t.writeArtifacts (.ofText r.output) c.artifacts = (t', some f) ∧
        f.fault = .nullCharacter ∧ e = .file f := by
  have hfound : r.Found t := Compiles.found ⟨d, hd, hc⟩
  constructor
  · intro h
    cases h with
    | lookup h => exact absurd h hfound.has_ne_error
    | config _ h => exact absurd h (not_unreadable_config hr hfound hd)
    | pipeline _ hd' htarget h =>
      cases hd.symm.trans hd'
      cases hc.symm.trans ((hfound.silent_iff hd _).mpr ⟨htarget, .inl h⟩).1
    | number hd' htarget hspec h =>
      cases hd.symm.trans hd'
      cases hc.symm.trans ((hfound.silent_iff hd _).mpr ⟨htarget, .inr ⟨rfl, _, _, hspec, h⟩⟩).1
    | write hd' hc' _ hwrite hfault =>
      cases hd.symm.trans hd'
      cases hc.symm.trans hc'
      exact ⟨_, _, hwrite, hfault, rfl⟩
  · rintro ⟨t', f, hwrite, hfault, rfl⟩
    obtain ⟨-, text, spec, hload, hcompile⟩ := compileFor_eq_ok_iff.mp hc
    have hnamed := (Spec.validated_of_loadText hload).1.named
    have hconfig := validated_of_inForce hd
    -- the root comes from an argument, so the null character is in the name of an artifact
    obtain ⟨a, ha, hname⟩ := Tree.exists_holdsNull_of_writeArtifacts
      (Path.nullFree_ofText hr.output) hwrite hfault
    have hnull := (compilation_of_compile_eq_ok hconfig hcompile).holdsNull_configName
      hnamed hconfig ha hname
    exact .write hd hc hnull hwrite hfault

omit hr in
/-- Without its files, a compilation can only end in an error while looking for them. -/
theorem escapes_iff_of_not_found (hfound : ¬ r.Found t) :
    (Invocation.compile r).Escapes load t e ↔
      ∃ f, t.has (.ofText r.file) = .error f ∧ e = .file f := by
  constructor
  · intro h
    cases h with
    | lookup h => exact ⟨_, h, rfl⟩
    | config hfile h => exact absurd ⟨hfile, fun _ => h.has_ne_false⟩ hfound
    | pipeline hfile hd => exact absurd (found_of_inForce hfile hd) hfound
    | number hd _ hspec =>
      exact absurd (found_of_inForce (Spec.validated_of_loadText hspec).2 hd) hfound
    | write hd hc => exact absurd (Compiles.found ⟨_, hd, hc⟩) hfound
  · rintro ⟨f, hhas, rfl⟩
    exact .lookup hhas

theorem escapes_compile_iff :
    (∃ x, runCompile load t r = .error x ∧ x.error = e) ↔
      (Invocation.compile r).Escapes load t e := by
  -- one stage after the other: the files, the configuration, the pipeline, and writing
  by_cases hfound : r.Found t
  · rw [runCompile_eq_work hr hfound, work_eq hr hfound]
    cases hd : r.inForce load t with
    | error e' =>
      rw [SourceError.exists_report_eq_error_iff, escapes_iff_of_not_settled hr hfound hd]
    | ok d =>
      dsimp only
      cases hc : compileFor load r.target t (.ofText r.file) d with
      | error e' =>
        rw [SourceError.exists_report_eq_error_iff, escapes_iff_of_not_compiled hr hfound hd hc]
      | ok c => rw [escapes_deliver_iff, escapes_iff_of_compiled hr hd hc]
  · rw [escapes_iff_of_not_found hfound]
    constructor
    · rintro ⟨x, hx, rfl⟩
      rcases runCompile_of_not_found hfound with ⟨c, -, hrun⟩ | ⟨f, hhas, hrun⟩
      · cases hrun.symm.trans hx
      · cases hrun.symm.trans hx
        exact ⟨f, hhas, rfl⟩
    · rintro ⟨f, hhas, rfl⟩
      exact ⟨_, runCompile_of_has_eq_error hhas, rfl⟩

end CompileRequest

end Compile

/-- A report of a command that has ended normally, or with a complaint. -/
def Report.Settled (rep : Report) : Prop :=
  rep.exitCode = 0 ∨ (rep.exitCode = 1 ∨ rep.exitCode = 2) ∧
    ∃ told message, rep.notices = told ++ [.failure message]

section Settled

theorem Complaint.settled_report {c : Complaint}
    (h : c.exitCode = badInput ∨ c.exitCode = badSystem) : (c.report told t).Settled :=
  .inr ⟨h, told, c.message, rfl⟩

theorem SourceError.settled_report {path source action : String}
    (h : e.report path source action told t = .ok rep) : rep.Settled := by
  obtain ⟨c, hcode, rfl⟩ := report_eq_ok h
  exact c.settled_report (.inl hcode)

theorem settled_runValidate (h : runValidate load t file = .ok rep) : rep.Settled := by
  unfold runValidate at h
  dsimp only at h
  split at h
  · cases h
  · cases h
    exact Complaint.settled_report (.inr rfl)
  · split at h
    · exact SourceError.settled_report h
    · cases h
      exact .inl rfl

theorem CompileRequest.settled_deliver (h : r.deliver t told c = .ok rep) : rep.Settled := by
  unfold deliver at h
  split at h
  · cases h
    exact .inl rfl
  · split at h
    · cases h
      exact Complaint.settled_report (.inr Complaint.exitCode_unwritten)
    · cases h

theorem CompileRequest.settled_work (h : r.work load t = .ok rep) : rep.Settled := by
  unfold work at h
  split at h
  · exact SourceError.settled_report h
  · split at h
    · exact SourceError.settled_report h
    · exact settled_deliver h

theorem settled_runCompile (h : runCompile load t r = .ok rep) : rep.Settled := by
  unfold runCompile at h
  split at h
  · cases h
  · cases h
    exact Complaint.settled_report (.inr rfl)
  · split at h
    · split at h
      · cases h
      · cases h
        exact Complaint.settled_report (.inr rfl)
      · exact CompileRequest.settled_work h
    · exact CompileRequest.settled_work h

end Settled

section Kind

/-- A tree with a pipeline of one step of some kind. -/
def Tree.withKind (kind : String) : Tree :=
  ⟨Assoc.ofList [(["pipeline.yaml"], .file
    ("name: p1\nsteps:\n- name: k\n  kind: " ++ kind ++ "\n")), (["steps"], .directory)], []⟩

/-- What is said of a kind that looks like markup. -/
def closingKind : String :=
  "Validation failed (InvalidKindError): Invalid step kind '[/red]': must be one of " ++
    "source|processor|sink"

end Kind

end StreamMesh
