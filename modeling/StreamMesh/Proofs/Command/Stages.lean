import StreamMesh.Proofs.Command.Arguments
import StreamMesh.Proofs.Command.Reading
import StreamMesh.Proofs.Compile.Acceptance

/-!
# The stages of a compilation that is asked for

A compilation looks for its files, settles which configuration is in force, compiles the pipeline
under it, and only then writes. So it either comes to a result before anything is written, or it
ends with the tree as it was.

## Main definitions

* `CompileRequest.inForce` — the configuration in force
* `CompileRequest.Compiles` — the result that a request comes to before anything is written

## Main results

* `CompileRequest.work_eq` — the stages in a row
* `CompileRequest.runCompile_of_compiles` — a result is written
* `CompileRequest.runCompile_of_not_compiles` — without a result the tree stays as it was
* `silent_compileFor_iff` — when compiling a pipeline ends in silence
-/

namespace StreamMesh

variable {load : Loader} {t : Tree} {p : Path} {spec : Spec} {config d : Deployment} {c : Compiled}
  {e : SourceError} {f : Failure} {target : String} {r : CompileRequest}

section Validated

theorem Tree.has_of_document {notice : String} {found : String × Value}
    (h : t.document load notice p = .ok found) : t.has p = .ok true :=
  has_of_readText (document_eq_ok_iff.mp h).1

theorem Spec.validated_of_loadText {text : String} (h : Spec.loadText load t p = .ok (text, spec)) :
    spec.Validated ∧ t.has p = .ok true := by
  unfold Spec.loadText at h
  split at h
  · cases h
  · rename_i text' v hdocument
    refine ⟨⟨v, ?_⟩, Tree.has_of_document hdocument⟩
    cases hcheck : Spec.check v with
    | accepted s =>
      rw [hcheck] at h
      cases h
      rfl
    | rejected issues =>
      rw [hcheck] at h
      cases h

theorem Deployment.validated_of_load (h : Deployment.load load t p = .ok d) :
    d.Validated ∧ t.has p = .ok true := by
  unfold Deployment.load at h
  split at h
  · cases h
  · rename_i text v hdocument
    refine ⟨⟨v, ?_⟩, Tree.has_of_document hdocument⟩
    cases hcheck : Deployment.check v with
    | accepted d' =>
      rw [hcheck] at h
      cases h
      rfl
    | rejected issues =>
      rw [hcheck] at h
      cases h

theorem Deployment.validated_builtIn : Deployment.builtIn.Validated :=
  ⟨Deployment.builtIn.toValueWith .null, rfl⟩

/-- A command has something to say about every requirement that is not met. -/
theorem Failure.Explains.not_silent (h : f.Explains spec config) : ¬ f.Silent := by
  obtain ⟨_, -, hof⟩ := h
  intro hsilent
  cases f with
  | fault | invalid => exact hsilent
  | _ => cases hof

/-- A command has something to say about a pipeline without a plan. -/
theorem not_silent_of_plan (h : (plan spec).2 = .error f) : ¬ f.Silent := by
  rcases plan_verdict spec .builtIn with ⟨⟨p, hp⟩, -⟩ | ⟨f', hf, hexplains⟩
  · cases h.symm.trans hp
  · cases h.symm.trans hf
    exact hexplains.not_silent

/-- With a configuration from a document, a compilation only fails in silence for a number that is
too long. -/
theorem silent_compile_iff (hspec : spec.Validated) (hconfig : config.Validated) :
    (compile spec config = .error f ∧ f.Silent) ↔ f = .tooLong ∧ spec.StopsAtNumber config := by
  rw [← compile_eq_tooLong_iff hspec.named hconfig]
  constructor
  · rintro ⟨h, hsilent⟩
    rcases verdict hspec.named hconfig with ⟨⟨c, hc⟩, -⟩ | ⟨hlong, -⟩ | ⟨f', hf, -, hexplains⟩
    · cases h.symm.trans hc
    · cases h.symm.trans hlong
      exact ⟨rfl, h⟩
    · cases h.symm.trans hf
      exact absurd hsilent hexplains.not_silent
  · rintro ⟨rfl, h⟩
    exact ⟨h, trivial⟩

end Validated

section CompileFor

/-- For the one target there is, the pipeline is loaded and compiled. -/
theorem compileFor_eq : compileFor load target t p d =
    if target = Mesh.target then match Spec.loadText load t p with
      | .error e => .error e
      | .ok (_, spec) => SourceError.ofFailure (compile spec d)
    else .error (.failure (.fault (.unsupportedTarget target [Mesh.target]))) := by
  unfold compileFor checkTarget
  by_cases htarget : target = Mesh.target
  · rw [if_pos htarget, if_pos htarget]
    dsimp only
    unfold compileFile Deployment.choose
    cases Spec.loadText load t p with
    | error e => rfl
    | ok found => cases hcompile : compile found.2 d <;>
        simp [Except.map, bind, Except.bind, pure, Except.pure, SourceError.ofFailure, hcompile]
  · rw [if_neg htarget, if_neg htarget]

theorem compileFor_eq_ok_iff : compileFor load target t p d = .ok c ↔ target = Mesh.target ∧
    ∃ text spec, Spec.loadText load t p = .ok (text, spec) ∧ compile spec d = .ok c := by
  rw [compileFor_eq]
  by_cases htarget : target = Mesh.target
  · rw [if_pos htarget]
    cases Spec.loadText load t p with
    | error e => simp
    | ok found =>
      obtain ⟨text, spec⟩ := found
      cases hcompile : compile spec d <;> simp [SourceError.ofFailure, hcompile, htarget]
  · rw [if_neg htarget]
    simp [htarget]

/-- Compiling a pipeline that is there ends in silence exactly if its document cannot be loaded, or
a number of its manifests is too long. -/
theorem silent_compileFor_iff (hd : d.Validated) (hthere : t.has p ≠ .ok false) :
    (compileFor load target t p d = .error e ∧ e.Silent) ↔ target = Mesh.target ∧
      (Spec.Unloadable load t p e ∨ e = .failure .tooLong ∧
        ∃ text spec, Spec.loadText load t p = .ok (text, spec) ∧ spec.StopsAtNumber d) := by
  rw [← Spec.silent_loadText_iff hthere, compileFor_eq]
  by_cases htarget : target = Mesh.target
  · rw [if_pos htarget]
    cases hload : Spec.loadText load t p with
    | error e => simp [htarget]
    | ok found =>
      obtain ⟨text, spec⟩ := found
      have hspec := (Spec.validated_of_loadText hload).1
      -- after reading, only a compilation is left to fail
      simp only [SourceError.ofFailure_eq_error_iff]
      constructor
      · rintro ⟨⟨f, hf, rfl⟩, hsilent⟩
        obtain ⟨rfl, hstops⟩ := (silent_compile_iff hspec hd).mp ⟨hf, hsilent⟩
        exact ⟨htarget, .inr ⟨rfl, text, spec, rfl, hstops⟩⟩
      · rintro ⟨-, ⟨h, -⟩ | ⟨rfl, text', spec', h, hstops⟩⟩
        · cases h
        · cases h
          exact ⟨⟨_, (compile_eq_tooLong_iff hspec.named hd).mpr hstops, rfl⟩, trivial⟩
  · rw [if_neg htarget]
    refine iff_of_false ?_ (fun h => htarget h.1)
    rintro ⟨h, hsilent⟩
    cases h
    exact hsilent

end CompileFor

namespace CompileRequest

/-- The configuration in force: the one that is asked for, or else the one in the usual place if
there is one, or else the built-in one. -/
def inForce (load : Loader) (r : CompileRequest) (t : Tree) : Except SourceError Deployment :=
  if r.configGiven then Deployment.load load t (.ofText r.config)
  else match t.has (.ofText "./deployment.yaml") with
    | .ok false => .ok Deployment.builtIn
    | _ => Deployment.load load t (.ofText "./deployment.yaml")

/-- The result that a request comes to before anything is written. -/
def Compiles (load : Loader) (r : CompileRequest) (t : Tree) (c : Compiled) : Prop :=
  ∃ d, r.inForce load t = .ok d ∧ compileFor load r.target t (.ofText r.file) d = .ok c

/-- What is told where a configuration is looked for in vain. -/
def remarks (r : CompileRequest) (t : Tree) : List Notice :=
  match t.has (.ofText r.config) with
  | .ok false =>
    [.warning ↑("No deployment config at " ++ r.config ++ ", using built-in defaults")]
  | _ => []

theorem validated_of_inForce (h : r.inForce load t = .ok d) : d.Validated := by
  unfold inForce at h
  split at h
  · exact (Deployment.validated_of_load h).1
  · split at h
    · cases h
      exact Deployment.validated_builtIn
    · exact (Deployment.validated_of_load h).1

/-- The files of a request are there, as far as they have to be. -/
structure Found (r : CompileRequest) (t : Tree) : Prop where
  file : t.has (.ofText r.file) = .ok true
  config : r.configGiven = true → t.has (.ofText r.config) ≠ .ok false

theorem Compiles.found (h : r.Compiles load t c) : r.Found t := by
  obtain ⟨d, hd, hc⟩ := h
  obtain ⟨-, text, spec, hload, -⟩ := compileFor_eq_ok_iff.mp hc
  refine ⟨(Spec.validated_of_loadText hload).2, fun hgiven => ?_⟩
  rw [inForce, if_pos hgiven] at hd
  rw [(Deployment.validated_of_load hd).2]
  nofun

theorem load_of_has_eq_error {f : FileError} (h : t.has p = .error f) :
    Deployment.load load t p = .error (.file f) := by
  simp only [Deployment.load, Tree.document, h]

variable (hr : r.Accepted)

include hr

theorem loadConfig_eq (hconfig : r.configGiven = true → t.has (.ofText r.config) ≠ .ok false) :
    r.loadConfig load t = (r.inForce load t).map fun d => (r.remarks t, d) := by
  have hinForce : r.inForce load t = match t.has (.ofText r.config) with
      | .ok false => .ok Deployment.builtIn
      | _ => Deployment.load load t (.ofText r.config) := by
    unfold inForce
    split
    · rename_i hgiven
      split
      · exact absurd ‹_› (hconfig hgiven)
      · rfl
    · rename_i hlooked
      rw [hr.looked (Bool.eq_false_iff.mpr hlooked)]
  unfold loadConfig remarks
  cases hhas : t.has (.ofText r.config) with
  | error f => simp only [hinForce, hhas, load_of_has_eq_error hhas, Except.map]
  | ok found => cases found <;> simp only [hinForce, hhas, Except.map]

/-- Settling the configuration ends in silence exactly if its document cannot be read. -/
theorem silent_inForce_iff (hconfig : r.configGiven = true → t.has (.ofText r.config) ≠ .ok false) :
    (r.inForce load t = .error e ∧ e.Silent) ↔ t.Unreadable load (.ofText r.config) e := by
  unfold inForce
  split
  · rename_i hgiven
    exact Deployment.silent_load_iff (hconfig hgiven)
  · rename_i hlooked
    rw [hr.looked (Bool.eq_false_iff.mpr hlooked)]
    split
    · rename_i hmissing
      exact iff_of_false (fun h => nomatch h.1) fun h => h.has_ne_false hmissing
    · rename_i hthere
      exact Deployment.silent_load_iff hthere

/-- A compilation whose files are there goes from the configuration to the pipeline, and from its
result to writing. -/
theorem work_eq (h : r.Found t) : r.work load t = match r.inForce load t with
    | .error e => e.report r.config (Path.ofText r.config).text "Compilation" [] t
    | .ok d => match compileFor load r.target t (.ofText r.file) d with
      | .error e => e.report r.file "<unicode string>" "Compilation" (r.remarks t) t
      | .ok c => r.deliver t (r.remarks t) c := by
  unfold work
  cases hd : r.inForce load t with
  | error e => simp only [loadConfig_eq hr h.config, hd, Except.map]
  | ok d =>
    cases hc : compileFor load r.target t (.ofText r.file) d <;>
      simp only [loadConfig_eq hr h.config, hd, Except.map, hc]

theorem runCompile_eq_work (h : r.Found t) : runCompile load t r = r.work load t := by
  unfold runCompile
  split
  · rename_i hfile
    cases h.file.symm.trans hfile
  · rename_i hfile
    cases h.file.symm.trans hfile
  · split
    · rename_i hgiven
      split
      · rename_i f hhas
        -- the error is the same wherever it is met
        have hd : r.inForce load t = .error (.file f) := by
          rw [inForce, if_pos hgiven, load_of_has_eq_error hhas]
        rw [work_eq hr h, hd]
        rfl
      · exact absurd ‹_› (h.config hgiven)
      · rfl
    · rfl

omit hr in
theorem runCompile_of_has_eq_error {f : FileError} (h : t.has (.ofText r.file) = .error f) :
    runCompile load t r = .error ⟨.file f, t⟩ := by
  unfold runCompile
  split
  · rename_i hhas
    cases h.symm.trans hhas
    rfl
  · rename_i hhas
    cases h.symm.trans hhas
  · rename_i hhas
    cases h.symm.trans hhas

omit hr in
/-- Without its files, a compilation ends with a complaint or in silence before it starts. -/
theorem runCompile_of_not_found (h : ¬ r.Found t) :
    (∃ c : Complaint, c.exitCode = Complaint.badSystem ∧
      runCompile load t r = .ok (c.report [] t)) ∨
      ∃ f, t.has (.ofText r.file) = .error f ∧ runCompile load t r = .error ⟨.file f, t⟩ := by
  unfold runCompile
  cases hfile : t.has (.ofText r.file) with
  | error f => exact .inr ⟨f, rfl, rfl⟩
  | ok found =>
    cases found with
    | false => exact .inl ⟨_, rfl, rfl⟩
    | true =>
      have hgiven : r.configGiven = true ∧ t.has (.ofText r.config) = .ok false := by
        by_contra hnot
        exact h ⟨hfile, fun hgiven hhas => hnot ⟨hgiven, hhas⟩⟩
      simp only [hgiven.1, hgiven.2, if_true]
      exact .inl ⟨_, rfl, rfl⟩

/-- A result is written. -/
theorem runCompile_of_compiles (h : r.Compiles load t c) :
    runCompile load t r = r.deliver t (r.remarks t) c := by
  rw [runCompile_eq_work hr h.found, work_eq hr h.found]
  obtain ⟨d, hd, hc⟩ := h
  simp only [hd, hc]

/-- Without a result, a compilation ends with a complaint or in silence, and the tree stays as it
was. -/
theorem runCompile_of_not_compiles (h : ∀ c, ¬ r.Compiles load t c) :
    (∃ c before, (c.exitCode = Complaint.badInput ∨ c.exitCode = Complaint.badSystem) ∧
      runCompile load t r = .ok (Complaint.report c before t)) ∨
    ∃ e, runCompile load t r = .error ⟨e, t⟩ := by
  have hreport : ∀ {e : SourceError} {path source action before},
      (∃ c before', (c.exitCode = Complaint.badInput ∨ c.exitCode = Complaint.badSystem) ∧
        e.report path source action before t = .ok (Complaint.report c before' t)) ∨
      ∃ e', e.report path source action before t = .error ⟨e', t⟩ := by
    intro e path source action before
    cases hrep : e.report path source action before t with
    | ok rep =>
      obtain ⟨c, hcode, rfl⟩ := SourceError.report_eq_ok hrep
      exact .inl ⟨c, before, .inl hcode, rfl⟩
    | error x =>
      obtain ⟨-, rfl⟩ := SourceError.report_eq_error_iff.mp hrep
      exact .inr ⟨e, rfl⟩
  -- the three places where a result may fail to be reached, in order
  by_cases hfound : r.Found t
  · rw [runCompile_eq_work hr hfound, work_eq hr hfound]
    cases hd : r.inForce load t with
    | error e => exact hreport
    | ok d =>
      dsimp only
      cases hc : compileFor load r.target t (.ofText r.file) d with
      | error e => exact hreport
      | ok c => exact absurd ⟨d, hd, hc⟩ (h c)
  · rcases runCompile_of_not_found hfound with ⟨c, hcode, hrun⟩ | ⟨f, -, hrun⟩
    · exact .inl ⟨c, [], .inr hcode, hrun⟩
    · exact .inr ⟨_, hrun⟩

end CompileRequest

end StreamMesh
