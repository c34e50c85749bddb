import StreamMesh.Proofs.Compile.Supply
import StreamMesh.Proofs.Topology.Refusal

/-!
# Which pipelines compile

A compilation succeeds exactly if eight requirements hold, each of which can be read off the
specification and the configuration. They are tested in a fixed order, and a failure belongs to the
first that does not hold. Apart from these, a compilation fails only for a number with too many
digits to be written out.

The name of a pipeline may be any text, also one that is no string. It then can be no namespace, but
where the namespace is set it is noticed only when the result is put together.

## Main definitions

* `Requirement`, `Requirement.Holds` — what a compilation requires
* `Requirement.FirstViolated` — the first requirement that does not hold
* `Failure.requirement?` — the requirement that a failure belongs to

## Main results

* `Topology.plan_verdict`, `plan_verdict` — the requirements of a plan
* `verdict` — either all requirements hold, or the failure belongs to the first that does not
* `compile_isOk_iff` — a compilation succeeds exactly if all requirements hold
* `compile_accepts_exactly` — the same for documents, with the requirement that a failure names
-/

namespace StreamMesh

variable {spec : Spec} {config d : Deployment} {p : Plan} {t : Topology} {n : Node}
  {a x : String} {f : Fault} {rs : List Rendering}

/-- What a compilation requires, in the order in which it is tested. -/
inductive Requirement where
  | declared
  | connected
  | acyclic
  | singleInput
  | namespaced
  | supplied
  | traced
  | encodable
  deriving DecidableEq, Repr

/-- The namespace is set, or the pipeline's name can be one. -/
def Spec.Namespaced (spec : Spec) (config : Deployment) : Prop :=
  config.ns ≠ none ∨
    ∃ name : String, spec.name = some (.whole name) ∧ Label.pattern.Matches name.toList

namespace Requirement

/-- All requirements, in order. -/
def all : List Requirement :=
  [declared, connected, acyclic, singleInput, namespaced, supplied, traced, encodable]

/-- What a requirement says of a specification and a configuration. -/
def Holds (spec : Spec) (config : Deployment) : Requirement → Prop
  | declared => spec.Declared
  | connected => spec.Legal
  | acyclic => spec.Acyclic
  | singleInput => spec.SingleInput
  | namespaced => spec.Namespaced config
  | supplied => spec.Supplied config
  | traced => FileSafe config.tracing.configName
  | encodable => ∃ name : String, spec.name = some (.whole name)

/-- A requirement that does not hold, while all before it do. -/
def FirstViolated (spec : Spec) (config : Deployment) (r : Requirement) : Prop :=
  ¬ r.Holds spec config ∧ ∀ q ∈ all.takeWhile (· != r), q.Holds spec config

end Requirement

/-- The requirement that a failure belongs to. -/
def Failure.requirement? : Failure → Option Requirement
  | .fault (.missingField ..) | .fault (.invalidKind ..) | .fault (.duplicateName ..)
  | .fault (.sinkConnects ..)
  | .invalid "SourceNode" [⟨[.key "connects_to"], _⟩]
  | .invalid "ProcessorNode" [⟨[.key "connects_to"], _⟩] => some .declared
  | .fault (.invalidEdge ..) => some .connected
  | .fault (.cyclicGraph _) => some .acyclic
  | .fault (.secondInput ..) => some .singleInput
  | .invalid "DeploymentConfig" [⟨[.key "namespace"], _⟩] => some .namespaced
  | .fault (.invalidInputKind ..) | .fault (.unmappedTopic ..) => some .supplied
  | .invalid "Artifact" [⟨[.key "file_name"], _⟩] => some .traced
  | .invalid "CompiledArtifacts" [⟨[.key "pipeline"], _⟩] => some .encodable
  | _ => none

section Plan

/-- The conditions for a plan. -/
def Spec.Plannable (spec : Spec) : Prop :=
  spec.Declared ∧ spec.Legal ∧ spec.Acyclic ∧ spec.SingleInput

/-- A failure that belongs to the first violated requirement. -/
def Failure.Explains (f : Failure) (spec : Spec) (config : Deployment) : Prop :=
  ∃ r, r.FirstViolated spec config ∧ f.requirement? = some r

section Topology

variable {t t' : Topology} {nodes : List Node} {g : Graph} {order : List String} {f : Fault}
  (hdeclared : spec.Declared) (ht : t.Represents spec nodes)

include hdeclared ht

/-- Without a graph, some connection is not allowed. -/
theorem Topology.explains_of_graph_eq_error (h : t.graph = .error f) :
    (Failure.fault f).Explains spec config := by
  have hlegal : ¬ spec.Legal := by
    rw [← ht.legalEdges_iff, ← Topology.graph_isOk_iff ht.wellFormed, h]
    rintro ⟨g, hg⟩
    cases hg
  obtain ⟨origin, target, expected, rfl⟩ := Topology.invalidEdge_of_graph_eq_error h
  refine ⟨.connected, ⟨hlegal, fun q hq => ?_⟩, rfl⟩
  obtain rfl : q = .declared := by simpa [Requirement.all] using hq
  exact hdeclared

/-- Without an order of the graph, the connections have a cycle. -/
theorem Topology.explains_of_order_eq_error (hlegal : spec.Legal) (hgraph : t.graph = .ok g)
    (h : g.order = .error f) : (Failure.fault f).Explains spec config := by
  obtain ⟨-, hg, -, -⟩ := Topology.graph_spec ht.wellFormed hgraph
  obtain ⟨v, rfl, hcycle⟩ := Graph.cycle_of_order_eq_error hg h
  rw [ht.edge_eq hgraph] at hcycle
  have hacyclic : ¬ spec.Acyclic := fun hacyclic => hacyclic v hcycle
  refine ⟨.acyclic, ⟨hacyclic, fun q hq => ?_⟩, rfl⟩
  obtain rfl | rfl : q = .declared ∨ q = .connected := by simpa [Requirement.all] using hq
  · exact hdeclared
  · exact hlegal

/-- Where inputs cannot be told to the processors, one of them is fed twice. -/
theorem Topology.explains_of_registerInputs (hlegal : spec.Legal) (hacyclic : spec.Acyclic)
    (h : t.registerInputs = (t', some f)) : (Failure.fault f).Explains spec config := by
  obtain ⟨⟨processor, known, other, rfl⟩, hsingle⟩ :=
    ht.secondInput_of_registerInputs (ht.legalEdges_iff.mpr hlegal) h
  refine ⟨.singleInput, ⟨hsingle, fun q hq => ?_⟩, rfl⟩
  obtain rfl | rfl | rfl : q = .declared ∨ q = .connected ∨ q = .acyclic := by
    simpa [Requirement.all] using hq
  · exact hdeclared
  · exact hlegal
  · exact hacyclic

/-- A declared topology can be planned, or violates one of the requirements that follow. -/
theorem Topology.plan_verdict (config : Deployment) :
    (∃ p, t.plan.2 = .ok p) ∧ spec.Plannable ∨
    ∃ f, t.plan.2 = .error f ∧ (Failure.fault f).Explains spec config := by
  -- one case for each stage that can fail, in their order
  unfold Topology.plan
  cases hgraph : t.graph with
  | error f => exact .inr ⟨f, rfl, Topology.explains_of_graph_eq_error hdeclared ht hgraph⟩
  | ok g =>
    obtain ⟨hedges, -⟩ := Topology.graph_spec ht.wellFormed hgraph
    have hlegal : spec.Legal := ht.legalEdges_iff.mp hedges
    dsimp only
    cases horder : g.order with
    | error f =>
      exact .inr ⟨f, rfl, Topology.explains_of_order_eq_error hdeclared ht hlegal hgraph horder⟩
    | ok order =>
      have hacyclic : spec.Acyclic := ht.acyclic_of_order hgraph horder
      rcases hreg : t.registerInputs with ⟨t', _ | f⟩
      · have hsingle : spec.SingleInput := (ht.registerInputs_isOk_iff hedges).mp ⟨t', hreg⟩
        exact .inl ⟨⟨_, rfl⟩, hdeclared, hlegal, hacyclic, hsingle⟩
      · exact .inr ⟨f, rfl,
          Topology.explains_of_registerInputs hdeclared ht hlegal hacyclic hreg⟩

end Topology

/-- The first four requirements decide whether there is a plan. -/
theorem plan_verdict (spec : Spec) (config : Deployment) :
    (∃ p, (plan spec).2 = .ok p) ∧ spec.Plannable ∨
      ∃ f, (plan spec).2 = .error f ∧ f.Explains spec config := by
  unfold plan
  rcases hspec : Topology.ofSpec spec with ⟨events, f | t⟩
  · have hfault : (Topology.ofSpec spec).2 = .error f := congrArg Prod.snd hspec
    have hdeclared : ¬ spec.Declared := by
      rw [← Topology.ofSpec_isOk_iff, hfault]
      rintro ⟨t, h⟩
      cases h
    refine .inr ⟨f, rfl, .declared, ⟨hdeclared, fun q hq => ?_⟩, ?_⟩
    · simp [Requirement.all] at hq
    · cases Topology.ofDeclaration_of_ofSpec_eq_error hfault with
      | illFormedConnection kind => cases kind <;> rfl
      | _ => rfl
  · have hok : (Topology.ofSpec spec).2 = .ok t := congrArg Prod.snd hspec
    obtain ⟨nodes, ht⟩ := Topology.represents_of_ofSpec hok
    rcases Topology.plan_verdict (Topology.ofSpec_isOk_iff.mp ⟨t, hok⟩) ht config with
      ⟨⟨p, hp⟩, hplannable⟩ | ⟨f, hf, hexplains⟩
    · exact .inl ⟨⟨p, Failure.ofFault_eq_ok_iff.mpr hp⟩, hplannable⟩
    · exact .inr ⟨.fault f, Failure.ofFault_eq_error_iff.mpr ⟨f, hf, rfl⟩, hexplains⟩

end Plan

section Verdict

theorem Spec.namespaced_iff {name : RawText} (hname : spec.name = some name) :
    spec.Namespaced config ↔ config.TakesName name := by
  refine or_congr_right ?_
  simp only [Label.isNamespace, Text.Pattern.accepts_iff, hname, Option.some.injEq]

section Settled

/-! What a node needs does not depend on the namespace. -/

variable {name : String}

theorem Spec.providedAt_settled_iff :
    spec.ProvidedAt (config.settled name) a ↔ spec.ProvidedAt config a :=
  ⟨fun h => ⟨h.source, h.sink, h.fed, h.feeder, h.drain⟩,
    fun h => ⟨h.source, h.sink, h.fed, h.feeder, h.drain⟩⟩

theorem Spec.writableAt_settled_iff :
    spec.WritableAt (config.settled name) a ↔ spec.WritableAt config a :=
  ⟨fun h => ⟨h.own, h.stream⟩, fun h => ⟨h.own, h.stream⟩⟩

theorem Spec.supplied_settled_iff :
    spec.Supplied (config.settled name) ↔ spec.Supplied config := by
  simp only [Spec.supplied_iff, Spec.providedAt_settled_iff]

theorem Spec.writable_settled_iff :
    spec.Writable (config.settled name) ↔ spec.Writable config :=
  forall_congr' fun _ => Spec.writableAt_settled_iff

end Settled

/-- A number that is too long belongs to no requirement. -/
theorem Failure.Explains.ne_tooLong {f : Failure} (h : f.Explains spec config) : f ≠ .tooLong := by
  rintro rfl
  obtain ⟨_, -, hof⟩ := h
  cases hof

/-- Without a name that can be the namespace, a plan fails for the name. -/
theorem compile_of_not_takesName (hplan : (plan spec).2 = .ok p) (hconfig : config.Validated)
    (hns : ¬ config.TakesName p.topology.name) : ∃ defect, compile spec config =
      .error (.invalid "DeploymentConfig" [⟨[.key "namespace"], defect⟩]) := by
  obtain ⟨defect, hrejected, hshown⟩ := Deployment.exists_rejected_of_not_takesName hconfig hns
  refine ⟨defect, ?_⟩
  rw [compile, hplan]
  simp only [bind, Except.bind, hrejected, Failure.ofChecked]
  rw [Failure.ofIssues_eq_invalid (by simpa using hshown)]

/-- Either a compilation succeeds and all requirements hold, or it fails for the first that does
not, or for a number that is too long. -/
def Verdict (spec : Spec) (config : Deployment) : Prop :=
  (∃ c, compile spec config = .ok c) ∧ (∀ r : Requirement, r.Holds spec config) ∧
      spec.Writable config ∨
    compile spec config = .error .tooLong ∧ ¬ spec.Writable config ∨
    ∃ f, compile spec config = .error f ∧ f ≠ .tooLong ∧ f.Explains spec config

/-- What there is a plan for holds before everything else. -/
theorem Spec.Plannable.holds (h : spec.Plannable) :
    ∀ q ∈ Requirement.all.takeWhile (· != .namespaced), q.Holds spec config := by
  obtain ⟨hdeclared, hlegal, hacyclic, hsingle⟩ := h
  intro q hq
  obtain rfl | rfl | rfl | rfl :
      q = .declared ∨ q = .connected ∨ q = .acyclic ∨ q = .singleInput := by
    simpa [Requirement.all] using hq
  · exact hdeclared
  · exact hlegal
  · exact hacyclic
  · exact hsingle

section Planned

variable (hplan : (plan spec).2 = .ok p) (hplannable : spec.Plannable) (hconfig : config.Validated)
  (hns : config.TakesName p.topology.name)

include hplan hplannable hconfig hns

/-- With the files of all nodes made, only the name of the tracing configuration and that of the
pipeline are left to fail. -/
theorem verdict_of_blocks
    (hblocks : Mesh.blocks (config.settled p.topology.name.lossy) p.topology p.order = .ok rs)
    (hsupplied : spec.Supplied config) (hwritable : spec.Writable config) :
    Verdict spec config := by
  have hp := planned_of_plan_eq_ok hplan
  have hnamespaced : spec.Namespaced config := (Spec.namespaced_iff hp.name).mpr hns
  -- all that is tested before the name for tracing has passed
  have hbefore : ∀ q ∈ Requirement.all.takeWhile (· != .traced), q.Holds spec config := by
    intro q hq
    obtain hq | rfl | rfl : q ∈ Requirement.all.takeWhile (· != .namespaced) ∨
        q = .namespaced ∨ q = .supplied := by
      simpa [Requirement.all, or_assoc] using hq
    · exact hplannable.holds q hq
    · exact hnamespaced
    · exact hsupplied
  have hcompile := compile_of_stages hplan (Deployment.resolve_of_takesName hconfig hns) nofun
  rw [hblocks] at hcompile
  by_cases htraced : FileSafe config.tracing.configName
  · have htracing : Mesh.tracingObject (config.settled p.topology.name.lossy) = .ok _ :=
      Mesh.tracingObject_eq.trans (if_pos htraced)
    rw [htracing] at hcompile
    have hall : ∀ q ∈ Requirement.all.takeWhile (· != .encodable), q.Holds spec config := by
      intro q hq
      obtain hq | rfl : q ∈ Requirement.all.takeWhile (· != .traced) ∨ q = .traced := by
        simpa [Requirement.all, or_assoc] using hq
      · exact hbefore q hq
      · exact htraced
    -- what is left is the name of the pipeline, which has to be a string
    cases hname : p.topology.name with
    | broken t =>
      rw [hname] at hcompile
      refine .inr (.inr ⟨_, hcompile, nofun, .encodable, ⟨?_, hall⟩, rfl⟩)
      rintro ⟨name, hspec⟩
      cases hname.symm.trans (Option.some.inj (hp.name.symm.trans hspec))
    | whole name =>
      rw [hname] at hcompile
      refine .inl ⟨⟨_, hcompile⟩, fun q => ?_, hwritable⟩
      by_cases hq : q = .encodable
      · subst hq
        exact ⟨name, hp.name.trans (congrArg some hname)⟩
      · refine hall q ?_
        cases q <;> first | decide | exact absurd rfl hq
  · have htracing : Mesh.tracingObject (config.settled p.topology.name.lossy) = .error _ :=
      Mesh.tracingObject_eq.trans (if_neg htraced)
    rw [htracing] at hcompile
    exact .inr (.inr ⟨_, hcompile, nofun, .traced, ⟨htraced, hbefore⟩, rfl⟩)

/-- Under a namespace, a plan fails for what its nodes lack, for a number that is too long, or for a
name. -/
theorem verdict_of_namespaced (hnamed : spec.Named) : Verdict spec config := by
  have hp := planned_of_plan_eq_ok hplan
  have hcompile := compile_of_stages hplan (Deployment.resolve_of_takesName hconfig hns) nofun
  rcases hp.blocks_verdict hnamed (Deployment.fileSafe_nsText_settled hconfig hns.lossy) with
    ⟨hall, rs, hblocks⟩ | ⟨⟨_, a, _, -, -, -, hlong⟩, hblocks⟩ |
      ⟨⟨_, a, _, -, -, hlacks⟩, e, hblocks, hof⟩
  · obtain ⟨hsupplied, hwritable⟩ := hp.forall_order_iff.mp hall
    exact verdict_of_blocks hplan hplannable hconfig hns hblocks
      (Spec.supplied_settled_iff.mp hsupplied) (Spec.writable_settled_iff.mp hwritable)
  · rw [hblocks] at hcompile
    exact .inr (.inl ⟨hcompile, fun h => hlong (Spec.writable_settled_iff.mpr h a)⟩)
  · rw [hblocks] at hcompile
    have hlacking : ¬ spec.Supplied config := fun h =>
      hlacks (Spec.supplied_iff.mp (Spec.supplied_settled_iff.mpr h) a)
    refine .inr (.inr ⟨_, hcompile, nofun, .supplied, ⟨hlacking, fun q hq => ?_⟩, ?_⟩)
    · obtain hq | rfl : q ∈ Requirement.all.takeWhile (· != .namespaced) ∨ q = .namespaced := by
        simpa [Requirement.all, or_assoc] using hq
      · exact hplannable.holds q hq
      · exact (Spec.namespaced_iff hp.name).mpr hns
    · cases hof <;> rfl

end Planned

theorem verdict (hnamed : spec.Named) (hconfig : config.Validated) : Verdict spec config := by
  rcases plan_verdict spec config with ⟨⟨p, hplan⟩, hplannable⟩ | ⟨f, hf, hexplains⟩
  · by_cases hns : config.TakesName p.topology.name
    · exact verdict_of_namespaced hplan hplannable hconfig hns hnamed
    · have hp := planned_of_plan_eq_ok hplan
      obtain ⟨defect, hcompile⟩ := compile_of_not_takesName hplan hconfig hns
      refine .inr (.inr ⟨_, hcompile, nofun, .namespaced, ⟨?_, hplannable.holds⟩, rfl⟩)
      exact fun h => hns ((Spec.namespaced_iff hp.name).mp h)
  · refine .inr (.inr ⟨f, ?_, hexplains.ne_tooLong, hexplains⟩)
    rw [compile, hf]
    rfl

/-- There is a plan and a namespace, and the first node of the order that has not what it needs has
a number that is too long. -/
def Spec.StopsAtNumber (spec : Spec) (config : Deployment) : Prop :=
  ∃ p, (plan spec).2 = .ok p ∧ config.TakesName p.topology.name ∧
    spec.FirstAt config p.order fun a => spec.ProvidedAt config a ∧ ¬ spec.WritableAt config a

/-- When a compilation fails for a number that is too long. -/
theorem compile_eq_tooLong_iff (hnamed : spec.Named) (hconfig : config.Validated) :
    compile spec config = .error .tooLong ↔ spec.StopsAtNumber config := by
  constructor
  · intro h
    rcases plan_verdict spec config with ⟨⟨p, hplan⟩, hplannable⟩ | ⟨f, hf, hexplains⟩
    · have hp := planned_of_plan_eq_ok hplan
      by_cases hns : config.TakesName p.topology.name
      · -- the nodes come before all else that could still fail
        rcases hp.blocks_verdict hnamed (Deployment.fileSafe_nsText_settled hconfig hns.lossy) with
          ⟨hall, rs, hblocks⟩ | ⟨hfirst, -⟩ | ⟨-, e, hblocks, -⟩
        · obtain ⟨hsupplied, hwritable⟩ := hp.forall_order_iff.mp hall
          rw [Spec.supplied_settled_iff] at hsupplied
          rw [Spec.writable_settled_iff] at hwritable
          rcases verdict_of_blocks hplan hplannable hconfig hns hblocks hsupplied hwritable with
            ⟨⟨c, hc⟩, -⟩ | ⟨-, hlong⟩ | ⟨f, hf, hne, -⟩
          · cases h.symm.trans hc
          · exact absurd hwritable hlong
          · cases h.symm.trans hf
            exact absurd rfl hne
        · simp only [Spec.FirstAt, Spec.providedAt_settled_iff, Spec.writableAt_settled_iff]
            at hfirst
          exact ⟨p, hplan, hns, hfirst⟩
        · have hcompile := compile_of_stages hplan
            (Deployment.resolve_of_takesName hconfig hns) nofun
          rw [hblocks, h] at hcompile
          cases hcompile
      · obtain ⟨defect, hcompile⟩ := compile_of_not_takesName hplan hconfig hns
        cases h.symm.trans hcompile
    · rw [compile, hf] at h
      cases h
      exact absurd rfl hexplains.ne_tooLong
  · rintro ⟨p, hplan, hns, hfirst⟩
    have hp := planned_of_plan_eq_ok hplan
    have hcompile := compile_of_stages hplan (Deployment.resolve_of_takesName hconfig hns) nofun
    have hsettled : spec.FirstAt (config.settled p.topology.name.lossy) p.order fun a =>
        spec.ProvidedAt (config.settled p.topology.name.lossy) a ∧
          ¬ spec.WritableAt (config.settled p.topology.name.lossy) a := by
      simpa only [Spec.FirstAt, Spec.providedAt_settled_iff, Spec.writableAt_settled_iff]
        using hfirst
    rcases hp.blocks_verdict hnamed (Deployment.fileSafe_nsText_settled hconfig hns.lossy) with
      ⟨hall, -⟩ | ⟨-, hblocks⟩ | ⟨hlacks, -⟩
    · exact absurd hall (hsettled.not_forall fun _ ha h => ha.2 h.2)
    · rw [hcompile, hblocks]
      rfl
    · -- the order cannot stop at two places
      obtain ⟨a, ha, hlacks⟩ :=
        hsettled.exists_both hlacks (fun _ ha h => ha.2 h.2) fun _ ha h => ha h.1
      exact absurd ha.1 hlacks

/-- A compilation succeeds exactly if all requirements hold and all its numbers can be written
out. -/
theorem compile_isOk_iff (hnamed : spec.Named) (hconfig : config.Validated) :
    (∃ c, compile spec config = .ok c) ↔
      (∀ r : Requirement, r.Holds spec config) ∧ spec.Writable config := by
  rcases verdict hnamed hconfig with ⟨hok, hall⟩ | ⟨hf, hlong⟩ | ⟨f, hf, -, r, hr, -⟩
  · exact iff_of_true hok hall
  · refine iff_of_false ?_ fun hall => hlong hall.2
    rintro ⟨c, hc⟩
    cases hf.symm.trans hc
  · refine iff_of_false ?_ fun hall => hr.1 (hall.1 r)
    rintro ⟨c, hc⟩
    cases hf.symm.trans hc

/-- A pipeline compiles exactly if it meets all requirements and no number of its manifests is too
long to be written out. A failure belongs to the first requirement that is not met, unless it is for
such a number. -/
theorem compile_accepts_exactly (hspec : spec.Validated) (hconfig : config.Validated) :
    ((∃ c, compile spec config = .ok c) ↔
      (∀ r : Requirement, r.Holds spec config) ∧ spec.Writable config) ∧
    (∀ f, compile spec config = .error f → f ≠ .tooLong →
      ∃ r, r.FirstViolated spec config ∧ f.requirement? = some r) ∧
    (compile spec config = .error .tooLong → ¬ spec.Writable config) := by
  refine ⟨compile_isOk_iff hspec.named hconfig, fun f hf hne => ?_, fun hf => ?_⟩
  · rcases verdict hspec.named hconfig with ⟨⟨c, hc⟩, -⟩ | ⟨hf', -⟩ | ⟨f', hf', -, hexplains⟩
    · cases hf.symm.trans hc
    · cases hf.symm.trans hf'
      exact absurd rfl hne
    · cases hf.symm.trans hf'
      exact hexplains
  · rcases verdict hspec.named hconfig with ⟨⟨c, hc⟩, -⟩ | ⟨-, hlong⟩ | ⟨f', hf', hne, -⟩
    · cases hf.symm.trans hc
    · exact hlong
    · cases hf.symm.trans hf'
      exact absurd rfl hne

end Verdict

section Sample

/-- A configuration with topics for one source and one sink, which takes its namespace from the
pipeline. -/
def Deployment.sample : Deployment :=
  { Deployment.builtIn with
    sourceTopics := Assoc.ofList [("in", "orders")]
    sinkTopics := Assoc.ofList [("out", "reports")] }

/-- The document of this configuration, with some value for the namespace. -/
def Deployment.sampleDocument (ns : Value) : Value :=
  .map [(.str "namespace", ns),
    (.str "brokers", .list [.str "my-cluster-kafka-brokers.kafka:9092"]),
    (.str "source_topics", .map [(.str "in", .str "orders")]),
    (.str "sink_topics", .map [(.str "out", .str "reports")])]

theorem Deployment.validated_sample : Deployment.sample.Validated := ⟨sampleDocument .null, rfl⟩

/-- A pipeline with two processors between a source and a sink. -/
def Spec.chain (name a b : String) (env : List EnvEntry) : Spec where
  name := some name
  steps := some [
    ⟨some "in", some "source", some a, []⟩,
    ⟨some a, some "processor", some b, env⟩,
    ⟨some b, some "processor", some "out", []⟩,
    ⟨some "out", some "sink", none, []⟩]

variable {name b x y : String} {k : NodeKind} {env : List EnvEntry}

theorem Spec.connects_chain : (Spec.chain name a b env).Connects x y ↔
    (x = "in" ∧ y = a) ∨ (x = a ∧ y = b) ∨ (x = b ∧ y = "out") := by
  simp [Spec.Connects, Spec.stepList, Spec.chain, eq_comm]

theorem Spec.has_chain : (Spec.chain name a b env).Has k x ↔
    (k = .source ∧ x = "in") ∨ (k = .processor ∧ (x = a ∨ x = b)) ∨ (k = .sink ∧ x = "out") := by
  cases k <;> simp [Spec.Has, Spec.stepList, Spec.chain, NodeKind.text, eq_comm]

section

variable (hname : Label.isNamespace name = true) (hnodup : ["", "in", a, b, "out"].Nodup)

include hname hnodup

/-- Such a pipeline meets all requirements. -/
theorem holds_chain (r : Requirement) : r.Holds (Spec.chain name a b env) Deployment.sample := by
  have hne : name ≠ "" := by
    rintro rfl
    cases hname
  simp only [List.nodup_cons, List.mem_cons, List.not_mem_nil, or_false, not_or] at hnodup
  obtain ⟨⟨-, hae, hbe, -⟩, ⟨hia, hib, -⟩, ⟨hab, hao⟩, hbo, -⟩ := hnodup
  have hsteps : ∀ {s}, s ∈ (Spec.chain name a b env).stepList →
      s = ⟨some "in", some "source", some a, []⟩ ∨
        s = ⟨some a, some "processor", some b, env⟩ ∨
          s = ⟨some b, some "processor", some "out", []⟩ ∨
            s = ⟨some "out", some "sink", none, []⟩ := by
    intro s hs
    simpa [Spec.stepList, Spec.chain] using hs
  cases r with
  | declared =>
    refine ⟨⟨name, rfl, fun h => hne (RawText.whole.inj h)⟩, Option.some_ne_none _,
      fun s hs => Step.complete_iff.mpr ?_, ?_⟩
    · rcases hsteps hs with rfl | rfl | rfl | rfl
      · exact ⟨_, .source rfl rfl (by decide) rfl (Ne.symm hae)⟩
      · exact ⟨_, .processor rfl rfl (Ne.symm hae) rfl (Ne.symm hbe)⟩
      · exact ⟨_, .processor rfl rfl (Ne.symm hbe) rfl (by decide)⟩
      · exact ⟨_, .sink rfl rfl (by decide) rfl⟩
    · simp [Spec.stepList, Spec.chain, hia, hib, hab, hao, hbo]
  | connected =>
    intro x y hxy
    rcases Spec.connects_chain.mp hxy with ⟨rfl, rfl⟩ | ⟨rfl, rfl⟩ | ⟨rfl, rfl⟩ <;>
      simp [Spec.has_chain, Ne.symm hib]
  | acyclic =>
    -- every connection leads further along the chain
    refine Spec.acyclic_of_lt (fun x => ["in", a, b, "out"].idxOf x) fun x y hxy => ?_
    rcases Spec.connects_chain.mp hxy with ⟨rfl, rfl⟩ | ⟨rfl, rfl⟩ | ⟨rfl, rfl⟩ <;>
      simp [hia, hib, hab, hao, hbo]
  | singleInput =>
    intro s hs s' hs' y _ hsy hsy'
    have hsame : s.connectsTo = s'.connectsTo := hsy.trans hsy'.symm
    rcases hsteps hs with rfl | rfl | rfl | rfl <;> rcases hsteps hs' with rfl | rfl | rfl | rfl <;>
      simp_all
  | namespaced => exact .inr ⟨name, rfl, Text.Pattern.accepts_iff.mp hname⟩
  | supplied =>
    refine ⟨fun x hx => ?_, fun x hx => ?_, fun x hx => ?_⟩
    · rcases Spec.has_chain.mp hx with ⟨h, -⟩ | ⟨-, rfl | rfl⟩ | ⟨h, -⟩
      · cases h
      · exact ⟨"in", Spec.connects_chain.mpr (.inl ⟨rfl, rfl⟩)⟩
      · exact ⟨a, Spec.connects_chain.mpr (.inr (.inl ⟨rfl, rfl⟩))⟩
      · cases h
    · obtain rfl : x = "in" := by simpa [Spec.has_chain] using hx
      exact ⟨"orders", rfl, by decide⟩
    · obtain rfl : x = "out" := by simpa [Spec.has_chain] using hx
      exact ⟨"reports", rfl, by decide⟩
  | traced =>
    have htraced : FileSafe "tracing-config" := by decide
    exact htraced
  | encodable => exact ⟨name, rfl⟩

end

/-- The built-in numbers are short. -/
theorem Spec.writable_sample_numbers (spec : Spec) : spec.Writable Deployment.sample :=
  writable_of_numbers (by decide)

/-- One of these pipelines, where a processor brings a setting of its own. -/
def Spec.sample : Spec where
  name := some "demo"
  steps := some [
    ⟨some "in", some "source", some "clean", []⟩,
    ⟨some "clean", some "processor", some "count", [⟨"OUTPUT_ROUTE", "elsewhere"⟩]⟩,
    ⟨some "count", some "processor", some "out", []⟩,
    ⟨some "out", some "sink", none, []⟩]

/-- The document of this pipeline under some name. -/
def Spec.sampleDocument (name : RawText) : Value :=
  .map [(.str "name", .ofRaw name), (.str "steps", .list [
    .map [(.str "name", .str "in"), (.str "kind", .str "source"),
      (.str "connectsTo", .str "clean")],
    .map [(.str "name", .str "clean"), (.str "kind", .str "processor"),
      (.str "connectsTo", .str "count"), (.str "env", .list [
        .map [(.str "name", .str "OUTPUT_ROUTE"), (.str "value", .str "elsewhere")]])],
    .map [(.str "name", .str "count"), (.str "kind", .str "processor"),
      (.str "connectsTo", .str "out")],
    .map [(.str "name", .str "out"), (.str "kind", .str "sink")]])]

theorem Spec.validated_sample : Spec.sample.Validated := ⟨sampleDocument "demo", rfl⟩

theorem Spec.sample_eq :
    Spec.sample = Spec.chain "demo" "clean" "count" [⟨"OUTPUT_ROUTE", "elsewhere"⟩] := rfl

theorem Spec.connects_sample {a b : String} : Spec.sample.Connects a b ↔
    (a = "in" ∧ b = "clean") ∨ (a = "clean" ∧ b = "count") ∨ (a = "count" ∧ b = "out") := by
  rw [sample_eq, connects_chain]

theorem Spec.has_sample {k : NodeKind} {a : String} : Spec.sample.Has k a ↔
    (k = .source ∧ a = "in") ∨ (k = .processor ∧ (a = "clean" ∨ a = "count")) ∨
      (k = .sink ∧ a = "out") := by
  rw [sample_eq, has_chain]

/-- The sample meets all requirements. -/
theorem holds_sample (r : Requirement) : r.Holds Spec.sample Deployment.sample := by
  rw [Spec.sample_eq]
  exact holds_chain rfl (by decide) r

theorem exists_compile_sample : ∃ c, compile Spec.sample Deployment.sample = .ok c :=
  (compile_isOk_iff Spec.validated_sample.named Deployment.validated_sample).mpr
    ⟨holds_sample, Spec.writable_sample_numbers _⟩

/-- The sample compiles, since it meets all requirements. -/
theorem compile_accepts_sample :
    Spec.sample.Validated ∧ Deployment.sample.Validated ∧
      (∃ c, compile Spec.sample Deployment.sample = .ok c) ∧
      ∀ f, compile Spec.sample Deployment.sample = .error f → f ≠ .tooLong →
        ∃ r : Requirement, r.FirstViolated Spec.sample Deployment.sample ∧
          f.requirement? = some r :=
  have h := compile_accepts_exactly Spec.validated_sample Deployment.validated_sample
  ⟨Spec.validated_sample, Deployment.validated_sample,
    h.1.mpr ⟨holds_sample, Spec.writable_sample_numbers _⟩, h.2.1⟩

/-- The sample under a name that is no string. -/
def Spec.misnamed : Spec := { Spec.sample with name := some (.broken .half) }

/-- The configuration of the sample with a namespace. -/
def Deployment.sampleInDemo : Deployment := { Deployment.sample with ns := some "demo" }

/-- Under a name that is no string, a pipeline is not compiled though it meets all other
requirements, the namespace among them. -/
theorem misnamed_rejected :
    Spec.misnamed.Validated ∧ Deployment.sampleInDemo.Validated ∧
    (∀ r : Requirement, r ≠ .encodable → r.Holds Spec.misnamed Deployment.sampleInDemo) ∧
    Spec.misnamed.Writable Deployment.sampleInDemo ∧
    ∃ f, compile Spec.misnamed Deployment.sampleInDemo = .error f ∧
      f.requirement? = some .encodable := by
  have hspec : Spec.misnamed.Validated := ⟨Spec.sampleDocument (.broken .half), rfl⟩
  have hconfig : Deployment.sampleInDemo.Validated :=
    ⟨Deployment.sampleDocument (.str "demo"), rfl⟩
  -- nothing but the name is different from what the sample requires
  have hothers : ∀ r : Requirement, r ≠ .encodable →
      r.Holds Spec.misnamed Deployment.sampleInDemo := by
    rintro r hr
    have hholds := holds_sample r
    cases r with
    | declared => exact ⟨⟨_, rfl, nofun⟩, hholds.steps, hholds.complete, hholds.distinct⟩
    | connected | acyclic | singleInput => exact hholds
    | namespaced => exact .inl nofun
    | supplied => exact ⟨hholds.processor, hholds.source, hholds.sink⟩
    | traced => exact hholds
    | encodable => exact absurd rfl hr
  have hbroken : ¬ Requirement.Holds Spec.misnamed Deployment.sampleInDemo .encodable := by
    rintro ⟨name, hname⟩
    cases hname
  have hwritable : Spec.misnamed.Writable Deployment.sampleInDemo :=
    Spec.writable_of_numbers (by decide)
  refine ⟨hspec, hconfig, hothers, hwritable, ?_⟩
  rcases verdict hspec.named hconfig with ⟨-, hall, -⟩ | ⟨-, hlong⟩ | ⟨f, hf, -, r, hr, hof⟩
  · exact absurd (hall _) hbroken
  · exact absurd hwritable hlong
  · by_cases hrenc : r = .encodable
    · exact ⟨f, hf, hrenc ▸ hof⟩
    · exact absurd (hothers r hrenc) hr.1

end Sample

end StreamMesh
