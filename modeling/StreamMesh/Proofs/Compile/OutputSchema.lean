import StreamMesh.Proofs.Compile.Layout
import StreamMesh.Proofs.Compile.Output

/-!
# When synthesis fails on its own output

Every generated file is checked: its name must not be empty or hold a separator of paths. All names
but one are put together from labels, which hold none. The one for tracing is taken from the
configuration as it stands, where any text is accepted that is not empty. So this name alone can
make synthesis fail in another way than for what a node lacks or for a number that is too long to be
written out.

## Main results

* `Planned.synthesis_cases`, `Planned.synthesis_iff` — the ways in which the synthesis of a plan
  ends, and when it ends in each of them
* `synthesis_verdict` — how the synthesis of a plan ends under a configuration with a namespace
* `tracing_name_rejected` — an accepted configuration under which synthesis fails
-/

namespace StreamMesh

open Mesh Mesh.Object

variable {spec : Spec} {d : Deployment} {p : Plan} {t : Topology} {order : List String}
  {name : String} {rs : List Rendering}

namespace Mesh

/-- Synthesis under a namespace fails for a node, or for the name for tracing after all nodes. -/
theorem synthesize_eq (hns : d.ns ≠ none) : synthesize d t order = match blocks d t order with
    | .error f => .error f
    | .ok nodes =>
      if FileSafe d.tracing.configName then .ok (nodes ++ [tracingFile d])
      else .error .badFileName := by
  have hsome : d.ns.isNone = false := by
    rw [Option.isNone_eq_false_iff, Option.isSome_iff_ne_none]
    exact hns
  simp only [synthesize, hsome, Bool.false_eq_true, if_false, tracingObject_eq]
  cases blocks d t order with
  | error f => rfl
  | ok nodes => split <;> rfl

end Mesh

theorem Deployment.settled_eq_self (name : String) (hns : d.ns ≠ none) : d.settled name = d := by
  obtain ⟨ns, hns⟩ := Option.ne_none_iff_exists'.mp hns
  cases d
  cases hns
  rfl

section Endings

variable (hp : Planned spec p)

include hp

/-- No order stops where all nodes have what they need. -/
theorem Planned.not_ready_of_firstAt {stops : String → Prop}
    (hfirst : spec.FirstAt d p.order stops)
    (hstops : ∀ a, stops a → ¬ (spec.ProvidedAt d a ∧ spec.WritableAt d a)) :
    ¬ (spec.Supplied d ∧ spec.Writable d) :=
  fun hall => hfirst.not_forall hstops (hp.forall_order_iff.mpr hall)

/-- There are four ways in which the synthesis of a plan can end. -/
theorem Planned.synthesis_cases (hnamed : spec.Named) (hns : d.ns ≠ none)
    (hsafe : FileSafe d.nsText) :
    ((spec.Supplied d ∧ spec.Writable d) ∧ FileSafe d.tracing.configName ∧
      ∃ rs, synthesize d p.topology p.order = .ok rs) ∨
    ((spec.Supplied d ∧ spec.Writable d) ∧ ¬ FileSafe d.tracing.configName ∧
      synthesize d p.topology p.order = .error .badFileName) ∨
    (spec.FirstAt d p.order (fun a => spec.ProvidedAt d a ∧ ¬ spec.WritableAt d a) ∧
      synthesize d p.topology p.order = .error .tooLong) ∨
    spec.FirstAt d p.order (fun a => ¬ spec.ProvidedAt d a) ∧
      ∃ e : Fault, synthesize d p.topology p.order = .error (.fault e) ∧ e.OfSupply := by
  rw [synthesize_eq hns]
  rcases hp.blocks_verdict hnamed hsafe with
    ⟨hready, nodes, hnodes⟩ | ⟨hfirst, hlong⟩ | ⟨hfirst, e, he, hof⟩
  · rw [hnodes]
    dsimp only
    by_cases htraced : FileSafe d.tracing.configName
    · rw [if_pos htraced]
      exact .inl ⟨hp.forall_order_iff.mp hready, htraced, _, rfl⟩
    · rw [if_neg htraced]
      exact .inr (.inl ⟨hp.forall_order_iff.mp hready, htraced, rfl⟩)
  · rw [hlong]
    exact .inr (.inr (.inl ⟨hfirst, rfl⟩))
  · rw [he]
    exact .inr (.inr (.inr ⟨hfirst, e, rfl, hof⟩))

/-- Each way of ending has its own condition. -/
theorem Planned.synthesis_iff (hnamed : spec.Named) (hns : d.ns ≠ none)
    (hsafe : FileSafe d.nsText) :
    ((∃ rs, synthesize d p.topology p.order = .ok rs) ↔
      (spec.Supplied d ∧ spec.Writable d) ∧ FileSafe d.tracing.configName) ∧
    ((∃ e : Fault, synthesize d p.topology p.order = .error (.fault e) ∧ e.OfSupply) ↔
      spec.FirstAt d p.order fun a => ¬ spec.ProvidedAt d a) ∧
    (synthesize d p.topology p.order = .error .tooLong ↔
      spec.FirstAt d p.order fun a => spec.ProvidedAt d a ∧ ¬ spec.WritableAt d a) ∧
    (synthesize d p.topology p.order = .error .badFileName ↔
      (spec.Supplied d ∧ spec.Writable d) ∧ ¬ FileSafe d.tracing.configName) := by
  have hlacks : ∀ a, ¬ spec.ProvidedAt d a → ¬ (spec.ProvidedAt d a ∧ spec.WritableAt d a) :=
    fun a ha h => ha h.1
  have hlong : ∀ a, (spec.ProvidedAt d a ∧ ¬ spec.WritableAt d a) →
      ¬ (spec.ProvidedAt d a ∧ spec.WritableAt d a) := fun a ha h => ha.2 h.2
  -- the conditions exclude each other: an order stops for one reason, and only if some node lacks
  -- what it needs
  have hnolack : spec.Supplied d ∧ spec.Writable d →
      ¬ spec.FirstAt d p.order fun a => ¬ spec.ProvidedAt d a :=
    fun hall hfirst => hp.not_ready_of_firstAt hfirst hlacks hall
  have hnolong : spec.Supplied d ∧ spec.Writable d →
      ¬ spec.FirstAt d p.order fun a => spec.ProvidedAt d a ∧ ¬ spec.WritableAt d a :=
    fun hall hfirst => hp.not_ready_of_firstAt hfirst hlong hall
  have hone : (spec.FirstAt d p.order fun a => spec.ProvidedAt d a ∧ ¬ spec.WritableAt d a) →
      ¬ spec.FirstAt d p.order fun a => ¬ spec.ProvidedAt d a := by
    intro hfirst hfirst'
    obtain ⟨a, ha, ha'⟩ := hfirst.exists_both hfirst' hlong hlacks
    exact ha' ha.1
  rcases hp.synthesis_cases hnamed hns hsafe with
    ⟨hall, htraced, rs, hrs⟩ | ⟨hall, htraced, hfail⟩ | ⟨hfirst, hfail⟩ | ⟨hfirst, e, hfail, hof⟩
  · simp [hrs, hall, htraced, hnolack hall, hnolong hall]
  · simp [hfail, hall, htraced, hnolack hall, hnolong hall, Failure.badFileName]
  · simp [hfail, hfirst, hone hfirst, mt hnolong (not_not.mpr hfirst), Failure.badFileName]
  · simp [hfail, hof, hfirst, mt hone (not_not.mpr hfirst), mt hnolack (not_not.mpr hfirst),
      Failure.badFileName]

/-- Where all numbers can be written out, an order stops exactly if some node lacks something. -/
theorem Planned.lacks_iff (hnamed : spec.Named) (hns : d.ns ≠ none) (hsafe : FileSafe d.nsText)
    (hwritable : spec.Writable d) :
    (spec.FirstAt d p.order fun a => ¬ spec.ProvidedAt d a) ↔ ¬ spec.Supplied d := by
  constructor
  · intro hfirst hsupplied
    exact hp.not_ready_of_firstAt hfirst (fun a ha h => ha h.1) ⟨hsupplied, hwritable⟩
  · intro hlacking
    rcases hp.synthesis_cases hnamed hns hsafe with
      ⟨hall, -⟩ | ⟨hall, -⟩ | ⟨hfirst, -⟩ | ⟨hfirst, -⟩
    · exact absurd hall.1 hlacking
    · exact absurd hall.1 hlacking
    · obtain ⟨_, a, _, -, -, -, hlong⟩ := hfirst
      exact absurd (hwritable a) hlong
    · exact hfirst

/-- Every file of a synthesis has the name of an object. -/
theorem Planned.exists_object_of_synthesize {r : Rendering}
    (h : synthesize d p.topology p.order = .ok rs) (hr : r ∈ rs) :
    ∃ o : Object, o.Of spec ∧ r.fileName = o.stem d ++ ".yaml" := by
  obtain ⟨o, ho, hrealised⟩ := exists_left_of_forall₂ (configured_files hp h) hr
  refine ⟨o, ?_, hrealised.fileName⟩
  rcases List.mem_append.mp ho with ho | ho
  · obtain ⟨a, -, ha⟩ := List.mem_flatMap.mp ho
    exact hp.of_mem_objectsAt ha
  · rw [List.mem_singleton.mp ho]
    trivial

end Endings

/-- Under an accepted configuration with a namespace, the synthesis of a plan succeeds exactly if
every node has what it needs, the numbers of the manifests can be written out, and the name for
tracing holds no separator. It fails for the first node along the order that lacks something, as
documented, or at the first that has too long a number. Without such nodes it fails on its own
output if the name for tracing holds a separator. There is no other way to fail. The names of all
other files are fit, and every generated file has one of these names or that for tracing. -/
theorem synthesis_verdict (hspec : spec.Validated) (hd : d.Validated) (hns : d.ns ≠ none)
    (hplan : (plan spec).2 = .ok p) :
    ((∃ rs, synthesize d p.topology p.order = .ok rs) ↔
      (spec.Supplied d ∧ spec.Writable d) ∧ FileSafe d.tracing.configName) ∧
    ((∃ e : Fault, synthesize d p.topology p.order = .error (.fault e) ∧ e.OfSupply) ↔
      spec.FirstAt d p.order fun a => ¬ spec.ProvidedAt d a) ∧
    (synthesize d p.topology p.order = .error .tooLong ↔
      spec.FirstAt d p.order fun a => spec.ProvidedAt d a ∧ ¬ spec.WritableAt d a) ∧
    (synthesize d p.topology p.order = .error .badFileName ↔
      (spec.Supplied d ∧ spec.Writable d) ∧ ¬ FileSafe d.tracing.configName) ∧
    (∀ f, synthesize d p.topology p.order = .error f →
      f = .tooLong ∨ f = .badFileName ∨ ∃ e : Fault, f = .fault e ∧ e.OfSupply) ∧
    (spec.Writable d →
      ((spec.FirstAt d p.order fun a => ¬ spec.ProvidedAt d a) ↔ ¬ spec.Supplied d)) ∧
    (∀ o : Object, o.Of spec → o ≠ .tracing →
      Artifact.fileNameDefect? (o.stem d ++ ".yaml") = none) ∧
    ∀ rs, synthesize d p.topology p.order = .ok rs → ∀ r ∈ rs,
      ∃ o : Object, o.Of spec ∧ r.fileName = o.stem d ++ ".yaml" := by
  have hp := planned_of_plan_eq_ok hplan
  have hspelled : Label.Spelled d.nsText := by
    rw [← Deployment.settled_eq_self "" hns]
    exact Deployment.spelled_nsText_settled hd (.inl hns)
  obtain ⟨hok, hfault, hlong, hbad⟩ := hp.synthesis_iff hspec.named hns hspelled.fileSafe
  refine ⟨hok, hfault, hlong, hbad, fun f hf => ?_,
    hp.lacks_iff hspec.named hns hspelled.fileSafe, fun o ho hne => ?_,
    fun rs hrs r => hp.exists_object_of_synthesize hrs⟩
  · -- the four endings of a synthesis exclude one another
    rcases hp.synthesis_cases hspec.named hns hspelled.fileSafe with
      ⟨-, -, rs, hrs⟩ | ⟨-, -, hfail⟩ | ⟨-, hfail⟩ | ⟨-, e, hfail, hof⟩
    · cases hrs.symm.trans hf
    · exact .inr (.inl (Except.error.inj (hf.symm.trans hfail)))
    · exact .inl (Except.error.inj (hf.symm.trans hfail))
    · exact .inr (.inr ⟨e, Except.error.inj (hf.symm.trans hfail), hof⟩)
  · have hstem := ho.spelled_stem hspec.named hp.declared hp.legal hspelled hne
    rw [Artifact.fileNameDefect?_yaml, if_pos hstem.fileSafe]

section Traced

/-- A configuration for a pipeline to the sink `reports`, with a namespace and a name for
tracing. -/
def Deployment.tracedBy (name : String) : Deployment :=
  { Deployment.toSink "reports" with
    ns := some "demo"
    tracing := { (Deployment.toSink "reports").tracing with configName := name } }

/-- The document of such a configuration. -/
def Deployment.documentTracedBy (name : String) : Value :=
  .map [(.str "namespace", .str "demo"),
    (.str "brokers", .list [.str "my-cluster-kafka-brokers.kafka:9092"]),
    (.str "source_topics", .map [(.str "orders", .str "raw")]),
    (.str "sink_topics", .map [(.str "reports", .str "done")]),
    (.str "observability", .map [(.str "config_name", .str name)])]

theorem exists_plan_toSink : ∃ p, (plan (Spec.toSink "reports")).2 = .ok p := by
  obtain ⟨c, hc⟩ := exists_compile_toSink (by decide)
    ⟨Spec.documentToSink "reports", rfl⟩ ⟨Deployment.documentToSink "reports", rfl⟩
  obtain ⟨p, -, -, -, hplan, -⟩ := compile_eq_ok_iff.mp hc
  exact ⟨p, hplan⟩

/-- The name for tracing makes no difference to what the nodes have. -/
theorem ready_tracedBy : (Spec.toSink "reports").Supplied (Deployment.tracedBy name) ∧
    (Spec.toSink "reports").Writable (Deployment.tracedBy name) := by
  have hholds : (Spec.toSink "reports").Supplied (Deployment.toSink "reports") :=
    holds_toSink (by decide) .supplied
  have hnumbers : ∀ n ∈ Deployment.builtIn.ownNumbers ++ Deployment.builtIn.streamNumbers,
      Decimal.isWritable n = true := by decide
  exact ⟨⟨hholds.processor, hholds.source, hholds.sink⟩, Spec.writable_of_numbers hnumbers⟩

/-- With a plain name for tracing, synthesis succeeds. -/
theorem synthesis_verdict_plain :
    (Spec.toSink "reports").Validated ∧ (Deployment.tracedBy "tracing").Validated ∧
    (Deployment.tracedBy "tracing").ns ≠ none ∧
    ∃ p, (plan (Spec.toSink "reports")).2 = .ok p ∧
      ∃ rs, synthesize (Deployment.tracedBy "tracing") p.topology p.order = .ok rs := by
  have hspec : (Spec.toSink "reports").Validated := ⟨Spec.documentToSink "reports", rfl⟩
  have hd : (Deployment.tracedBy "tracing").Validated :=
    ⟨Deployment.documentTracedBy "tracing", rfl⟩
  have hns : (Deployment.tracedBy "tracing").ns ≠ none := nofun
  obtain ⟨p, hplan⟩ := exists_plan_toSink
  have htraced : FileSafe (Deployment.tracedBy "tracing").tracing.configName := by decide
  exact ⟨hspec, hd, hns, p, hplan,
    (synthesis_verdict hspec hd hns hplan).1.mpr ⟨ready_tracedBy, htraced⟩⟩

/-- A configuration with a slash in the name for tracing is accepted, but nothing can be synthesized
under it, and the failure is none of those that are documented. -/
theorem tracing_name_rejected :
    (Spec.toSink "reports").Validated ∧ (Deployment.tracedBy "team/tracing").Validated ∧
    (Deployment.tracedBy "team/tracing").ns ≠ none ∧
    ∃ p, (plan (Spec.toSink "reports")).2 = .ok p ∧
      synthesize (Deployment.tracedBy "team/tracing") p.topology p.order = .error .badFileName ∧
      ∀ e : Fault, synthesize (Deployment.tracedBy "team/tracing") p.topology p.order ≠
        .error (.fault e) := by
  have hspec : (Spec.toSink "reports").Validated := ⟨Spec.documentToSink "reports", rfl⟩
  have hd : (Deployment.tracedBy "team/tracing").Validated :=
    ⟨Deployment.documentTracedBy "team/tracing", rfl⟩
  have hns : (Deployment.tracedBy "team/tracing").ns ≠ none := nofun
  obtain ⟨p, hplan⟩ := exists_plan_toSink
  have htraced : ¬ FileSafe (Deployment.tracedBy "team/tracing").tracing.configName := by decide
  have hsafe : FileSafe (Deployment.tracedBy "team/tracing").nsText := by decide
  have hfail : synthesize (Deployment.tracedBy "team/tracing") p.topology p.order =
      .error .badFileName :=
    ((planned_of_plan_eq_ok hplan).synthesis_iff hspec.named hns hsafe).2.2.2.mpr
      ⟨ready_tracedBy, htraced⟩
  refine ⟨hspec, hd, hns, p, hplan, hfail, fun e he => ?_⟩
  cases hfail.symm.trans he

end Traced

end StreamMesh
