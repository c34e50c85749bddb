import StreamMesh.Proofs.Compile.Shape

/-!
# Errors that earlier stages rule out

Every stage looks names up on its own and has an error for what it does not find. Most of these
errors can no longer occur by the time the stage is reached. Once the connections are checked and
ordered, registering them can fail for a second input only. In a plan all names are declared and all
connections are legal, so synthesis fails where a topic is missing or a processor has no input, and
a missing topic of a source is found at the source, which comes before what it feeds.

## Main definitions

* `Mesh.ReachesInput`, `Mesh.inputResult` — synthesis gets as far as the input of a processor, and
  what registering it comes to
* `Spec.Lacks` — the faults that are left for synthesis
* `RuledOut` — the errors that synthesis cannot end in

## Main results

* `Mesh.ReachesInput.synthesize_eq` — a fault at the input of a processor is that of synthesis
* `Planned.registerInput_eq_error` — the input of a processor fails for having no feeder only
* `Planned.lacks_of_synthesize` — every fault of synthesis is one of those that are left
* `errors_ruled_out` — what registering and synthesis cannot fail with
-/

namespace StreamMesh

open Mesh

variable {spec : Spec} {d : Deployment} {p : Plan} {t : Topology} {q : Processor}
  {a b x : String} {before after : List String} {nodes : List Rendering} {e : Fault}

/-- Synthesis gets as far as the input of a processor: the manifests of all nodes before it are
made, and its output is registered. -/
structure Mesh.ReachesInput (d : Deployment) (t : Topology) (order : List String) (a : String)
    (q : Processor) : Prop where
  before : ∃ before after nodes, order = before ++ a :: after ∧ blocks d t before = .ok nodes
  output : ∃ target input env, t.find? a = some (.processor a target input env) ∧
    (Processor.fresh a env).registerOutput d target (t.kindOf? target) = (q, .ok ())

/-- What registering the input of a processor comes to during synthesis. -/
def Mesh.inputResult (d : Deployment) (t : Topology) (a : String) (q : Processor) :
    Except Fault Unit :=
  (q.registerInput d (t.inputOf? a) ((t.inputOf? a).bind t.kindOf?)).2

/-- The faults that are left for synthesis: a source or a sink has no topic, or nothing connects to
a processor. -/
inductive Spec.Lacks (spec : Spec) (d : Deployment) : Fault → Prop
  | sourceTopic {a : String} {e : Fault} : spec.Has .source a → d.sourceTopic a = .error e →
      spec.Lacks d e
  | sinkTopic {a : String} {e : Fault} : spec.Has .sink a → d.sinkTopic a = .error e →
      spec.Lacks d e
  | input {a : String} : spec.Has .processor a → (∀ x, ¬ spec.Connects x a) →
      spec.Lacks d (.invalidInputKind a none none)

theorem Mesh.ReachesInput.name_eq {order : List String} (h : ReachesInput d t order a q) :
    q.name = a := by
  obtain ⟨target, input, env, -, hout⟩ := h.output
  obtain ⟨drain, -, rfl⟩ := Processor.registerOutput_eq_ok_iff.mp hout
  rfl

/-- A fault at the input of a processor is that of synthesis. -/
theorem Mesh.ReachesInput.synthesize_eq {order : List String} (h : ReachesInput d t order a q)
    (hns : d.ns ≠ none) (hfail : inputResult d t a q = .error e) :
    synthesize d t order = .error (.fault e) := by
  obtain ⟨before, after, nodes, rfl, hnodes⟩ := h.before
  obtain ⟨target, input, env, hn, hout⟩ := h.output
  have hin : q.registerInput d (t.inputOf? a) ((t.inputOf? a).bind t.kindOf?) =
      ((q.registerInput d (t.inputOf? a) ((t.inputOf? a).bind t.kindOf?)).1, .error e) :=
    Prod.ext rfl hfail
  have hnode : nodeRenderings d t (.processor a target input env) = .error (.fault e) := by
    simp only [nodeRenderings, processorRenderings, hout]
    rw [hin]
    rfl
  have hsome : d.ns.isNone = false := by
    cases hns' : d.ns with
    | none => exact absurd hns' hns
    | some ns => rfl
  simp only [synthesize, hsome, blocks_eq_error_of_node hnodes hn hnode, bind, Except.bind]
  rfl

namespace Planned

variable (hp : Planned spec p)

include hp

/-- What connects to a node comes before it. -/
theorem mem_before (horder : p.order = before ++ a :: after) (hxa : spec.Connects x a) :
    x ∈ before := by
  have hlt := hp.order_lt hxa
  have hnodup : p.order.Nodup := hp.order_perm.nodup_iff.mpr hp.wellFormed.nodup
  rw [horder] at hlt hnodup
  -- the node is listed where it is met, and not before
  have ha : a ∉ before := fun h =>
    (List.nodup_append.mp hnodup).2.2 a h a (List.mem_cons_self ..) rfl
  by_contra hx
  rw [List.idxOf_append_of_notMem hx, List.idxOf_append_of_notMem ha, List.idxOf_cons_self] at hlt
  omega

/-- By the time that a node is reached, the topics of all sources that feed it were found. -/
theorem exists_sourceTopic (horder : p.order = before ++ a :: after)
    (hnodes : blocks d p.topology before = .ok nodes) (hx : spec.Has .source x)
    (hxa : spec.Connects x a) : ∃ topic, d.sourceTopic x = .ok topic := by
  obtain ⟨bs, hbs, -⟩ := blocks_eq_ok_iff.mp hnodes
  obtain ⟨block, -, n, hn, hblock⟩ := exists_right_of_forall₂ hbs (hp.mem_before horder hxa)
  obtain ⟨m, hm, hk⟩ := Topology.kindOf?_eq_some_iff.mp (hp.kindOf?_eq_some_iff.mpr hx)
  cases hn.symm.trans hm
  obtain rfl := hp.wellFormed.name_eq hn
  -- the block of a source is made from its topic
  cases (block_of_nodeRenderings hblock).1 with
  | source htopic => exact ⟨_, htopic⟩
  | processor | sink => cases hk

/-- The input of a processor fails only if nothing connects to the processor. -/
theorem registerInput_eq_error (hreach : ReachesInput d p.topology p.order a q)
    (h : inputResult d p.topology a q = .error e) :
    e = .invalidInputKind a none none ∧ spec.Has .processor a ∧ ∀ x, ¬ spec.Connects x a := by
  obtain ⟨before, after, nodes, horder, hnodes⟩ := hreach.before
  obtain ⟨target, input, env, hn, -⟩ := hreach.output
  have hinput : ∀ x, p.topology.inputOf? a = some x ↔ spec.Connects x a :=
    fun x => hp.inputOf?_eq_some_iff hn rfl
  have ha : spec.Has .processor a :=
    hp.kindOf?_eq_some_iff.mp (Topology.kindOf?_eq_some_iff.mpr ⟨_, hn, rfl⟩)
  rcases Processor.registerInput_eq_error (Prod.ext rfl h) with ⟨x, hx, hk, htopic⟩ | ⟨hkind, rfl⟩
  · -- the topic of a source was found when its own manifests were made
    rw [hx, Option.bind_some] at hk
    obtain ⟨topic, htopic'⟩ := hp.exists_sourceTopic horder hnodes
      (hp.kindOf?_eq_some_iff.mp hk) ((hinput x).mp hx)
    cases htopic.symm.trans htopic'
  · -- the kinds of what connects to a processor are known, so nothing does
    have hnone : ∀ x, ¬ spec.Connects x a := by
      intro x hxa
      have hx := (hinput x).mpr hxa
      obtain ⟨hsource, hprocessor⟩ := hkind x hx
      rw [hx, Option.bind_some, Ne, hp.kindOf?_eq_some_iff] at hsource hprocessor
      exact (hp.declared.has_of_connects hxa).elim hsource hprocessor
    have hno : p.topology.inputOf? a = none :=
      Option.eq_none_iff_forall_ne_some.mpr fun x hx => hnone x ((hinput x).mp hx)
    refine ⟨?_, ha, hnone⟩
    rw [hno, hreach.name_eq]
    rfl

/-- The fault of a node's manifests is one of those that are left, if all nodes before it were made.
-/
theorem lacks_of_nodeRenderings {n : Node} (horder : p.order = before ++ a :: after)
    (hnodes : blocks d p.topology before = .ok nodes) (hn : p.topology.find? a = some n)
    (h : nodeRenderings d p.topology n = .error (.fault e)) : spec.Lacks d e := by
  have hhas := hp.has_of_find? hn
  cases n with
  | source => exact .sourceTopic hhas (sourceTopic_eq_error_of_nodeRenderings h)
  | sink => exact .sinkTopic hhas (sinkTopic_eq_error_of_nodeRenderings h)
  | processor name target input env =>
    obtain rfl : name = a := hp.wellFormed.name_eq hn
    rcases processorRenderings_eq_error h with
      ⟨q, e', hout, he⟩ | ⟨q, hout, ⟨q', e', hin, he⟩ | ⟨q', -, hfiles⟩⟩
    · cases he
      rcases Processor.registerOutput_eq_error hout with ⟨hk, htopic⟩ | ⟨hprocessor, hsink, -⟩
      · exact .sinkTopic (hp.kindOf?_eq_some_iff.mp hk) htopic
      · -- the target is of a kind that can be fed
        exact ((hp.kindOf?_target ⟨_, hn, rfl⟩).elim hprocessor hsink).elim
    · cases he
      have hreach : ReachesInput d p.topology p.order name q :=
        ⟨⟨before, after, nodes, horder, hnodes⟩, target, input, env, hn, hout⟩
      obtain ⟨rfl, ha, hnone⟩ := hp.registerInput_eq_error hreach (congrArg Prod.snd hin)
      exact .input ha hnone
    · exact absurd hfiles Processor.renderings_ne_fault

/-- Every fault of synthesis is one of those that are left. -/
theorem lacks_of_synthesize (h : synthesize d p.topology p.order = .error (.fault e)) :
    spec.Lacks d e := by
  obtain ⟨before, a, after, horder, ⟨nodes, hnodes⟩, hnone | ⟨n, hn, hfault⟩⟩ :=
    blocks_eq_error (blocks_eq_error_of_synthesize h)
  · -- all names of the order are declared
    have ha : a ∈ p.order := horder ▸ List.mem_append_right _ (List.mem_cons_self ..)
    obtain ⟨n, hn⟩ := Topology.mem_names_iff.mp (hp.order_perm.mem_iff.mp ha)
    cases hnone.symm.trans hn
  · exact hp.lacks_of_nodeRenderings horder hnodes hn hfault

end Planned

/-- The errors that synthesis along an order cannot end in. -/
structure RuledOut (spec : Spec) (d : Deployment) (t : Topology) (order : List String) : Prop where
  lacks : ∀ e, synthesize d t order = .error (.fault e) → spec.Lacks d e
  unknownComponent : ∀ name kind, synthesize d t order ≠
    .error (.fault (.unknownComponent name kind))
  outputKind : ∀ a b k, synthesize d t order ≠ .error (.fault (.invalidOutputKind a b k))
  /-- An input of the wrong kind is none, and nothing connects to the processor. -/
  inputKind : ∀ a x k, synthesize d t order = .error (.fault (.invalidInputKind a x k)) →
    x = none ∧ spec.Has .processor a ∧ ∀ y, ¬ spec.Connects y a
  /-- A topic is never found missing at the input of a processor. -/
  unmappedInput : ∀ a q, ReachesInput d t order a q →
    ∀ node mapping names, inputResult d t a q ≠ .error (.unmappedTopic node mapping names)

/-- Nothing that is left concerns what is not declared or not connected rightly. -/
theorem Spec.Lacks.cases (h : spec.Lacks d e) :
    (∃ node mapping names, e = .unmappedTopic node mapping names) ∨
      ∃ a, e = .invalidInputKind a none none ∧ spec.Has .processor a ∧
        ∀ x, ¬ spec.Connects x a := by
  cases h with
  | sourceTopic _ htopic => exact .inl ⟨_, _, _, topicIn_eq_error htopic⟩
  | sinkTopic _ htopic => exact .inl ⟨_, _, _, topicIn_eq_error htopic⟩
  | input ha hnone => exact .inr ⟨_, rfl, ha, hnone⟩

/-- In a plan the faults that are left leave no room for the others. -/
theorem Planned.ruledOut (hp : Planned spec p) : RuledOut spec d p.topology p.order where
  lacks e h := hp.lacks_of_synthesize h
  unknownComponent name kind h := by
    rcases (hp.lacks_of_synthesize h).cases with ⟨_, _, _, he⟩ | ⟨_, he, -⟩ <;> cases he
  outputKind a b k h := by
    rcases (hp.lacks_of_synthesize h).cases with ⟨_, _, _, he⟩ | ⟨_, he, -⟩ <;> cases he
  inputKind a x k h := by
    rcases (hp.lacks_of_synthesize h).cases with ⟨_, _, _, he⟩ | ⟨_, he, ha, hnone⟩
    · cases he
    · cases he
      exact ⟨rfl, ha, hnone⟩
  unmappedInput a q hreach node mapping names h := by
    cases (hp.registerInput_eq_error hreach h).1

/-- Once the connections of a declared topology are checked and ordered, registering them fails
exactly if a processor has two inputs, and with this error. With a plan, synthesis fails for missing
topics and for processors that nothing connects to, and a topic is not missed at the input of a
processor any more. -/
theorem errors_ruled_out (spec : Spec) :
    (∀ t g order, (Topology.ofSpec spec).2 = .ok t → t.graph = .ok g → g.order = .ok order →
      ((∃ t' f, t.registerInputs = (t', some f)) ↔ ¬ spec.SingleInput) ∧
      ∀ t' f, t.registerInputs = (t', some f) →
        ∃ processor known other, f = .secondInput processor known other) ∧
    ∀ p d, (plan spec).2 = .ok p → RuledOut spec d p.topology p.order := by
  constructor
  · intro t g order ht hgraph _
    obtain ⟨nodes, ht⟩ := Topology.represents_of_ofSpec ht
    obtain ⟨hlegal, -⟩ := Topology.graph_spec ht.wellFormed hgraph
    refine ⟨⟨?_, ?_⟩, fun t' f h => (ht.secondInput_of_registerInputs hlegal h).1⟩
    · rintro ⟨t', f, h⟩
      exact (ht.secondInput_of_registerInputs hlegal h).2
    · intro hsingle
      rcases hreg : t.registerInputs with ⟨t', _ | f⟩
      · exact absurd ((ht.registerInputs_isOk_iff hlegal).mp ⟨t', hreg⟩) hsingle
      · exact ⟨t', f, rfl⟩
  · intro p d hplan
    exact (planned_of_plan_eq_ok hplan).ruledOut

section Orphan

/-- A pipeline in which two sources feed one processor. -/
def Spec.merging : Spec where
  name := some "demo"
  steps := some [
    ⟨some "first", some "source", some "merge", []⟩,
    ⟨some "second", some "source", some "merge", []⟩,
    ⟨some "merge", some "processor", some "out", []⟩,
    ⟨some "out", some "sink", none, []⟩]

/-- A pipeline in which nothing feeds the processor. -/
def Spec.orphan : Spec where
  name := some "demo"
  steps := some [
    ⟨some "count", some "processor", some "out", []⟩,
    ⟨some "out", some "sink", none, []⟩]

/-- The plan of the pipeline in which nothing feeds the processor. -/
def Plan.orphan : Plan where
  topology :=
    ⟨"demo", ⟨[("count", .processor "count" "out" none .empty), ("out", .sink "out" ["count"])]⟩⟩
  order := ["count", "out"]

theorem plan_orphan : (plan Spec.orphan).2 = .ok Plan.orphan := by
  refine plan_eq_ok_iff.mpr ⟨_, rfl, Topology.plan_eq_ok_iff.mpr ⟨_, rfl, ?_, rfl⟩⟩
  -- the search enters and leaves both nodes, and then passes over the second as a root
  iterate 5 refine Eq.trans (Search.run_of_step rfl) ?_
  exact Search.run_of_ordered rfl

theorem reachesInput_orphan : ReachesInput (Deployment.sample.settled "demo")
    Plan.orphan.topology Plan.orphan.order "count"
    ((Processor.fresh "count" .empty).withDrain (Deployment.sample.settled "demo") (.sink "out"))
      where
  before := ⟨[], ["out"], [], rfl, rfl⟩
  output := ⟨"out", none, .empty, rfl,
    Processor.registerOutput_eq_ok_iff.mpr ⟨.sink "out", .sink rfl rfl, rfl⟩⟩

theorem synthesize_orphan :
    synthesize (Deployment.sample.settled "demo") Plan.orphan.topology Plan.orphan.order =
      .error (.fault (.invalidInputKind "count" none none)) :=
  reachesInput_orphan.synthesize_eq nofun rfl

/-- The connections of the pipeline with two sources are in order, but cannot be registered. -/
theorem registerInputs_merging : ∃ t g t', (Topology.ofSpec Spec.merging).2 = .ok t ∧
    t.graph = .ok g ∧ g.order = .ok ["second", "first", "merge", "out"] ∧
    t.registerInputs = (t', some (.secondInput "merge" "first" "second")) := by
  refine ⟨_, _, _, rfl, rfl, ?_, rfl⟩
  -- entering and leaving four nodes, and passing over three that are finished by then
  iterate 11 refine Eq.trans (Search.run_of_step rfl) ?_
  exact Search.run_of_ordered rfl

/-- Registering fails where two sources feed one processor, and synthesis where nothing does. -/
theorem errors_ruled_out_orphan :
    (∃ t g order t' f, (Topology.ofSpec Spec.merging).2 = .ok t ∧ t.graph = .ok g ∧
      g.order = .ok order ∧ t.registerInputs = (t', some f) ∧ ¬ Spec.merging.SingleInput ∧
      ∃ processor known other, f = .secondInput processor known other) ∧
    ∃ p d e q, (plan Spec.orphan).2 = .ok p ∧ d.ns ≠ none ∧
      synthesize d p.topology p.order = .error (.fault e) ∧ Spec.orphan.Lacks d e ∧
      ReachesInput d p.topology p.order "count" q ∧
      ∀ node mapping names,
        inputResult d p.topology "count" q ≠ .error (.unmappedTopic node mapping names) := by
  constructor
  · obtain ⟨t, g, t', ht, hgraph, horder, hreg⟩ := registerInputs_merging
    have h := (errors_ruled_out Spec.merging).1 t g _ ht hgraph horder
    exact ⟨t, g, _, t', _, ht, hgraph, horder, hreg, h.1.mp ⟨t', _, hreg⟩, h.2 t' _ hreg⟩
  · have h := (errors_ruled_out Spec.orphan).2 Plan.orphan (Deployment.sample.settled "demo")
      plan_orphan
    exact ⟨Plan.orphan, Deployment.sample.settled "demo", _, _, plan_orphan, nofun,
      synthesize_orphan, h.lacks _ synthesize_orphan, reachesInput_orphan,
      h.unmappedInput _ _ reachesInput_orphan⟩

end Orphan

end StreamMesh
