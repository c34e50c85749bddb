import StreamMesh.Proofs.Compile.StepOrder

/-!
# The files of a node depend on its neighbourhood only

Steps are declared into one topology, ordered and wired all together, and the files of every node
are looked up from there. Still nothing of a step that is no neighbour shows in the files of a node:
two pipelines that agree on a step, on what it feeds and on what feeds it have the same block of
files for it, whatever else they declare, and in whatever order.

## Main results

* `block_of_neighbourhood` — the block of a step in two pipelines that agree around it
-/

namespace StreamMesh

variable {spec spec' : Spec} {config config' : Deployment} {c c' : Compiled} {s s' : Step}
  {a : String}

/-- Configurations that are resolved to the same are settled to the same. -/
theorem Deployment.settled_eq_of_resolve_eq {name name' : String} (hconfig : config.Validated)
    (hconfig' : config'.Validated) (hname : config.ns ≠ none ∨ Label.isNamespace name = true)
    (h : config.resolve name = config'.resolve name') :
    config.settled name = config'.settled name' := by
  have hresolve : config.resolve name = .accepted (config.settled name) :=
    (resolve_eq_accepted_iff hconfig).mpr ⟨hname, rfl⟩
  exact ((resolve_eq_accepted_iff hconfig').mp (h.symm.trans hresolve)).2

/-- Two pipelines that say the same of a step and of what is around it, and compile under
configurations that are resolved to the same, have the same block of files for the step. The files
of each are the blocks of its steps along the order, followed by that of tracing. -/
theorem block_of_neighbourhood (hconfig : config.Validated) (hconfig' : config'.Validated)
    (h : compile spec config = .ok c) (h' : compile spec' config' = .ok c')
    (hresolve : config.resolve c.pipeline = config'.resolve c'.pipeline)
    (hs : s ∈ spec.stepList) (hs' : s' ∈ spec'.stepList) (ha : s.name = some a)
    (haround : spec.SameAround spec' s s') :
    blockOf spec config a = blockOf spec' config' a ∧ a ∈ c.order ∧ a ∈ c'.order ∧
      c.renderings = c.order.flatMap (blockOf spec config) ++
        [Mesh.tracingFile (config.settled c.pipeline)] ∧
      c'.renderings = c'.order.flatMap (blockOf spec' config') ++
        [Mesh.tracingFile (config'.settled c'.pipeline)] := by
  have hc := compilation_of_compile_eq_ok hconfig h
  have hc' := compilation_of_compile_eq_ok hconfig' h'
  have ha' : s'.name = some a := haround.name.symm.trans ha
  obtain ⟨hblock, -⟩ := blockOf_spec hconfig h hs ha
  obtain ⟨hblock', -⟩ := blockOf_spec hconfig' h' hs' ha'
  -- the two blocks are made under the same configuration
  rw [← Deployment.settled_eq_of_resolve_eq hconfig hconfig' hc.namespaced hresolve] at hblock'
  exact ⟨haround.block_eq hc.declared hc.singleInput hs hblock hblock', hc.mem_order hs ha,
    hc'.mem_order hs' ha', renderings_eq_blocks hconfig h, renderings_eq_blocks hconfig' h'⟩

section Sample

/-- The configuration of the sample, with the namespace that it gets there written out. -/
def Deployment.inDemo : Deployment := { Deployment.sample with ns := some "demo" }

theorem Deployment.validated_inDemo : Deployment.inDemo.Validated := by
  refine ⟨.map [(.str "namespace", .str "demo"),
    (.str "brokers", .list [.str "my-cluster-kafka-brokers.kafka:9092"]),
    (.str "source_topics", .map [(.str "in", .str "orders")]),
    (.str "sink_topics", .map [(.str "out", .str "reports")])], ?_⟩
  rfl

/-- A pipeline of another name, declared from its sink to its source, in which the first processor
has other settings than in the sample. -/
def Spec.backwards : Spec where
  name := some "shop"
  steps := some [
    ⟨some "out", some "sink", none, []⟩,
    ⟨some "count", some "processor", some "out", []⟩,
    ⟨some "clean", some "processor", some "count", [⟨"LEVEL", "debug"⟩]⟩,
    ⟨some "in", some "source", some "clean", []⟩]

theorem Spec.validated_backwards : Spec.backwards.Validated := by
  refine ⟨.map [(.str "name", .str "shop"), (.str "steps", .list [
    .map [(.str "name", .str "out"), (.str "kind", .str "sink")],
    .map [(.str "name", .str "count"), (.str "kind", .str "processor"),
      (.str "connectsTo", .str "out")],
    .map [(.str "name", .str "clean"), (.str "kind", .str "processor"),
      (.str "connectsTo", .str "count"), (.str "env", .list [
        .map [(.str "name", .str "LEVEL"), (.str "value", .str "debug")]])],
    .map [(.str "name", .str "in"), (.str "kind", .str "source"),
      (.str "connectsTo", .str "clean")]])], ?_⟩
  rfl

theorem Spec.reordering_backwards :
    (Spec.chain "shop" "clean" "count" [⟨"LEVEL", "debug"⟩]).Reordering Spec.backwards :=
  ⟨rfl, .some (List.reverse_perm _).symm⟩

theorem exists_compile_backwards : ∃ c, compile Spec.backwards Deployment.inDemo = .ok c := by
  rw [compile_isOk_iff Spec.validated_backwards.named Deployment.validated_inDemo]
  refine ⟨fun r => ?_, Spec.writable_of_numbers (by decide)⟩
  have hr : r.Holds Spec.backwards Deployment.sample :=
    Spec.reordering_backwards.holds (holds_chain rfl (by decide) r)
  cases r with
  | declared | connected | acyclic | singleInput | traced => exact hr
  | namespaced => exact .inl nofun
  | supplied => exact ⟨hr.processor, hr.source, hr.sink⟩
  | encodable => exact ⟨"shop", rfl⟩

theorem sameAround_backwards : Spec.sample.SameAround Spec.backwards
    ⟨some "count", some "processor", some "out", []⟩
    ⟨some "count", some "processor", some "out", []⟩ where
  name := rfl
  kind := rfl
  connectsTo := rfl
  env _ := rfl
  target _ b k hb := by
    cases hb
    rw [← Spec.reordering_backwards.has_eq, Spec.has_sample, Spec.has_chain]
  feeder _ a x k ha := by
    cases ha
    rw [← Spec.reordering_backwards.has_eq, ← Spec.reordering_backwards.connects_eq,
      Spec.has_sample, Spec.has_chain, Spec.connects_sample, Spec.connects_chain]

/-- The processor `count` is fed and feeds alike in two pipelines that differ in their names, their
order and their settings, and has the same files in both. -/
theorem block_of_neighbourhood_backwards :
    Spec.sample.Validated ∧ Spec.backwards.Validated ∧ Deployment.sample.Validated ∧
    Deployment.inDemo.Validated ∧ Spec.sample ≠ Spec.backwards ∧
    ∃ c c', compile Spec.sample Deployment.sample = .ok c ∧
      compile Spec.backwards Deployment.inDemo = .ok c' ∧
      Deployment.sample.resolve c.pipeline = Deployment.inDemo.resolve c'.pipeline ∧
      blockOf Spec.sample Deployment.sample "count" =
        blockOf Spec.backwards Deployment.inDemo "count" := by
  obtain ⟨c, hc⟩ := exists_compile_sample
  obtain ⟨c', hc'⟩ := exists_compile_backwards
  have hname : c.pipeline = "demo" := (RawText.whole.inj <| Option.some.inj
    (compilation_of_compile_eq_ok Deployment.validated_sample hc).name).symm
  have hresolve : Deployment.sample.resolve c.pipeline = Deployment.inDemo.resolve c'.pipeline := by
    rw [hname, (Deployment.resolve_eq_accepted_iff Deployment.validated_sample).mpr
        ⟨.inr (by decide), rfl⟩,
      (Deployment.resolve_eq_accepted_iff Deployment.validated_inDemo).mpr ⟨.inl nofun, rfl⟩]
    rfl
  have hstep : (⟨some "count", some "processor", some "out", []⟩ : Step) ∈
    Spec.sample.stepList := by
    simp [Spec.stepList, Spec.sample]
  have hstep' : (⟨some "count", some "processor", some "out", []⟩ : Step) ∈
      Spec.backwards.stepList := by
    simp [Spec.stepList, Spec.backwards]
  have hsame := block_of_neighbourhood Deployment.validated_sample Deployment.validated_inDemo
    hc hc' hresolve hstep hstep' rfl sameAround_backwards
  exact ⟨Spec.validated_sample, Spec.validated_backwards, Deployment.validated_sample,
    Deployment.validated_inDemo, by decide, c, c', hc, hc', hresolve, hsame.1⟩

end Sample

end StreamMesh
