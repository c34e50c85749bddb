import Mathlib.Data.List.Perm.Basic
import StreamMesh.Proofs.Compile.Plan
import StreamMesh.Proofs.Deployment
import StreamMesh.Proofs.Mesh.Block

/-!
# The stages of a compilation

A compilation that succeeds has gone through a plan, a configuration with a settled namespace, and
a block of files for every node along the order. Taken apart in this way, its result is described
by the steps alone: every step has one block, which depends on what is declared around it.

## Main definitions

* `Spec.Block` — the files of a step
* `Spec.SameAround` — what two specifications say of a step and around it is the same
* `Compilation` — what holds of the result of a compilation
* `blockOf` — the files that a compilation makes for a node

## Main results

* `Mesh.synthesize_eq_ok_iff` — synthesis, in terms of the files of each node
* `Planned.block_iff` — a node's files in a plan are those of its step
* `compilation_of_compile_eq_ok` — what a result says of the specification
* `Spec.SameAround.block_eq` — a block is settled by what is around its step
* `blockOf_spec` — the files of a node are the block of its step
* `renderings_eq_blocks` — the files of a result, block by block
-/

namespace StreamMesh

variable {spec : Spec} {config d : Deployment} {p : Plan} {c : Compiled} {t : Topology} {n : Node}
  {s : Step} {a b x : String} {k : NodeKind} {rs : List Rendering}

namespace Mesh

/-- The file that configures tracing. -/
def tracingFile (d : Deployment) : Rendering :=
  file .monitoring d.tracing.configName (tracingManifest d)

theorem tracingObject_eq : tracingObject d =
    if FileSafe d.tracing.configName then .ok (tracingFile d) else .error .badFileName :=
  rendering_whole isWritable_tracingManifest

theorem tracingObject_eq_ok_iff {r : Rendering} :
    tracingObject d = .ok r ↔ FileSafe d.tracing.configName ∧ r = tracingFile d := by
  rw [tracingObject_eq]
  split <;> simp [*, eq_comm]

/-- The manifests along a list of names are those of its nodes, one after the other. -/
theorem blocks_eq_ok_iff {names : List String} : blocks d t names = .ok rs ↔
    ∃ bs, List.Forall₂ (fun a b => ∃ n, t.find? a = some n ∧ nodeRenderings d t n = .ok b)
      names bs ∧
      rs = bs.flatten := by
  induction names generalizing rs with
  | nil =>
    simp only [blocks, pure, Except.pure, Except.ok.injEq, List.forall₂_nil_left_iff,
      exists_eq_left, List.flatten_nil]
    exact eq_comm
  | cons a rest ih =>
    have hnode : ∀ n, Failure.ofFault (t.node a) = .ok n ↔ t.find? a = some n := fun n => by
      rw [Failure.ofFault_eq_ok_iff, Topology.node]
      cases t.find? a <;> simp
    simp only [blocks, bind_eq_ok_iff, hnode, ih, pure, Except.pure, Except.ok.injEq]
    constructor
    · rintro ⟨n, hn, block, hblock, _, ⟨bs, hbs, rfl⟩, rfl⟩
      exact ⟨block :: bs, .cons ⟨n, hn, hblock⟩ hbs, rfl⟩
    · rintro ⟨_, hbs, rfl⟩
      cases hbs with
      | @cons _ block _ bs hhead htail =>
        obtain ⟨n, hn, hblock⟩ := hhead
        exact ⟨n, hn, block, hblock, _, ⟨bs, htail, rfl⟩, rfl⟩

/-- What stops the manifests along a list of names stops those of one node, after all before it were
made. -/
theorem blocks_eq_error {names : List String} {f : Failure} (h : blocks d t names = .error f) :
    ∃ before a after, names = before ++ a :: after ∧ (∃ nodes, blocks d t before = .ok nodes) ∧
      (t.find? a = none ∨ ∃ n, t.find? a = some n ∧ nodeRenderings d t n = .error f) := by
  induction names with
  | nil => cases h
  | cons a rest ih =>
    rcases bind_eq_error_iff.mp h with hnode | ⟨n, hnode, h⟩
    · refine ⟨[], a, rest, rfl, ⟨[], rfl⟩, .inl ?_⟩
      unfold Topology.node at hnode
      cases hfind : t.find? a with
      | none => rfl
      | some n =>
        rw [hfind] at hnode
        cases hnode
    · have hfind : t.find? a = some n := by
        rw [Failure.ofFault_eq_ok_iff, Topology.node] at hnode
        split at hnode
        · cases hnode
          assumption
        · cases hnode
      rcases bind_eq_error_iff.mp h with hblock | ⟨block, hblock, h⟩
      · exact ⟨[], a, rest, rfl, ⟨[], rfl⟩, .inr ⟨n, hfind, hblock⟩⟩
      · rcases bind_eq_error_iff.mp h with hrest | ⟨_, -, h⟩
        · obtain ⟨before, b, after, rfl, ⟨nodes, hnodes⟩, hstop⟩ := ih hrest
          -- the first node was made as well
          refine ⟨a :: before, b, after, rfl, ⟨block ++ nodes, ?_⟩, hstop⟩
          simp only [blocks, hnode, hblock, hnodes, bind, Except.bind, pure, Except.pure]
        · cases h

/-- Where the manifests before a node are made, those along the list stop with the node's. -/
theorem blocks_eq_error_of_node {before after : List String} {f : Failure}
    (hbefore : blocks d t before = .ok rs) (hn : t.find? a = some n)
    (h : nodeRenderings d t n = .error f) : blocks d t (before ++ a :: after) = .error f := by
  induction before generalizing rs with
  | nil =>
    simp only [List.nil_append, blocks, Topology.node, hn, Failure.ofFault, h, bind, Except.bind]
  | cons x rest ih =>
    obtain ⟨m, hm, hrest⟩ := bind_eq_ok_iff.mp hbefore
    obtain ⟨block, hblock, hrest⟩ := bind_eq_ok_iff.mp hrest
    obtain ⟨nodes, hnodes, -⟩ := bind_eq_ok_iff.mp hrest
    simp only [List.cons_append, blocks, hm, hblock, ih hnodes, bind, Except.bind]

/-- Synthesis under a namespace makes the files of each node and then that of tracing. -/
theorem synthesize_eq_ok_iff {order : List String} : synthesize d t order = .ok rs ↔
    d.ns ≠ none ∧ FileSafe d.tracing.configName ∧
      ∃ nodes, blocks d t order = .ok nodes ∧ rs = nodes ++ [tracingFile d] := by
  unfold synthesize
  cases hns : d.ns with
  | none => simp [throw, throwThe, MonadExceptOf.throw, bind, Except.bind]
  | some ns =>
    simp only [Option.isNone_some, Bool.false_eq_true, if_false, bind_eq_ok_iff, pure, Except.pure,
      Except.ok.injEq, tracingObject_eq_ok_iff]
    constructor
    · rintro ⟨nodes, hnodes, _, ⟨hname, rfl⟩, rfl⟩
      exact ⟨nofun, hname, nodes, hnodes, rfl⟩
    · rintro ⟨-, hname, nodes, hnodes, rfl⟩
      exact ⟨nodes, hnodes, _, ⟨hname, rfl⟩, rfl⟩

/-- A fault of synthesis is one of the nodes. -/
theorem blocks_eq_error_of_synthesize {order : List String} {e : Fault}
    (h : synthesize d t order = .error (.fault e)) : blocks d t order = .error (.fault e) := by
  unfold synthesize at h
  split at h
  · cases h
  · rcases bind_eq_error_iff.mp h with h | ⟨_, -, h⟩
    · exact h
    · -- the file of tracing can only fail for its name
      rcases bind_eq_error_iff.mp h with h | ⟨_, -, h⟩
      · exact absurd h rendering_ne_fault
      · cases h

end Mesh

namespace Planned

variable (hp : Planned spec p)

include hp

theorem kindOf?_eq_some_iff : p.topology.kindOf? a = some k ↔ spec.Has k a := by
  rw [Topology.kindOf?_eq_some_iff]
  constructor
  · rintro ⟨n, hn, rfl⟩
    obtain ⟨s, hs, hwires⟩ := hp.step_of_find? hn
    obtain ⟨hkind, hname, -⟩ := hwires.facts
    exact ⟨s, hs, hkind, hname.trans (congrArg some (hp.wellFormed.name_eq hn))⟩
  · rintro ⟨s, hs, hkind, hname⟩
    obtain ⟨n, hwires, hn⟩ := hp.node_of_step hs
    obtain ⟨hkind', hname', -⟩ := hwires.facts
    have ha : n.name = a := Option.some.inj (hname'.symm.trans hname)
    exact ⟨n, ha ▸ hn,
      NodeKind.eq_of_text hkind' hkind⟩

/-- What feeds a processor in a plan is what connects to it. -/
theorem inputOf?_eq_some_iff (hn : p.topology.find? a = some n) (hk : n.kind = .processor) :
    p.topology.inputOf? a = some x ↔ spec.Connects x a := by
  obtain ⟨s, -, hwires⟩ := hp.step_of_find? hn
  obtain rfl := hp.wellFormed.name_eq hn
  rw [Topology.inputOf?, hn]
  cases hwires with
  | processor _ hinput => exact hinput x
  | source | sink => cases hk

/-- A node's files in a plan are those of its step. -/
theorem block_iff (hn : p.topology.find? a = some n) :
    Mesh.Block d (fun k x => p.topology.kindOf? x = some k)
        (fun x y => p.topology.inputOf? y = some x) n rs ↔
      Mesh.Block d spec.Has spec.Connects n rs := by
  have hhas : (fun k x => p.topology.kindOf? x = some k) = spec.Has := by
    funext k x
    exact propext hp.kindOf?_eq_some_iff
  -- only a processor has an input to speak of
  have hinput : n.kind = .processor → ∀ x,
      p.topology.inputOf? n.name = some x ↔ spec.Connects x n.name := fun hk x => by
    rw [hp.wellFormed.name_eq hn]
    exact hp.inputOf?_eq_some_iff hn hk
  rw [hhas]
  exact ⟨fun h => h.imp fun hk x => (hinput hk x).mp, fun h => h.imp fun hk x => (hinput hk x).mpr⟩

/-- No name around a node of a plan holds a separator. -/
theorem safeAround (hnamed : spec.Named) (hns : FileSafe d.nsText)
    (hn : p.topology.find? a = some n) :
    Mesh.SafeAround d p.topology n where
  ns := hns
  name := by
    obtain ⟨s, hs, hwires⟩ := hp.step_of_find? hn
    exact hnamed.fileSafe hp.declared hs hwires.facts.2.1
  target x hx := by
    obtain ⟨s, hs, hwires⟩ := hp.step_of_find? hn
    obtain ⟨-, hname, hto⟩ := hwires.facts
    have hconnects : spec.Connects n.name x := ⟨s, hs, hname, (hto x).mpr hx⟩
    -- the target is the name of a step as well, since the connection is legal
    rcases hp.legal.has_of_connects hp.declared hconnects with h | h
    · exact hnamed.fileSafe_of_has hp.declared h
    · exact hnamed.fileSafe_of_has hp.declared h
  input x hx := by
    -- only a processor has an input, and what connects to it is a step
    have hn' : p.topology.find? n.name = some n := (hp.wellFormed.name_eq hn).symm ▸ hn
    have hk : n.kind = .processor := by
      rw [Topology.inputOf?, hn'] at hx
      cases n with
      | processor => rfl
      | source | sink => cases hx
    obtain ⟨s, hs, hname, -⟩ := (hp.inputOf?_eq_some_iff hn' hk).mp hx
    exact hnamed.fileSafe hp.declared hs hname

end Planned

/-- The files of a step. -/
def Spec.Block (spec : Spec) (d : Deployment) (s : Step) (rs : List Rendering) : Prop :=
  ∃ n, spec.Wires s n ∧ Mesh.Block d spec.Has spec.Connects n rs

namespace Spec.Block

variable (h : spec.Block d s rs)

include h

theorem of_source (hk : s.kind = some (.whole NodeKind.source.text)) (ha : s.name = some a)
    (hb : s.connectsTo = some (.whole b)) : ∃ topic, d.sourceTopic a = .ok topic ∧
      rs = [Mesh.file .bindings (Mesh.ingressBinding a b) (Mesh.sourceManifest d a b topic)] := by
  obtain ⟨n, hwires, hblock⟩ := h
  obtain ⟨hkind, hname, hto⟩ := hwires.facts
  have hnode : n.kind = .source := NodeKind.eq_of_text hkind hk
  cases hblock with
  | @source name target topic htopic =>
    obtain rfl : name = a := Option.some.inj (hname.symm.trans ha)
    obtain rfl : target = b := Option.some.inj ((hto b).mp hb)
    exact ⟨topic, htopic, rfl⟩
  | processor | sink => cases hnode

theorem of_sink (hk : s.kind = some (.whole NodeKind.sink.text)) (ha : s.name = some a) :
    ∃ topic, d.sinkTopic a = .ok topic ∧
      rs = [Mesh.file .bindings (Mesh.egressBinding a) (Mesh.sinkManifest d a topic)] := by
  obtain ⟨n, hwires, hblock⟩ := h
  obtain ⟨hkind, hname, -⟩ := hwires.facts
  have hnode : n.kind = .sink := NodeKind.eq_of_text hkind hk
  cases hblock with
  | @sink name topic inputs htopic =>
    obtain rfl : name = a := Option.some.inj (hname.symm.trans ha)
    exact ⟨topic, htopic, rfl⟩
  | source | processor => cases hnode

theorem of_processor (hk : s.kind = some (.whole NodeKind.processor.text)) (ha : s.name = some a)
    (hb : s.connectsTo = some (.whole b)) :
    ∃ feed drain, Mesh.Feed.Of d (fun k x => spec.Connects x a ∧ spec.Has k x) feed ∧
      Mesh.Drain.Of d b (fun k => spec.Has k b) drain ∧
      rs = (Mesh.Processor.wired d a s.envTable feed drain).files d := by
  obtain ⟨n, hwires, hblock⟩ := h
  obtain ⟨hkind, hname, hto⟩ := hwires.facts
  have hnode : n.kind = .processor := NodeKind.eq_of_text hkind hk
  cases hblock with
  | @processor name target input env feed drain hfeed hdrain =>
    obtain rfl : name = a := Option.some.inj (hname.symm.trans ha)
    obtain rfl : target = b := Option.some.inj ((hto b).mp hb)
    cases hwires with
    | processor hd _ =>
      cases hd with
      | processor => exact ⟨feed, drain, hfeed, hdrain, rfl⟩
  | source | sink => cases hnode

end Spec.Block

/-- Two specifications say the same of a step and of what is around it: of every step its name, its
kind and its connection, of a processor also its environment, the kind of what it feeds, and the
name and the kind of what feeds it. -/
structure Spec.SameAround (spec spec' : Spec) (s s' : Step) : Prop where
  name : s.name = s'.name
  kind : s.kind = s'.kind
  connectsTo : s.connectsTo = s'.connectsTo
  env : s.kind = some (.whole NodeKind.processor.text) → s.envTable = s'.envTable
  target : s.kind = some (.whole NodeKind.processor.text) →
    ∀ b k, s.connectsTo = some (.whole b) → (spec.Has k b ↔ spec'.Has k b)
  feeder : s.kind = some (.whole NodeKind.processor.text) → ∀ a x k, s.name = some a →
    (spec.Connects x a ∧ spec.Has k x ↔ spec'.Connects x a ∧ spec'.Has k x)

theorem Spec.SameAround.refl (spec : Spec) (s : Step) : spec.SameAround spec s s where
  name := rfl
  kind := rfl
  connectsTo := rfl
  env _ := rfl
  target _ _ _ _ := Iff.rfl
  feeder _ _ _ _ _ := Iff.rfl

/-- The block of a step is settled by what is around it. -/
theorem Spec.SameAround.block_eq {spec' : Spec} {s' : Step} {rs' : List Rendering}
    (h : spec.SameAround spec' s s') (hdeclared : spec.Declared) (hsingle : spec.SingleInput)
    (hs : s ∈ spec.stepList) (hblock : spec.Block d s rs) (hblock' : spec'.Block d s' rs') :
    rs = rs' := by
  obtain ⟨k, hk⟩ := (hdeclared.complete s hs).kind
  obtain ⟨a, ha, -⟩ := (hdeclared.complete s hs).name
  have hk' : s'.kind = some (.whole k.text) := h.kind.symm.trans hk
  have ha' : s'.name = some a := h.name.symm.trans ha
  cases k with
  | source =>
    obtain ⟨b, hb, -⟩ := (hdeclared.complete s hs).origin (by rw [hk]; decide)
    obtain ⟨topic, htopic, rfl⟩ := hblock.of_source hk ha hb
    obtain ⟨topic', htopic', rfl⟩ := hblock'.of_source hk' ha' (h.connectsTo.symm.trans hb)
    rw [Except.ok.inj (htopic.symm.trans htopic')]
  | processor =>
    obtain ⟨b, hb, -⟩ := (hdeclared.complete s hs).origin (by rw [hk]; decide)
    obtain ⟨feed, drain, hfeed, hdrain, rfl⟩ := hblock.of_processor hk ha hb
    obtain ⟨feed', drain', hfeed', hdrain', rfl⟩ :=
      hblock'.of_processor hk' ha' (h.connectsTo.symm.trans hb)
    -- both ends of the other processor are ends of this one as well
    have hfeed'' : Mesh.Feed.Of d (fun k x => spec.Connects x a ∧ spec.Has k x) feed' :=
      hfeed'.imp fun k x => (h.feeder hk a x k ha).mpr
    have hdrain'' : Mesh.Drain.Of d b (fun k => spec.Has k b) drain' :=
      hdrain'.imp fun k => (h.target hk b k hb).mpr
    -- names have one kind, and the processor has one feeder
    obtain rfl := hdrain.unique hdrain'' fun hj hk => hdeclared.kind_unique hj hk
    obtain rfl := hfeed.unique hfeed'' fun hx hy => by
      obtain rfl := hsingle.unique ⟨s, hs, hk, ha⟩ hx.1 hy.1
      exact ⟨hdeclared.kind_unique hx.2 hy.2, rfl⟩
    rw [h.env hk]
  | sink =>
    obtain ⟨topic, htopic, rfl⟩ := hblock.of_sink hk ha
    obtain ⟨topic', htopic', rfl⟩ := hblock'.of_sink hk' ha'
    rw [Except.ok.inj (htopic.symm.trans htopic')]

/-- A step has one block. -/
theorem Spec.Block.unique {rs' : List Rendering} (hdeclared : spec.Declared)
    (hsingle : spec.SingleInput) (hs : s ∈ spec.stepList) (h : spec.Block d s rs)
    (h' : spec.Block d s rs') : rs = rs' :=
  (Spec.SameAround.refl spec s).block_eq hdeclared hsingle hs h h'

/-- What holds of the result of a compilation. -/
structure Compilation (spec : Spec) (config : Deployment) (c : Compiled) : Prop where
  name : spec.name = some (.whole c.pipeline)
  declared : spec.Declared
  legal : spec.Legal
  acyclic : spec.Acyclic
  singleInput : spec.SingleInput
  namespaced : config.ns ≠ none ∨ Label.isNamespace c.pipeline = true
  traced : FileSafe config.tracing.configName
  ns : c.ns = (config.settled c.pipeline).nsText
  /-- The steps in the order of the result, each with its block, and the tracing configuration. -/
  blocks : ∃ steps bs, steps.Perm spec.stepList ∧ steps.map Step.name = c.order.map some ∧
    List.Forall₂ (spec.Block (config.settled c.pipeline)) steps bs ∧
    c.renderings = bs.flatten ++ [Mesh.tracingFile (config.settled c.pipeline)]

/-- The order of a result lists every step. -/
theorem Compilation.mem_order (hc : Compilation spec config c) (hs : s ∈ spec.stepList)
    (ha : s.name = some a) : a ∈ c.order := by
  obtain ⟨steps, -, hperm, hnames, -⟩ := hc.blocks
  have hlisted : s.name ∈ steps.map Step.name := List.mem_map_of_mem (hperm.mem_iff.mpr hs)
  rw [hnames, ha] at hlisted
  exact (List.mem_map_of_injective (Option.some_injective _)).mp hlisted

theorem Compiled.checkPipeline_eq_accepted_iff {raw : RawText} {name : String} :
    checkPipeline raw = .accepted name ↔ raw = .whole name := by
  cases raw <;> simp [checkPipeline]

theorem compile_eq_ok_iff : compile spec config = .ok c ↔ ∃ p d rs name, (plan spec).2 = .ok p ∧
    p.topology.name = .whole name ∧ config.resolve (.whole name) = .accepted d ∧
    Mesh.synthesize d p.topology p.order = .ok rs ∧ c = ⟨name, d.nsText, p.order, rs⟩ := by
  simp only [compile, bind_eq_ok_iff, Failure.ofChecked_eq_ok_iff,
    Compiled.checkPipeline_eq_accepted_iff, pure, Except.pure, Except.ok.injEq]
  constructor
  · rintro ⟨p, hp, d, hd, rs, hrs, name, hname, rfl⟩
    rw [hname] at hd
    exact ⟨p, d, rs, name, hp, hname, hd, hrs, rfl⟩
  · rintro ⟨p, d, rs, name, hp, hname, hd, hrs, rfl⟩
    rw [← hname] at hd
    exact ⟨p, hp, d, hd, rs, hrs, name, hname, rfl⟩

/-- With a plan and a namespace, a compilation is left with the files of the nodes and of tracing,
and with the name of the pipeline. -/
theorem compile_of_stages (hplan : (plan spec).2 = .ok p)
    (hresolve : config.resolve p.topology.name = .accepted d) (hns : d.ns ≠ none) :
    compile spec config = do
      let nodes ← Mesh.blocks d p.topology p.order
      let tracing ← Mesh.tracingObject d
      let pipeline ← Failure.ofChecked "CompiledArtifacts"
        (Compiled.checkPipeline p.topology.name)
      return ⟨pipeline, d.nsText, p.order, nodes ++ [tracing]⟩ := by
  have hsome : d.ns.isNone = false := by
    cases h : d.ns with
    | none => exact absurd h hns
    | some ns => rfl
  simp only [compile, hplan, hresolve, Failure.ofChecked, Mesh.synthesize, hsome, bind,
    Except.bind]
  -- both sides stop at the same place; only the results of the stages have to be told apart
  cases Mesh.blocks d p.topology p.order with
  | error f => rfl
  | ok nodes => cases Mesh.tracingObject d <;> rfl

/-- Along a list of names, each node's manifests are the block of a step of that name. -/
theorem Planned.exists_steps (hp : Planned spec p)
    {names : List String} {bs : List (List Rendering)}
    (h : List.Forall₂ (fun a b => ∃ n, p.topology.find? a = some n ∧
      Mesh.nodeRenderings d p.topology n = .ok b) names bs) :
    ∃ steps, (∀ s ∈ steps, s ∈ spec.stepList) ∧ steps.map Step.name = names.map some ∧
      List.Forall₂ (spec.Block d) steps bs := by
  induction h with
  | nil => exact ⟨[], nofun, rfl, .nil⟩
  | @cons a b _ _ hhead _ ih =>
    obtain ⟨n, hn, hblock⟩ := hhead
    obtain ⟨steps, hmem, hnames, hblocks⟩ := ih
    -- the node of the name comes from a step, whose block the manifests are
    obtain ⟨s, hs, hwires⟩ := hp.step_of_find? hn
    have hname : s.name = some a :=
      hwires.facts.2.1.trans (congrArg some (hp.wellFormed.name_eq hn))
    have hblock' : spec.Block d s b :=
      ⟨n, hwires, (hp.block_iff hn).mp (Mesh.block_of_nodeRenderings hblock).1⟩
    refine ⟨s :: steps, ?_, ?_, .cons hblock' hblocks⟩
    · intro s' hs'
      rcases List.mem_cons.mp hs' with rfl | hs'
      · exact hs
      · exact hmem s' hs'
    · rw [List.map_cons, List.map_cons, hname, hnames]

/-- Steps whose names are the order of a plan are all steps, each once. -/
theorem Planned.perm_stepList (hp : Planned spec p) {steps : List Step}
    (hmem : ∀ s ∈ steps, s ∈ spec.stepList) (hnames : steps.map Step.name = p.order.map some) :
    steps.Perm spec.stepList := by
  have horder : p.order.Nodup := hp.order_perm.nodup_iff.mpr hp.wellFormed.nodup
  have hsteps : steps.Nodup := by
    refine List.Nodup.of_map Step.name ?_
    rw [hnames]
    exact horder.map (Option.some_injective _)
  -- neither list repeats a step, so it is enough to compare their members
  refine (List.perm_ext_iff_of_nodup hsteps (hp.declared.distinct.of_map _)).mpr fun s => ?_
  refine ⟨hmem s, fun hs => ?_⟩
  obtain ⟨n, hwires, hn⟩ := hp.node_of_step hs
  have hlisted : some n.name ∈ steps.map Step.name := by
    rw [hnames]
    exact List.mem_map_of_mem (hp.order_perm.mem_iff.mpr (Topology.mem_names_iff.mpr ⟨n, hn⟩))
  obtain ⟨s', hs', hname⟩ := List.mem_map.mp hlisted
  obtain rfl := hp.declared.eq_of_name hs (hmem s' hs') (hwires.facts.2.1.trans hname.symm)
  exact hs'

/-- What a result says of the specification. -/
theorem compilation_of_compile_eq_ok (hconfig : config.Validated)
    (h : compile spec config = .ok c) : Compilation spec config c := by
  obtain ⟨p, d, rs, name, hplan, hname, hd, hrs, rfl⟩ := compile_eq_ok_iff.mp h
  have hp := planned_of_plan_eq_ok hplan
  obtain ⟨hnamespaced, rfl⟩ := (Deployment.resolve_eq_accepted_iff hconfig).mp hd
  obtain ⟨-, htraced, nodes, hnodes, rfl⟩ := Mesh.synthesize_eq_ok_iff.mp hrs
  obtain ⟨bs, hbs, rfl⟩ := Mesh.blocks_eq_ok_iff.mp hnodes
  obtain ⟨steps, hmem, hnames, hblocks⟩ := hp.exists_steps hbs
  exact
    { name := hname ▸ hp.name, declared := hp.declared, legal := hp.legal, acyclic := hp.acyclic,
      singleInput := hp.singleInput, namespaced := hnamespaced, traced := htraced, ns := rfl,
      blocks := ⟨steps, bs, hp.perm_stepList hmem hnames, hnames, hblocks, rfl⟩ }

/-- The files that a compilation makes for the node of a name; none where it does not get there. -/
def blockOf (spec : Spec) (config : Deployment) (a : String) : List Rendering :=
  match (plan spec).2 with
  | .error _ => []
  | .ok p => match config.resolve p.topology.name, p.topology.find? a with
    | .accepted d, some n => match Mesh.nodeRenderings d p.topology n with
      | .error _ => []
      | .ok rs => rs
    | _, _ => []

/-- The files of a node are the block of its step, and all of them are among the files of the
result. -/
theorem blockOf_spec (hconfig : config.Validated)
    (h : compile spec config = .ok c) (hs : s ∈ spec.stepList) (ha : s.name = some a) :
    spec.Block (config.settled c.pipeline) s (blockOf spec config a) ∧
      ∀ r ∈ blockOf spec config a, r ∈ c.renderings := by
  obtain ⟨p, d, rs, name, hplan, hpipeline, hd, hrs, rfl⟩ := compile_eq_ok_iff.mp h
  have hp := planned_of_plan_eq_ok hplan
  obtain ⟨hnamespaced, rfl⟩ := (Deployment.resolve_eq_accepted_iff hconfig).mp hd
  obtain ⟨-, -, nodes, hnodes, rfl⟩ := Mesh.synthesize_eq_ok_iff.mp hrs
  obtain ⟨bs, hbs, rfl⟩ := Mesh.blocks_eq_ok_iff.mp hnodes
  obtain ⟨n, hwires, hn⟩ := hp.node_of_step hs
  obtain rfl := Option.some.inj (hwires.facts.2.1.symm.trans ha)
  -- the order lists the node, so its manifests are among those that were made along it
  have hlisted : n.name ∈ p.order :=
    hp.order_perm.mem_iff.mpr (Topology.mem_names_iff.mpr ⟨n, hn⟩)
  obtain ⟨block, hmem, n', hn', hblock⟩ := exists_right_of_forall₂ hbs hlisted
  obtain rfl := Option.some.inj (hn.symm.trans hn')
  have hof : blockOf spec config n.name = block := by
    simp only [blockOf, hplan, hpipeline, hd, hn, hblock]
  rw [hof]
  refine ⟨⟨n, hwires, (hp.block_iff hn).mp ?_⟩, fun r hr => ?_⟩
  · exact (Mesh.block_of_nodeRenderings hblock).1
  · exact List.mem_append_left _ (List.mem_flatten.mpr ⟨block, hmem, hr⟩)

/-- The files of a result are the blocks of its nodes along the order, and then that of tracing. -/
theorem renderings_eq_blocks (hconfig : config.Validated) (h : compile spec config = .ok c) :
    c.renderings = c.order.flatMap (blockOf spec config) ++
      [Mesh.tracingFile (config.settled c.pipeline)] := by
  obtain ⟨p, d, rs, name, hplan, hpipeline, hd, hrs, rfl⟩ := compile_eq_ok_iff.mp h
  obtain ⟨-, rfl⟩ := (Deployment.resolve_eq_accepted_iff hconfig).mp hd
  obtain ⟨-, -, nodes, hnodes, rfl⟩ := Mesh.synthesize_eq_ok_iff.mp hrs
  obtain ⟨bs, hbs, rfl⟩ := Mesh.blocks_eq_ok_iff.mp hnodes
  have hmap : bs.map id = p.order.map (blockOf spec config) := by
    refine map_eq_map_of_forall₂ hbs ?_
    rintro a b ⟨n, hn, hblock⟩
    simp only [blockOf, hplan, hpipeline, hd, hn, hblock, id_eq]
  rw [List.flatMap_def, ← hmap, List.map_id]

end StreamMesh
