import StreamMesh.Proofs.Compile.Stages

/-!
# What the nodes of a plan need

A source and a sink need a topic, and a processor needs something that feeds it and a topic for what
it is connected to. Besides, the numbers in its manifests have to be short enough to be written out.
The nodes are made one after the other, so the first one that lacks something decides how making
them ends.

## Main definitions

* `Spec.ProvidedAt`, `Spec.WritableAt` — what one node needs
* `Spec.Supplied`, `Spec.Writable` — the same for all nodes
* `Spec.FirstAt` — the first node of an order that does not have what it needs

## Main results

* `Planned.exists_block_iff`, `Planned.writableBlock_iff` — the block of a node, by what it needs
* `Planned.blocks_verdict` — how making the nodes of a plan ends
-/

namespace StreamMesh

variable {spec : Spec} {d : Deployment} {p : Plan} {n : Node} {a x : String} {rs : List Rendering}

/-- The topics of a source or a sink, and of what a processor is connected to, are there, and
something feeds a processor. -/
structure Spec.ProvidedAt (spec : Spec) (d : Deployment) (a : String) : Prop where
  source : spec.Has .source a → ∃ topic, d.sourceTopic a = .ok topic
  sink : spec.Has .sink a → ∃ topic, d.sinkTopic a = .ok topic
  fed : spec.Has .processor a → ∃ x, spec.Connects x a
  feeder : spec.Has .processor a → ∀ x, spec.Connects x a → spec.Has .source x →
    ∃ topic, d.sourceTopic x = .ok topic
  drain : spec.Has .processor a → ∀ x, spec.Connects a x → spec.Has .sink x →
    ∃ topic, d.sinkTopic x = .ok topic

/-- The numbers in the manifests of a processor can be written out. Those of a connection only count
where another processor feeds it. -/
structure Spec.WritableAt (spec : Spec) (d : Deployment) (a : String) : Prop where
  own : spec.Has .processor a → ∀ n ∈ d.ownNumbers, Decimal.isWritable n = true
  stream : spec.Has .processor a → ∀ x, spec.Connects x a → spec.Has .processor x →
    ∀ n ∈ d.streamNumbers, Decimal.isWritable n = true

/-- Every processor is fed, and every source and every sink has a topic. -/
structure Spec.Supplied (spec : Spec) (config : Deployment) : Prop where
  processor : ∀ a, spec.Has .processor a → ∃ x, spec.Connects x a
  source : ∀ a, spec.Has .source a →
    ∃ topic : RawText, config.sourceTopics.find? a = some topic ∧ topic ≠ .whole ""
  sink : ∀ a, spec.Has .sink a →
    ∃ topic : RawText, config.sinkTopics.find? a = some topic ∧ topic ≠ .whole ""

/-- The numbers of a configuration can be written out, as far as a specification needs them. -/
def Spec.Writable (spec : Spec) (config : Deployment) : Prop := ∀ a, spec.WritableAt config a

/-- A name of an order at which something stops, while all nodes before it have what they need. -/
def Spec.FirstAt (spec : Spec) (d : Deployment) (order : List String) (stops : String → Prop) :
    Prop :=
  ∃ before a after, order = before ++ a :: after ∧
    (∀ b ∈ before, spec.ProvidedAt d b ∧ spec.WritableAt d b) ∧ stops a

/-- All nodes have what they need exactly if each of them has. -/
theorem Spec.supplied_iff : spec.Supplied d ↔ ∀ a, spec.ProvidedAt d a := by
  constructor
  · intro h a
    exact
      { source := fun ha => (h.source a ha).imp fun _ => Mesh.sourceTopic_eq_ok_iff.mpr
        sink := fun ha => (h.sink a ha).imp fun _ => Mesh.sinkTopic_eq_ok_iff.mpr
        fed := h.processor a
        feeder := fun _ x _ hx => (h.source x hx).imp fun _ => Mesh.sourceTopic_eq_ok_iff.mpr
        drain := fun _ x _ hx => (h.sink x hx).imp fun _ => Mesh.sinkTopic_eq_ok_iff.mpr }
  · intro h
    exact
      { processor := fun a => (h a).fed
        source := fun a ha => ((h a).source ha).imp fun _ => Mesh.sourceTopic_eq_ok_iff.mp
        sink := fun a ha => ((h a).sink ha).imp fun _ => Mesh.sinkTopic_eq_ok_iff.mp }

/-- There is one name at which an order stops for what does not let a node pass. -/
theorem Spec.FirstAt.exists_both {order : List String} {stops stops' : String → Prop}
    (h : spec.FirstAt d order stops) (h' : spec.FirstAt d order stops')
    (hstops : ∀ a, stops a → ¬ (spec.ProvidedAt d a ∧ spec.WritableAt d a))
    (hstops' : ∀ a, stops' a → ¬ (spec.ProvidedAt d a ∧ spec.WritableAt d a)) :
    ∃ a, stops a ∧ stops' a := by
  obtain ⟨before, a, after, rfl, hbefore, ha⟩ := h
  obtain ⟨before', b, after', horder, hbefore', hb⟩ := h'
  -- a place that lies before the other would let its node pass and stop there
  induction before generalizing before' with
  | nil =>
    cases before' with
    | nil =>
      obtain ⟨rfl, -⟩ := List.cons.inj horder
      exact ⟨a, ha, hb⟩
    | cons x rest =>
      obtain ⟨rfl, -⟩ := List.cons.inj horder
      exact absurd (hbefore' a (List.mem_cons_self ..)) (hstops a ha)
  | cons x before ih =>
    cases before' with
    | nil =>
      obtain ⟨rfl, -⟩ := List.cons.inj horder
      exact absurd (hbefore x (List.mem_cons_self ..)) (hstops' x hb)
    | cons y rest =>
      obtain ⟨-, horder⟩ := List.cons.inj horder
      exact ih (List.forall_mem_cons.mp hbefore).2 rest horder (List.forall_mem_cons.mp hbefore').2

/-- An order does not stop where all its nodes have what they need. -/
theorem Spec.FirstAt.not_forall {order : List String} {stops : String → Prop}
    (h : spec.FirstAt d order stops)
    (hstops : ∀ a, stops a → ¬ (spec.ProvidedAt d a ∧ spec.WritableAt d a)) :
    ¬ ∀ a ∈ order, spec.ProvidedAt d a ∧ spec.WritableAt d a := by
  obtain ⟨before, a, after, rfl, -, ha⟩ := h
  exact fun hall => hstops a ha (hall a (by simp))

/-- Where every number of a configuration can be written out, all that are needed can be. -/
theorem Spec.writable_of_numbers (h : ∀ n ∈ d.ownNumbers ++ d.streamNumbers,
    Decimal.isWritable n = true) : spec.Writable d := fun _ =>
  ⟨fun _ n hn => h n (List.mem_append_left _ hn),
    fun _ _ _ _ n hn => h n (List.mem_append_right _ hn)⟩

namespace Planned

variable (hp : Planned spec p)

include hp

theorem connects_of_find? (hn : p.topology.find? a = some n) (hx : n.connectsTo? = some x) :
    spec.Connects n.name x := by
  obtain ⟨s, hs, hwires⟩ := hp.step_of_find? hn
  obtain ⟨-, hname, hto⟩ := hwires.facts
  exact ⟨s, hs, hname, (hto x).mpr hx⟩

theorem has_of_find? (hn : p.topology.find? a = some n) : spec.Has n.kind n.name := by
  rw [hp.wellFormed.name_eq hn]
  exact hp.kindOf?_eq_some_iff.mp (Topology.kindOf?_eq_some_iff.mpr ⟨n, hn, rfl⟩)

/-- What a provided processor connects to is there. -/
theorem exists_drain (h : spec.ProvidedAt d a) (ha : spec.Has .processor a)
    (hab : spec.Connects a x) : ∃ drain, Mesh.Drain.Of d x (fun k => spec.Has k x) drain := by
  rcases hp.legal.has_of_connects hp.declared hab with hk | hk
  · exact ⟨_, .processor hk⟩
  · obtain ⟨topic, htopic⟩ := h.drain ha x hab hk
    exact ⟨_, .sink hk htopic⟩

/-- What feeds a provided processor is there. -/
theorem exists_feed (h : spec.ProvidedAt d a) (ha : spec.Has .processor a) :
    ∃ feed, Mesh.Feed.Of d (fun k x => spec.Connects x a ∧ spec.Has k x) feed := by
  obtain ⟨x, hx⟩ := h.fed ha
  rcases hp.declared.has_of_connects hx with hk | hk
  · obtain ⟨topic, htopic⟩ := h.feeder ha x hx hk
    exact ⟨_, .source ⟨hx, hk⟩ htopic⟩
  · exact ⟨_, .processor ⟨hx, hk⟩⟩

/-- A node of a plan has a block exactly if it has what it needs. -/
theorem exists_block_iff (hn : p.topology.find? a = some n) :
    (∃ rs, Mesh.Block d spec.Has spec.Connects n rs) ↔ spec.ProvidedAt d a := by
  have hhas := hp.has_of_find? hn
  obtain rfl := hp.wellFormed.name_eq hn
  have hkind : ∀ {k}, spec.Has k n.name → n.kind = k := hp.declared.kind_unique hhas
  constructor
  · rintro ⟨rs, hblock⟩
    cases hblock with
    | source htopic =>
      exact ⟨fun _ => ⟨_, htopic⟩, fun h => (nomatch hkind h), fun h => (nomatch hkind h),
        fun h => (nomatch hkind h), fun h => (nomatch hkind h)⟩
    | sink htopic =>
      exact ⟨fun h => (nomatch hkind h), fun _ => ⟨_, htopic⟩, fun h => (nomatch hkind h),
        fun h => (nomatch hkind h), fun h => (nomatch hkind h)⟩
    | @processor name target input env feed drain hfeed hdrain =>
      refine ⟨fun h => (nomatch hkind h), fun h => (nomatch hkind h), fun _ => ?_,
        fun _ x hx hk => ?_, fun _ x hx hk => ?_⟩
      · cases hfeed with
        | source hfed | processor hfed => exact ⟨_, hfed.1⟩
      · cases hfeed with
        | source hfed htopic =>
          obtain rfl := hp.singleInput.unique hhas hx hfed.1
          exact ⟨_, htopic⟩
        | processor hfed =>
          obtain rfl := hp.singleInput.unique hhas hx hfed.1
          exact nomatch hp.declared.kind_unique hk hfed.2
      · -- a processor has one target, and this is its drain
        obtain rfl : x = target := hp.declared.connects_unique hx (hp.connects_of_find? hn rfl)
        cases hdrain with
        | sink _ htopic => exact ⟨_, htopic⟩
        | processor hk' => exact nomatch hp.declared.kind_unique hk hk'
  · intro h
    cases n with
    | source name target =>
      obtain ⟨topic, htopic⟩ := h.source hhas
      exact ⟨_, .source htopic⟩
    | sink name inputs =>
      obtain ⟨topic, htopic⟩ := h.sink hhas
      exact ⟨_, .sink htopic⟩
    | processor name target input env =>
      obtain ⟨drain, hdrain⟩ := hp.exists_drain h hhas (hp.connects_of_find? hn rfl)
      obtain ⟨feed, hfeed⟩ := hp.exists_feed h hhas
      exact ⟨_, .processor hfeed hdrain⟩

/-- The block of a node can be written out exactly if its numbers can. -/
theorem writableBlock_iff (hn : p.topology.find? a = some n)
    (hblock : Mesh.Block d spec.Has spec.Connects n rs) :
    Mesh.WritableBlock d n rs ↔ spec.WritableAt d a := by
  have hhas := hp.has_of_find? hn
  obtain rfl := hp.wellFormed.name_eq hn
  have hkind : ∀ {k}, spec.Has k n.name → n.kind = k := hp.declared.kind_unique hhas
  cases hblock with
  | @source a b topic htopic =>
    have hother : ¬ spec.Has .processor a := fun h => by cases hkind h
    exact iff_of_true Mesh.writableBlock_source
      ⟨fun h => absurd h hother, fun h => absurd h hother⟩
  | @sink a inputs topic htopic =>
    have hother : ¬ spec.Has .processor a := fun h => by cases hkind h
    exact iff_of_true Mesh.writableBlock_sink
      ⟨fun h => absurd h hother, fun h => absurd h hother⟩
  | @processor name target input env feed drain hfeed hdrain =>
    rw [Mesh.writableBlock_processor_iff, Mesh.Processor.writable_iff]
    -- the one feeder decides whether there are manifests of a connection
    cases hfeed with
    | source hfed htopic =>
      refine ⟨fun h => ⟨fun _ => h.1, fun _ x hx hk => ?_⟩, fun h => ⟨h.own hhas, fun h => ?_⟩⟩
      · obtain rfl := hp.singleInput.unique hhas hx hfed.1
        cases hp.declared.kind_unique hk hfed.2
      · cases h
    | processor hfed =>
      exact ⟨fun h => ⟨fun _ => h.1, fun _ _ _ _ => h.2 rfl⟩,
        fun h => ⟨h.own hhas, fun _ => h.stream hhas _ hfed.1 hfed.2⟩⟩

/-- The manifests of a node can be made exactly if it has what it needs and its numbers can be
written out. -/
theorem nodeRenderings_verdict (hnamed : spec.Named) (hns : FileSafe d.nsText)
    (hn : p.topology.find? a = some n) :
    (spec.ProvidedAt d a ∧ spec.WritableAt d a ∧
      ∃ rs, Mesh.nodeRenderings d p.topology n = .ok rs) ∨
    (spec.ProvidedAt d a ∧ ¬ spec.WritableAt d a ∧
      Mesh.nodeRenderings d p.topology n = .error .tooLong) ∨
    ¬ spec.ProvidedAt d a ∧
      ∃ e, Mesh.nodeRenderings d p.topology n = .error (.fault e) ∧ e.OfSupply := by
  have hsafe := hp.safeAround hnamed hns hn
  by_cases hprovided : spec.ProvidedAt d a
  · obtain ⟨rs, hblock⟩ := (hp.exists_block_iff hn).mpr hprovided
    obtain ⟨hok, hlong⟩ := Mesh.nodeRenderings_eq_of_block hsafe ((hp.block_iff hn).mpr hblock)
    rw [hp.writableBlock_iff hn hblock] at hok hlong
    by_cases hwritable : spec.WritableAt d a
    · exact .inl ⟨hprovided, hwritable, rs, hok hwritable⟩
    · exact .inr (.inl ⟨hprovided, hwritable, hlong hwritable⟩)
  · refine .inr (.inr ⟨hprovided, Mesh.ofSupply_of_nodeRenderings hsafe (fun x _ hx => ?_) ?_⟩)
    · -- what a processor connects to is of a kind that it can feed
      rw [hp.kindOf?_eq_some_iff, hp.kindOf?_eq_some_iff]
      exact hp.legal.has_of_connects hp.declared (hp.connects_of_find? hn hx)
    · rintro ⟨rs, hblock⟩
      exact hprovided ((hp.exists_block_iff hn).mp ⟨rs, (hp.block_iff hn).mp hblock⟩)

/-- Where the manifests along some names are made, their nodes have what they need. -/
theorem provided_of_blocks (hnamed : spec.Named) (hns : FileSafe d.nsText) {names : List String}
    (h : Mesh.blocks d p.topology names = .ok rs) :
    ∀ a ∈ names, spec.ProvidedAt d a ∧ spec.WritableAt d a := by
  intro a ha
  obtain ⟨bs, hbs, -⟩ := Mesh.blocks_eq_ok_iff.mp h
  obtain ⟨block, -, n, hn, hok⟩ := exists_right_of_forall₂ hbs ha
  rcases hp.nodeRenderings_verdict hnamed hns hn with
    ⟨hprovided, hwritable, -⟩ | ⟨-, -, hlong⟩ | ⟨-, e, hfault, -⟩
  · exact ⟨hprovided, hwritable⟩
  · cases hok.symm.trans hlong
  · cases hok.symm.trans hfault

/-- The manifests of the nodes of a plan are made, or stop at the first node that lacks something or
has a number that is too long. -/
theorem blocks_verdict (hnamed : spec.Named) (hns : FileSafe d.nsText) :
    ((∀ a ∈ p.order, spec.ProvidedAt d a ∧ spec.WritableAt d a) ∧
      ∃ rs, Mesh.blocks d p.topology p.order = .ok rs) ∨
    (spec.FirstAt d p.order (fun a => spec.ProvidedAt d a ∧ ¬ spec.WritableAt d a) ∧
      Mesh.blocks d p.topology p.order = .error .tooLong) ∨
    spec.FirstAt d p.order (fun a => ¬ spec.ProvidedAt d a) ∧
      ∃ e, Mesh.blocks d p.topology p.order = .error (.fault e) ∧ e.OfSupply := by
  cases hblocks : Mesh.blocks d p.topology p.order with
  | ok rs => exact .inl ⟨hp.provided_of_blocks hnamed hns hblocks, rs, rfl⟩
  | error f =>
    obtain ⟨before, a, after, horder, ⟨nodes, hnodes⟩, hstop⟩ := Mesh.blocks_eq_error hblocks
    have hbefore := hp.provided_of_blocks hnamed hns hnodes
    -- all names of the order are declared, so a node must have failed
    have ha : a ∈ p.order := horder ▸ List.mem_append_right _ (List.mem_cons_self ..)
    obtain ⟨n, hn⟩ := Topology.mem_names_iff.mp (hp.order_perm.mem_iff.mp ha)
    obtain ⟨n', hn', hfail⟩ := hstop.resolve_left (hn ▸ nofun)
    obtain rfl := Option.some.inj (hn.symm.trans hn')
    rcases hp.nodeRenderings_verdict hnamed hns hn with
      ⟨-, -, rs, hok⟩ | ⟨hprovided, hwritable, hlong⟩ | ⟨hprovided, e, hfault, hof⟩
    · cases hok.symm.trans hfail
    · cases hlong.symm.trans hfail
      exact .inr (.inl ⟨⟨before, a, after, horder, hbefore, hprovided, hwritable⟩, rfl⟩)
    · cases hfault.symm.trans hfail
      exact .inr (.inr ⟨⟨before, a, after, horder, hbefore, hprovided⟩, e, rfl, hof⟩)

/-- What holds of all nodes in the order holds of all names, since others are not declared. -/
theorem forall_order_iff :
    (∀ a ∈ p.order, spec.ProvidedAt d a ∧ spec.WritableAt d a) ↔
      spec.Supplied d ∧ spec.Writable d := by
  rw [Spec.supplied_iff, Spec.Writable, ← forall_and]
  refine ⟨fun h a => ?_, fun h a _ => h a⟩
  by_cases ha : a ∈ p.order
  · exact h a ha
  · have hnone : ∀ k, ¬ spec.Has k a := by
      intro k hk
      obtain ⟨n, hn, -⟩ := Topology.kindOf?_eq_some_iff.mp (hp.kindOf?_eq_some_iff.mpr hk)
      exact ha (hp.order_perm.mem_iff.mpr (Topology.mem_names_iff.mpr ⟨n, hn⟩))
    exact ⟨⟨fun h => absurd h (hnone _), fun h => absurd h (hnone _), fun h => absurd h (hnone _),
      fun h => absurd h (hnone _), fun h => absurd h (hnone _)⟩,
      fun h => absurd h (hnone _), fun h => absurd h (hnone _)⟩

end Planned

end StreamMesh
