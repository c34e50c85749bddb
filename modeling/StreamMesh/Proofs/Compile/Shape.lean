import StreamMesh.Proofs.Compile.Edges

/-!
# The shape of a compiled pipeline

A plan has no circle and no processor with two inputs, but it may hold a processor that nothing
feeds. Synthesis refuses that one. So in a pipeline that compiles every processor hangs on one
source, and everything runs into a sink: walks upwards and downwards go along the order, which ends.

## Main definitions

* `walk` — the place that is reached after some steps
* `Topology.Reaches` — a path along the connections
* `Topology.Shape` — what the paths of a compiled pipeline are like

## Main results

* `exists_walk` — where every step lowers a rank, a walk arrives
* `Planned.origin_unique` — no processor is reached from two sources
* `compiled_shape` — the shape of every pipeline that compiles
-/

namespace StreamMesh

open Relation

variable {spec : Spec} {config : Deployment} {c : Compiled} {p : Plan} {t : Topology}
  {a b x y s s' : String}

section Walk

variable {next : String → Option String}

/-- The place that is reached after a number of steps, if there are so many. -/
def walk (next : String → Option String) : Nat → String → Option String
  | 0, a => some a
  | k + 1, a => (next a).bind (walk next k)

theorem walk_succ (h : next a = some b) (k : Nat) : walk next (k + 1) a = walk next k b := by
  rw [walk, h, Option.bind_some]

/-- Where every step lowers a rank, a walk arrives before the rank is used up. -/
theorem exists_walk (rank : String → Nat) (through stop : String → Prop)
    (hstep : ∀ a, through a → ∃ b, next a = some b ∧ rank b < rank a ∧ (through b ∨ stop b))
    (ha : through a ∨ stop a) :
    ∃ k z, k ≤ rank a ∧ walk next k a = some z ∧ stop z ∧
      ∀ i < k, ∃ x, walk next i a = some x ∧ through x := by
  -- a step may lower the rank by more than one
  induction hr : rank a using Nat.strongRecOn generalizing a with
  | ind r ih =>
    subst hr
    rcases ha with ha | ha
    · obtain ⟨b, hb, hlt, hnext⟩ := hstep a ha
      obtain ⟨k, z, hk, hz, hstop, hpass⟩ := ih (rank b) hlt hnext rfl
      refine ⟨k + 1, z, by omega, by rw [walk_succ hb, hz], hstop, ?_⟩
      intro i hi
      cases i with
      | zero => exact ⟨a, rfl, ha⟩
      | succ i =>
        rw [walk_succ hb]
        exact hpass i (by omega)
    · exact ⟨0, a, by omega, rfl, ha, by omega⟩

end Walk

namespace Topology

/-- There is a path along the connections from one name to another. -/
def Reaches (t : Topology) : String → String → Prop := ReflTransGen t.Connects

/-- The shape of a pipeline in which everything comes from a source and goes to a sink. -/
structure Shape (t : Topology) : Prop where
  /-- Upwards from a processor there are processors and then a source. -/
  upstream : ∀ a, t.kindOf? a = some .processor → ∃ k s, k < t.nodes.size ∧
    walk t.inputOf? k a = some s ∧ t.kindOf? s = some .source ∧
      ∀ i < k, ∃ x, walk t.inputOf? i a = some x ∧ t.kindOf? x = some .processor
  /-- Downwards from a source or a processor there is a sink. -/
  downstream : ∀ a, t.kindOf? a = some .source ∨ t.kindOf? a = some .processor →
    ∃ k z, k < t.nodes.size ∧ walk t.connectsTo? k a = some z ∧ t.kindOf? z = some .sink
  /-- A processor is reached from one source. -/
  origin : ∀ a, t.kindOf? a = some .processor →
    ∃! s, t.kindOf? s = some .source ∧ t.Reaches s a
  /-- What is reached from two sources is a sink. -/
  apart : ∀ s s' a, t.kindOf? s = some .source → t.kindOf? s' = some .source → s ≠ s' →
    t.Reaches s a → t.Reaches s' a → t.kindOf? a = some .sink

/-- No source and no processor is without a connection. -/
theorem exists_connects (ha : t.kindOf? a = some .source ∨
    t.kindOf? a = some .processor) : ∃ b, t.Connects a b := by
  have hkind : ∃ n, t.find? a = some n ∧ n.kind ≠ .sink := by
    rcases ha with ha | ha
    · obtain ⟨n, hn, hk⟩ := kindOf?_eq_some_iff.mp ha
      exact ⟨n, hn, by rw [hk]; nofun⟩
    · obtain ⟨n, hn, hk⟩ := kindOf?_eq_some_iff.mp ha
      exact ⟨n, hn, by rw [hk]; nofun⟩
  obtain ⟨n, hn, hk⟩ := hkind
  cases n with
  | source _ b => exact ⟨b, _, hn, rfl⟩
  | processor _ b => exact ⟨b, _, hn, rfl⟩
  | sink => exact absurd rfl hk

/-- Every processor has an input, which is a source or a processor. -/
def Fed (t : Topology) : Prop :=
  ∀ a, t.kindOf? a = some .processor → ∃ x, t.inputOf? a = some x ∧
    (t.kindOf? x = some .processor ∨ t.kindOf? x = some .source)

end Topology

namespace Planned

variable (hp : Planned spec p)

include hp

theorem idxOf_lt (hab : p.topology.Connects a b) : p.order.idxOf a < p.order.idxOf b :=
  hp.order_lt (hp.connects_iff.mp hab)

theorem length_order : p.order.length = p.topology.nodes.size := by
  rw [hp.order_perm.length_eq, Topology.names, Assoc.keys, List.length_map, Assoc.size]

theorem mem_order_of_kindOf? {k : NodeKind} (ha : p.topology.kindOf? a = some k) : a ∈ p.order := by
  obtain ⟨n, hn, -⟩ := Topology.kindOf?_eq_some_iff.mp ha
  exact hp.order_perm.mem_iff.mpr (Topology.mem_names_iff.mpr ⟨n, hn⟩)

theorem idxOf_lt_size {k : NodeKind} (ha : p.topology.kindOf? a = some k) :
    p.order.idxOf a < p.topology.nodes.size := by
  rw [← hp.length_order]
  exact List.idxOf_lt_length_iff.mpr (hp.mem_order_of_kindOf? ha)

/-- What a processor has as its input connects to it. -/
theorem connects_of_inputOf? (ha : p.topology.kindOf? a = some .processor)
    (hx : p.topology.inputOf? a = some x) : p.topology.Connects x a := by
  obtain ⟨n, hn, hk⟩ := Topology.kindOf?_eq_some_iff.mp ha
  exact hp.connects_iff.mpr ((hp.inputOf?_eq_some_iff hn hk).mp hx)

/-- A connection leads to a processor or a sink. -/
theorem kindOf?_target (hab : p.topology.Connects a b) :
    p.topology.kindOf? b = some .processor ∨ p.topology.kindOf? b = some .sink := by
  have hlegal := hp.legal.has_of_connects hp.declared (hp.connects_iff.mp hab)
  exact hlegal.imp hp.kindOf?_eq_some_iff.mpr hp.kindOf?_eq_some_iff.mpr

/-- A connection comes from a source or a processor. -/
theorem kindOf?_origin (hab : p.topology.Connects a b) :
    p.topology.kindOf? a = some .source ∨ p.topology.kindOf? a = some .processor := by
  have hhas := hp.declared.has_of_connects (hp.connects_iff.mp hab)
  exact hhas.imp hp.kindOf?_eq_some_iff.mpr hp.kindOf?_eq_some_iff.mpr

theorem feeder_unique (hb : p.topology.kindOf? b = some .processor)
    (hx : p.topology.Connects x b) (hy : p.topology.Connects y b) : x = y :=
  hp.singleInput.unique (hp.kindOf?_eq_some_iff.mp hb) (hp.connects_iff.mp hx)
    (hp.connects_iff.mp hy)

/-- Nothing but a source reaches a source. -/
theorem eq_of_reaches_source (ha : p.topology.kindOf? a = some .source)
    (h : p.topology.Reaches x a) : x = a := by
  rcases ReflTransGen.cases_tail h with h | ⟨y, -, hya⟩
  · exact h.symm
  · rcases hp.kindOf?_target hya with hk | hk <;> cases ha.symm.trans hk

/-- Two sources that reach one node other than a sink are one source. -/
theorem origin_unique (hs : p.topology.kindOf? s = some .source)
    (hs' : p.topology.kindOf? s' = some .source) (h : p.topology.Reaches s a)
    (h' : p.topology.Reaches s' a) (ha : p.topology.kindOf? a ≠ some .sink) : s = s' := by
  induction h with
  | refl => exact (hp.eq_of_reaches_source hs h').symm
  | @tail x a _ hxa ih =>
    have hprocessor : p.topology.kindOf? a = some .processor :=
      (hp.kindOf?_target hxa).resolve_right ha
    rcases ReflTransGen.cases_tail h' with h' | ⟨y, hy, hya⟩
    · subst h'
      cases hs'.symm.trans hprocessor
    · -- both paths come in by the one input of the processor
      obtain rfl := hp.feeder_unique hprocessor hxa hya
      refine ih hy ?_
      rcases hp.kindOf?_origin hxa with hk | hk <;> rw [hk] <;> nofun

/-- A walk upwards is a path read backwards. -/
theorem reaches_of_walk {k : Nat} (hwalk : walk p.topology.inputOf? k a = some s)
    (hpass : ∀ i < k, ∃ x, walk p.topology.inputOf? i a = some x ∧
      p.topology.kindOf? x = some .processor) : p.topology.Reaches s a := by
  -- the walk loses its first step, which is the last of the path
  induction k generalizing a with
  | zero =>
    cases hwalk
    exact .refl
  | succ k ih =>
    obtain ⟨_, ha, hk⟩ := hpass 0 (by omega)
    cases ha
    obtain ⟨x, hx, hwalk⟩ := Option.bind_eq_some_iff.mp hwalk
    refine .tail (ih hwalk ?_) (hp.connects_of_inputOf? hk hx)
    intro i hi
    obtain ⟨y, hy, hky⟩ := hpass (i + 1) (by omega)
    rw [walk_succ hx] at hy
    exact ⟨y, hy, hky⟩

/-- Upwards the place in the order falls with every step. -/
theorem exists_walk_up (hfed : p.topology.Fed) (ha : p.topology.kindOf? a = some .processor) :
    ∃ k s, k < p.topology.nodes.size ∧ walk p.topology.inputOf? k a = some s ∧
      p.topology.kindOf? s = some .source ∧ ∀ i < k, ∃ x,
        walk p.topology.inputOf? i a = some x ∧ p.topology.kindOf? x = some .processor := by
  have hwalk : ∃ k s, k ≤ p.order.idxOf a ∧ walk p.topology.inputOf? k a = some s ∧
      p.topology.kindOf? s = some .source ∧ ∀ i < k, ∃ x,
        walk p.topology.inputOf? i a = some x ∧ p.topology.kindOf? x = some .processor := by
    refine exists_walk (fun a => p.order.idxOf a) (fun a => p.topology.kindOf? a = some .processor)
      (fun a => p.topology.kindOf? a = some .source) ?_ (.inl ha)
    intro a ha
    obtain ⟨x, hx, hkind⟩ := hfed a ha
    exact ⟨x, hx, hp.idxOf_lt (hp.connects_of_inputOf? ha hx), hkind⟩
  obtain ⟨k, s, hk, hwalk⟩ := hwalk
  exact ⟨k, s, Nat.lt_of_le_of_lt hk (hp.idxOf_lt_size ha), hwalk⟩

/-- Downwards what is left of the order shrinks with every step. -/
theorem exists_walk_down
    (ha : p.topology.kindOf? a = some .source ∨ p.topology.kindOf? a = some .processor) :
    ∃ k z, k < p.topology.nodes.size ∧ walk p.topology.connectsTo? k a = some z ∧
      p.topology.kindOf? z = some .sink := by
  have hwalk : ∃ k z, k ≤ p.topology.nodes.size - 1 - p.order.idxOf a ∧
      walk p.topology.connectsTo? k a = some z ∧ p.topology.kindOf? z = some .sink ∧
      ∀ i < k, ∃ x, walk p.topology.connectsTo? i a = some x ∧
        (p.topology.kindOf? x = some .source ∨ p.topology.kindOf? x = some .processor) := by
    refine exists_walk (fun a => p.topology.nodes.size - 1 - p.order.idxOf a)
      (fun a => p.topology.kindOf? a = some .source ∨ p.topology.kindOf? a = some .processor)
      (fun a => p.topology.kindOf? a = some .sink) ?_ (.inl ha)
    intro a ha
    obtain ⟨b, hab⟩ := Topology.exists_connects ha
    have hkind := hp.kindOf?_target hab
    have hlt := hp.idxOf_lt hab
    have hsize : p.order.idxOf b < p.topology.nodes.size :=
      hkind.elim hp.idxOf_lt_size hp.idxOf_lt_size
    exact ⟨b, Topology.connectsTo?_eq_some_iff.mpr hab, by omega, hkind.imp .inr id⟩
  have hsize : p.order.idxOf a < p.topology.nodes.size := ha.elim hp.idxOf_lt_size hp.idxOf_lt_size
  obtain ⟨k, z, hk, hwalk, hz, -⟩ := hwalk
  exact ⟨k, z, by omega, hwalk, hz⟩

/-- A plan in which every processor is fed has its shape. -/
theorem shape (hfed : p.topology.Fed) : p.topology.Shape := by
  constructor
  case upstream => exact fun a => hp.exists_walk_up hfed
  case downstream => exact fun a => hp.exists_walk_down
  case origin =>
    intro a ha
    obtain ⟨k, s, -, hwalk, hs, hpass⟩ := hp.exists_walk_up hfed ha
    refine ⟨s, ⟨hs, hp.reaches_of_walk hwalk hpass⟩, ?_⟩
    rintro s' ⟨hs', h'⟩
    exact hp.origin_unique hs' hs h' (hp.reaches_of_walk hwalk hpass) (by rw [ha]; nofun)
  case apart =>
    intro s s' a hs hs' hne h h'
    by_contra ha
    exact hne (hp.origin_unique hs hs' h h' ha)

end Planned

/-- Synthesis refuses a processor that nothing feeds. -/
theorem Mesh.fed_of_synthesize {d : Deployment} {rs : List Rendering}
    (hp : Planned spec p) (h : synthesize d p.topology p.order = .ok rs) : p.topology.Fed := by
  intro a ha
  obtain ⟨-, -, nodes, hnodes, rfl⟩ := synthesize_eq_ok_iff.mp h
  obtain ⟨bs, hbs, rfl⟩ := blocks_eq_ok_iff.mp hnodes
  obtain ⟨block, -, n, hn, hblock⟩ := exists_right_of_forall₂ hbs (hp.mem_order_of_kindOf? ha)
  obtain rfl := hp.wellFormed.name_eq hn
  obtain ⟨m, hm, hk⟩ := Topology.kindOf?_eq_some_iff.mp ha
  cases hn.symm.trans hm
  -- the block of a processor is made from its feed, which needs an input
  cases (block_of_nodeRenderings hblock).1 with
  | source | sink => cases hk
  | processor hfeed =>
    cases hfeed with
    | source hx => exact ⟨_, hx.1, .inr hx.2⟩
    | processor hx => exact ⟨_, hx.1, .inl hx.2⟩

/-- The shape of every pipeline that compiles: processors hang on one source each, and everything
that is not a sink runs into one. -/
theorem compiled_shape (h : compile spec config = .ok c) :
    ∃ p, (plan spec).2 = .ok p ∧ c.order = p.order ∧ p.topology.Shape := by
  obtain ⟨p, d, rs, name, hplan, -, -, hrs, rfl⟩ := compile_eq_ok_iff.mp h
  have hp := planned_of_plan_eq_ok hplan
  exact ⟨p, hplan, rfl, hp.shape (Mesh.fed_of_synthesize hp hrs)⟩

/-- In the sample the second processor hangs on one source, although another processor lies
between. -/
theorem compiled_shape_sample : ∃ c p, compile Spec.sample Deployment.sample = .ok c ∧
    (plan Spec.sample).2 = .ok p ∧ p.topology.Shape ∧
    ∃! s, p.topology.kindOf? s = some .source ∧ p.topology.Reaches s "count" := by
  obtain ⟨c, hc⟩ := exists_compile_sample
  obtain ⟨p, hplan, -, hshape⟩ := compiled_shape hc
  have hcount : p.topology.kindOf? "count" = some .processor := by
    rw [(planned_of_plan_eq_ok hplan).kindOf?_eq_some_iff, Spec.has_sample]
    exact .inr (.inl ⟨rfl, .inr rfl⟩)
  exact ⟨c, p, hc, hplan, hshape, hshape.origin "count" hcount⟩

end StreamMesh
