import StreamMesh.Proofs.Compile.Shape
import StreamMesh.Proofs.Mesh.Apart
import StreamMesh.Proofs.Mesh.Purpose

/-!
# What is generated, and in which order

Synthesis follows the order of a plan: every node gets its block of files, and the tracing
configuration comes last. A processor's block is extended by a broker, a subscription and a topic
where another processor feeds it. So these come once for every connection between processors, and
their names are those of the connection.

## Main definitions

* `Topology.inflow` — the connection from another processor that a processor has as its input
* `Topology.streams` — all connections between processors
* `Topology.objectsAt` — the objects of a node
* `Layout` — what the files of a plan are

## Main results

* `Planned.inflows_perm` — along the order, every connection between processors comes in once
* `plan_layout` — the layout of the files of every plan that can be synthesised
-/

namespace StreamMesh

open Mesh Mesh.Object

variable {spec : Spec} {d : Deployment} {p : Plan} {t : Topology} {n : Node} {ns : List Node}
  {a b x : String} {order : List String} {rs : List Rendering} {o : Object}

/-- The objects of a connection between two processors. -/
def Mesh.Object.ofStream (e : String × String) : List Object :=
  [.broker e.2, .subscription e.1 e.2, .topic e.1 e.2]

namespace Topology

/-- The connection that comes in by the input of a node, if it comes from a processor. -/
def inflow (t : Topology) (a : String) : Option (String × String) :=
  match t.inputOf? a with
  | some x => if t.kindOf? x = some .processor then some (x, a) else none
  | none => none

/-- The connections between processors, in the order of the nodes that they leave. -/
def streams (t : Topology) : List (String × String) :=
  (connections t.nodes.values).filter fun e =>
    decide (t.kindOf? e.1 = some .processor ∧ t.kindOf? e.2 = some .processor)

/-- The objects of the node of a name: one for a source or a sink, three for a processor, and three
more if a processor feeds it. -/
def objectsAt (t : Topology) (a : String) : List Object :=
  match t.find? a with
  | some (.source _ b) => [.ingress a b]
  | some (.processor ..) =>
    [.service a, .deployment a, .scaler a] ++ (t.inflow a).toList.flatMap ofStream
  | some (.sink ..) => [.egress a]
  | none => []

end Topology

/-- What the files of a topology are, along an order of its nodes. -/
structure Layout (d : Deployment) (t : Topology) (order : List String) (rs : List Rendering) :
    Prop where
  /-- The order lists every node once. -/
  perm : order.Perm t.names
  nodup : order.Nodup
  /-- Every node has a block, with a file for each of its objects, and tracing comes last. -/
  blocks : ∃ bs, List.Forall₂ (fun a b => List.Forall₂ (Configured d) (t.objectsAt a) b) order bs ∧
    rs = bs.flatten ++ [tracingFile d]
  /-- There is no other configuration. -/
  tracing : ofKind "Configuration" rs = [tracingManifest d]
  length : rs.length = (t.nodesOf .source).length + (t.nodesOf .sink).length +
    3 * (t.nodesOf .processor).length + 3 * t.streams.length + 1
  /-- The files of brokers, subscriptions and topics are those of the connections between
  processors, three for each of them. -/
  triples : ∃ es : List (String × String), es.Perm t.streams ∧
    List.Forall₂ (Configured d) (es.flatMap ofStream)
      (rs.filter fun r => decide (r.category = .streams ∨ r.category = .topics))
  brokers : (t.streams.map fun e => brokerName e.2).Nodup
  groups : (t.streams.map fun e => consumerGroup d.nsText e.2).Nodup
  topics : (t.streams.map fun e => streamTopic d.nsText e.1).Nodup

namespace Topology

theorem inflow_eq_some_iff {e : String × String} : t.inflow a = some e ↔
    t.inputOf? a = some e.1 ∧ t.kindOf? e.1 = some .processor ∧ e.2 = a := by
  obtain ⟨x, y⟩ := e
  unfold inflow
  cases t.inputOf? a with
  | none => simp
  | some x' =>
    by_cases hx : t.kindOf? x' = some .processor
    · simp only [hx, if_true, Option.some.injEq, Prod.mk.injEq]
      constructor
      · rintro ⟨rfl, rfl⟩
        exact ⟨rfl, hx, rfl⟩
      · rintro ⟨rfl, -, rfl⟩
        exact ⟨rfl, rfl⟩
    · simp only [hx, if_false, reduceCtorEq, Option.some.injEq, false_iff, not_and]
      rintro rfl h
      exact absurd h hx

/-- Only a processor has an input. -/
theorem kindOf?_of_inputOf? (h : t.inputOf? a = some x) : t.kindOf? a = some .processor := by
  unfold inputOf? at h
  unfold kindOf?
  cases hn : t.find? a with
  | none =>
    rw [hn] at h
    cases h
  | some n =>
    rw [hn] at h
    cases n with
    | processor => rfl
    | source | sink => cases h

theorem inflow_eq_none (h : t.kindOf? a ≠ some .processor) : t.inflow a = none := by
  rw [Option.eq_none_iff_forall_ne_some]
  intro e he
  exact h (kindOf?_of_inputOf? (inflow_eq_some_iff.mp he).1)

theorem nodesOf_eq_filter (t : Topology) (k : NodeKind) :
    t.nodesOf k = t.nodes.values.filter fun n => n.kind == k := by
  simp only [nodesOf, ofKind, Assoc.values, List.filter_map]
  rfl

theorem mem_streams_iff (ht : t.WellFormed) : (a, b) ∈ t.streams ↔
    t.Connects a b ∧ t.kindOf? a = some .processor ∧ t.kindOf? b = some .processor := by
  have hconnects : (a, b) ∈ connections t.nodes.values ↔ t.Connects a b := by
    rw [mem_connections_iff]
    constructor
    · rintro ⟨n, hn, rfl, hto⟩
      exact ⟨n, ht.mem_values_iff.mp hn, hto⟩
    · rintro ⟨n, hn, hto⟩
      have hname : n.name = a := ht.name_eq hn
      exact ⟨n, ht.mem_values_iff.mpr (hname.symm ▸ hn), hname, hto⟩
  rw [streams, List.mem_filter, decide_eq_true_iff, hconnects]

theorem nodup_streams (ht : t.WellFormed) : t.streams.Nodup :=
  (nodup_connections (ht.map_name_values.symm ▸ ht.nodup)).filter _

/-- A node other than that of tracing has no object for tracing. -/
theorem tracing_not_mem_objectsAt (t : Topology) (a : String) : .tracing ∉ t.objectsAt a := by
  unfold objectsAt
  split <;> simp [ofStream]

/-- The objects in the directories of streams and topics are those of the incoming connection. -/
theorem filter_objectsAt (t : Topology) (a : String) :
    (t.objectsAt a).filter (fun o => decide (o.category = .streams ∨ o.category = .topics)) =
      (t.inflow a).toList.flatMap ofStream := by
  have hinflow : t.kindOf? a ≠ some .processor → (t.inflow a).toList.flatMap ofStream = [] := by
    intro h
    rw [inflow_eq_none h]
    rfl
  unfold objectsAt
  cases hn : t.find? a with
  | none => exact (hinflow (by simp [kindOf?, hn])).symm
  | some n =>
    cases n with
    | source => exact (hinflow (by simp [kindOf?, hn, Node.kind])).symm
    | sink => exact (hinflow (by simp [kindOf?, hn, Node.kind])).symm
    | processor => cases t.inflow a <;> rfl

/-- The objects of a node: its own, and three for an incoming connection. -/
theorem length_objectsAt (hn : t.find? a = some n) : (t.objectsAt a).length =
    (if n.kind = .processor then 3 else 1) + 3 * (t.inflow a).toList.length := by
  have hinflow : n.kind ≠ .processor → t.inflow a = none := by
    intro h
    apply inflow_eq_none
    simpa [kindOf?, hn] using h
  unfold objectsAt
  rw [hn]
  cases n with
  | source | sink =>
    rw [hinflow (by simp [Node.kind])]
    rfl
  | processor => cases t.inflow a <;> rfl

theorem length_flatMap_objectsAt (h : ∀ n ∈ ns, t.find? n.name = some n) :
    (ns.flatMap fun n => t.objectsAt n.name).length =
      (ns.filter fun n => n.kind == .source).length + (ns.filter fun n => n.kind == .sink).length +
        3 * (ns.filter fun n => n.kind == .processor).length +
        3 * (ns.flatMap fun n => (t.inflow n.name).toList).length := by
  induction ns with
  | nil => rfl
  | cons n rest ih =>
    have hrest := ih fun m hm => h m (List.mem_cons_of_mem _ hm)
    have hn := length_objectsAt (h n (List.mem_cons_self ..))
    rw [List.flatMap_cons, List.length_append, hrest, hn, List.flatMap_cons, List.length_append]
    -- a node counts for its own kind only
    cases hk : n.kind <;> simp [hk] <;> omega

end Topology

theorem ofKind_append (kind : String) (rs rs' : List Rendering) :
    ofKind kind (rs ++ rs') = ofKind kind rs ++ ofKind kind rs' := by
  simp only [ofKind, List.map_append, List.filter_append]

namespace Mesh

theorem consumerGroup_inj {ns q q' : String} (h : consumerGroup ns q = consumerGroup ns q') :
    q = q' := by
  simpa only [consumerGroup, String.append_left_inj, String.append_right_inj] using h

/-- What is made for a node of a plan are its objects. -/
theorem configured_of_nodeRenderings (hp : Planned spec p) (hn : p.topology.find? a = some n)
    (h : nodeRenderings d p.topology n = .ok rs) :
    List.Forall₂ (Configured d) (p.topology.objectsAt a) rs := by
  obtain rfl := hp.wellFormed.name_eq hn
  unfold Topology.objectsAt
  rw [hn]
  -- the feed that a block was made from tells whether a processor comes in
  cases (block_of_nodeRenderings h).1 with
  | source htopic => exact .cons (configured_ingress htopic) .nil
  | sink htopic => exact .cons (configured_egress htopic) .nil
  | @processor name _ _ _ feed _ hfeed _ =>
    cases hfeed with
    | source hx =>
      have hinflow : p.topology.inflow name = none := by
        simp [Topology.inflow, hx.1, hx.2]
      simp only [Node.name, hinflow]
      exact Processor.configured_files_of_source
    | @processor x hx =>
      have hinflow : p.topology.inflow name = some (x, name) :=
        Topology.inflow_eq_some_iff.mpr ⟨hx.1, hx.2, rfl⟩
      simp only [Node.name, hinflow]
      exact Processor.configured_files_of_processor

end Mesh

namespace Planned

variable (hp : Planned spec p)

include hp

theorem nodup_order : p.order.Nodup := hp.order_perm.nodup_iff.mpr hp.wellFormed.nodup

/-- Two connections between processors that lead to one processor are one connection. -/
theorem stream_eq_of_consumer {e e' : String × String} (he : e ∈ p.topology.streams)
    (he' : e' ∈ p.topology.streams) (h : e.2 = e'.2) : e = e' := by
  obtain ⟨hconnects, -, hconsumer⟩ := (Topology.mem_streams_iff hp.wellFormed).mp he
  obtain ⟨hconnects', -, -⟩ := (Topology.mem_streams_iff hp.wellFormed).mp he'
  exact Prod.ext (hp.feeder_unique hconsumer hconnects (h ▸ hconnects')) h

/-- Two connections between processors that come from one processor are one connection. -/
theorem stream_eq_of_producer {e e' : String × String} (he : e ∈ p.topology.streams)
    (he' : e' ∈ p.topology.streams) (h : e.1 = e'.1) : e = e' := by
  obtain ⟨hconnects, -, -⟩ := (Topology.mem_streams_iff hp.wellFormed).mp he
  obtain ⟨hconnects', -, -⟩ := (Topology.mem_streams_iff hp.wellFormed).mp he'
  refine Prod.ext h (hp.declared.connects_unique (hp.connects_iff.mp hconnects) ?_)
  exact h ▸ hp.connects_iff.mp hconnects'

/-- Along the order every connection between processors comes in once. -/
theorem inflows_perm : (p.order.flatMap fun a => (p.topology.inflow a).toList).Perm
    p.topology.streams := by
  have hmem : ∀ e : String × String,
      e ∈ (p.order.flatMap fun a => (p.topology.inflow a).toList) ↔ e ∈ p.topology.streams := by
    intro ⟨x, b⟩
    rw [Topology.mem_streams_iff hp.wellFormed, List.mem_flatMap]
    constructor
    · rintro ⟨a, -, he⟩
      obtain ⟨hx, hkind, rfl⟩ := Topology.inflow_eq_some_iff.mp (Option.mem_toList.mp he)
      have hb := Topology.kindOf?_of_inputOf? hx
      exact ⟨hp.connects_of_inputOf? hb hx, hkind, hb⟩
    · rintro ⟨hxb, hx, hb⟩
      obtain ⟨n, hn, hk⟩ := Topology.kindOf?_eq_some_iff.mp hb
      have hinput := (hp.inputOf?_eq_some_iff hn hk).mpr (hp.connects_iff.mp hxb)
      refine ⟨b, hp.mem_order_of_kindOf? hb, Option.mem_toList.mpr ?_⟩
      exact Topology.inflow_eq_some_iff.mpr ⟨hinput, hx, rfl⟩
  have hnodup : (p.order.flatMap fun a => (p.topology.inflow a).toList).Nodup := by
    rw [List.nodup_flatMap]
    constructor
    · intro a _
      cases p.topology.inflow a <;> simp
    · -- a connection comes in at one node only, and the order lists no node twice
      apply hp.nodup_order.imp
      intro a b hab e ha hb
      obtain ⟨-, -, rfl⟩ := Topology.inflow_eq_some_iff.mp (Option.mem_toList.mp ha)
      obtain ⟨-, -, rfl⟩ := Topology.inflow_eq_some_iff.mp (Option.mem_toList.mp hb)
      exact hab rfl
  exact (List.perm_ext_iff_of_nodup hnodup (Topology.nodup_streams hp.wellFormed)).mpr hmem

theorem has_of_node (hn : p.topology.find? a = some n) : spec.Has n.kind a :=
  hp.kindOf?_eq_some_iff.mp (Topology.kindOf?_eq_some_iff.mpr ⟨n, hn, rfl⟩)

theorem mem_streams_iff : (a, b) ∈ p.topology.streams ↔ spec.Streams a b := by
  rw [Topology.mem_streams_iff hp.wellFormed, hp.connects_iff, hp.kindOf?_eq_some_iff,
    hp.kindOf?_eq_some_iff]
  constructor
  · rintro ⟨hconnects, hproducer, hconsumer⟩
    exact ⟨hproducer, hconnects, hconsumer⟩
  · rintro ⟨hproducer, hconnects, hconsumer⟩
    exact ⟨hconnects, hproducer, hconsumer⟩

theorem inflow_eq_some_iff : p.topology.inflow b = some (a, b) ↔ spec.Streams a b := by
  rw [← hp.mem_streams_iff, ← hp.inflows_perm.mem_iff, List.mem_flatMap]
  constructor
  · intro h
    have hb := Topology.kindOf?_of_inputOf? (Topology.inflow_eq_some_iff.mp h).1
    exact ⟨b, hp.mem_order_of_kindOf? hb, Option.mem_toList.mpr h⟩
  · rintro ⟨x, -, h⟩
    have hx := Option.mem_toList.mp h
    obtain rfl : b = x := (Topology.inflow_eq_some_iff.mp hx).2.2
    exact hx

/-- The objects of a node are objects of the pipeline. -/
theorem of_mem_objectsAt (h : o ∈ p.topology.objectsAt a) : o.Of spec := by
  unfold Topology.objectsAt at h
  cases hn : p.topology.find? a with
  | none =>
    rw [hn] at h
    cases h
  | some n =>
    have hhas := hp.has_of_node hn
    rw [hn] at h
    -- the objects at a node are those that its kind brings about
    cases n with
    | source _ b =>
      obtain rfl := List.mem_singleton.mp h
      exact ⟨hhas, hp.connects_iff.mp ⟨_, hn, rfl⟩⟩
    | sink =>
      obtain rfl := List.mem_singleton.mp h
      exact hhas
    | processor =>
      rcases List.mem_append.mp h with h | h
      · simp only [List.mem_cons, List.not_mem_nil, or_false] at h
        rcases h with rfl | rfl | rfl <;> exact hhas
      · obtain ⟨⟨x, b⟩, he, ho⟩ := List.mem_flatMap.mp h
        have hinflow := Option.mem_toList.mp he
        obtain rfl : b = a := (Topology.inflow_eq_some_iff.mp hinflow).2.2
        have hstreams := hp.inflow_eq_some_iff.mp hinflow
        simp only [ofStream, List.mem_cons, List.not_mem_nil, or_false] at ho
        rcases ho with rfl | rfl | rfl
        · exact ⟨x, hstreams⟩
        · exact hstreams
        · exact hstreams

/-- A processor's own objects are objects of its node. -/
theorem mem_objectsAt_of_processor (ha : spec.Has .processor a)
    (ho : o ∈ [.service a, .deployment a, .scaler a]) : o ∈ p.topology.objectsAt a := by
  obtain ⟨n, hn, hk⟩ := Topology.kindOf?_eq_some_iff.mp (hp.kindOf?_eq_some_iff.mpr ha)
  unfold Topology.objectsAt
  rw [hn]
  cases n with
  | processor => exact List.mem_append_left _ ho
  | source | sink => cases hk

/-- The objects of a connection between processors are objects of the node that it leads to. -/
theorem mem_objectsAt_of_streams (hab : spec.Streams a b) (ho : o ∈ ofStream (a, b)) :
    o ∈ p.topology.objectsAt b := by
  obtain ⟨n, hn, hk⟩ := Topology.kindOf?_eq_some_iff.mp (hp.kindOf?_eq_some_iff.mpr hab.consumer)
  unfold Topology.objectsAt
  rw [hn, hp.inflow_eq_some_iff.mpr hab]
  cases n with
  | processor => exact List.mem_append_right _ (by simpa using ho)
  | source | sink => cases hk

/-- The objects of all nodes, counted by the kinds of the nodes. -/
theorem length_objects : (p.order.flatMap p.topology.objectsAt).length =
    (p.topology.nodesOf .source).length + (p.topology.nodesOf .sink).length +
      3 * (p.topology.nodesOf .processor).length + 3 * p.topology.streams.length := by
  have hvalues : p.order.Perm (p.topology.nodes.values.map Node.name) := by
    rw [hp.wellFormed.map_name_values]
    exact hp.order_perm
  have hobjects := (hvalues.flatMap_right p.topology.objectsAt).length_eq
  have hinflows := (hvalues.flatMap_right fun a => (p.topology.inflow a).toList).length_eq
  rw [List.flatMap_map] at hobjects hinflows
  have hfind : ∀ n ∈ p.topology.nodes.values, p.topology.find? n.name = some n :=
    fun n hn => hp.wellFormed.mem_values_iff.mp hn
  -- lengths do not depend on the order, so the nodes may be taken as they are declared
  rw [hobjects, Topology.length_flatMap_objectsAt hfind, ← hinflows, hp.inflows_perm.length_eq]
  simp only [Topology.nodesOf_eq_filter]

end Planned

namespace Mesh

/-- Synthesis makes the objects of each node along the order, and tracing after them. -/
theorem exists_configured_blocks (hp : Planned spec p)
    (h : synthesize d p.topology p.order = .ok rs) :
    ∃ bs, List.Forall₂ (fun a b => List.Forall₂ (Configured d) (p.topology.objectsAt a) b)
      p.order bs ∧ rs = bs.flatten ++ [tracingFile d] := by
  obtain ⟨-, -, nodes, hnodes, rfl⟩ := synthesize_eq_ok_iff.mp h
  obtain ⟨bs, hbs, rfl⟩ := blocks_eq_ok_iff.mp hnodes
  refine ⟨bs, hbs.imp ?_, rfl⟩
  rintro a b ⟨n, hn, hb⟩
  exact configured_of_nodeRenderings hp hn hb

section Blocks

variable {bs : List (List Rendering)}
  (h : List.Forall₂ (fun a b => List.Forall₂ (Configured d) (t.objectsAt a) b) order bs)

include h

theorem configured_flatten :
    List.Forall₂ (Configured d) (order.flatMap t.objectsAt) bs.flatten := by
  rw [List.flatMap_def]
  exact List.rel_flatten (List.forall₂_map_left_iff.mpr h)

/-- No node has a file for tracing. -/
theorem ofKind_configuration_flatten : ofKind "Configuration" bs.flatten = [] := by
  refine List.filter_eq_nil_iff.mpr ?_
  intro m hm hkind
  obtain ⟨r, hr, rfl⟩ := List.mem_map.mp hm
  obtain ⟨o, ho, hor⟩ := exists_left_of_forall₂ (configured_flatten h) hr
  obtain ⟨a, -, ho⟩ := List.mem_flatMap.mp ho
  rw [hor.kind_eq, beq_iff_eq, Option.some.injEq, RawText.whole.injEq,
    kind_eq_configuration_iff] at hkind
  exact t.tracing_not_mem_objectsAt a (hkind ▸ ho)

/-- The files of streams and topics are those of the incoming connections, node by node. -/
theorem configured_streams : List.Forall₂ (Configured d)
    ((order.flatMap fun a => (t.inflow a).toList).flatMap ofStream)
    (bs.flatten.filter fun r => decide (r.category = .streams ∨ r.category = .topics)) := by
  have hfiltered := filter_of_forall₂
    (f := fun o : Object => decide (o.category = .streams ∨ o.category = .topics))
    (g := fun r : Rendering => decide (r.category = .streams ∨ r.category = .topics))
    (configured_flatten h) fun o r hor => by rw [hor.category]
  rw [List.filter_flatMap] at hfiltered
  simp only [Topology.filter_objectsAt] at hfiltered
  rwa [List.flatMap_assoc]

end Blocks

/-- The files of a plan are those of the objects along its order, and of tracing. -/
theorem configured_files (hp : Planned spec p) (h : synthesize d p.topology p.order = .ok rs) :
    List.Forall₂ (Configured d) (p.order.flatMap p.topology.objectsAt ++ [.tracing]) rs := by
  obtain ⟨bs, hblocks, rfl⟩ := exists_configured_blocks hp h
  exact List.rel_append (configured_flatten hblocks) (.cons configured_tracing .nil)

end Mesh

/-- The layout of the files of every plan that can be synthesised: a block for each node along the
order and then tracing, with three files for every connection between processors, under names of
its own. -/
theorem plan_layout (hplan : (plan spec).2 = .ok p)
    (h : synthesize d p.topology p.order = .ok rs) : Layout d p.topology p.order rs := by
  have hp := planned_of_plan_eq_ok hplan
  obtain ⟨bs, hblocks, rfl⟩ := exists_configured_blocks hp h
  constructor
  case perm => exact hp.order_perm
  case nodup => exact hp.nodup_order
  case blocks => exact ⟨bs, hblocks, rfl⟩
  case tracing =>
    rw [ofKind_append, ofKind_configuration_flatten hblocks]
    rfl
  case length =>
    rw [List.length_append, List.length_singleton, ← (configured_flatten hblocks).length_eq,
      hp.length_objects]
  case triples =>
    have htracing : [tracingFile d].filter
        (fun r => decide (r.category = .streams ∨ r.category = .topics)) = [] := rfl
    refine ⟨p.order.flatMap fun a => (p.topology.inflow a).toList, hp.inflows_perm, ?_⟩
    rw [List.filter_append, htracing, List.append_nil]
    exact configured_streams hblocks
  -- connections between processors differ in both their ends, and so do the names made from them
  case brokers =>
    refine (Topology.nodup_streams hp.wellFormed).map_on ?_
    intro e he e' he' heq
    exact hp.stream_eq_of_consumer he he' ((String.append_right_inj _).mp heq)
  case groups =>
    refine (Topology.nodup_streams hp.wellFormed).map_on ?_
    intro e he e' he' heq
    exact hp.stream_eq_of_consumer he he' (consumerGroup_inj heq)
  case topics =>
    refine (Topology.nodup_streams hp.wellFormed).map_on ?_
    intro e he e' he' heq
    exact hp.stream_eq_of_producer he he' (streamTopic_inj heq)

/-- The sample has one connection between processors, and so one broker, subscription and topic. -/
theorem plan_layout_sample : ∃ p d rs, (plan Spec.sample).2 = .ok p ∧
    synthesize d p.topology p.order = .ok rs ∧ Layout d p.topology p.order rs ∧
    p.topology.streams = [("clean", "count")] := by
  obtain ⟨c, hc⟩ := exists_compile_sample
  obtain ⟨p, d, rs, -, hplan, -, -, hrs, -⟩ := compile_eq_ok_iff.mp hc
  have hp := planned_of_plan_eq_ok hplan
  refine ⟨p, d, rs, hplan, hrs, plan_layout hplan hrs, List.perm_singleton.mp ?_⟩
  apply (List.perm_ext_iff_of_nodup (Topology.nodup_streams hp.wellFormed)
    (List.nodup_singleton _)).mpr
  intro ⟨a, b⟩
  rw [hp.mem_streams_iff, List.mem_singleton, Prod.mk.injEq]
  constructor
  · intro h
    have hconnects := Spec.connects_sample.mp h.connects
    have hproducer := Spec.has_sample.mp h.producer
    have hconsumer := Spec.has_sample.mp h.consumer
    rcases hconnects with ⟨rfl, rfl⟩ | ⟨rfl, rfl⟩ | ⟨rfl, rfl⟩
    · revert hproducer
      decide
    · exact ⟨rfl, rfl⟩
    · revert hconsumer
      decide
  · rintro ⟨rfl, rfl⟩
    exact ⟨Spec.has_sample.mpr (by decide), Spec.connects_sample.mpr (by decide),
      Spec.has_sample.mpr (by decide)⟩

end StreamMesh
