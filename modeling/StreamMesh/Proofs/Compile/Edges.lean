import StreamMesh.Proofs.Compile.Acceptance
import StreamMesh.Proofs.Graph.Edges

/-!
# A plan knows every edge from both ends

Connections are kept twice: forwards, by the node they leave, and backwards, as inputs of the node
they lead to. The graph is built from the forward connections, before the inputs are registered, by
a loop of its own. In a plan the three agree, and registering has changed nothing else.

## Main definitions

* `Spec.stepsTo` — the steps that connect to a name
* `EdgesAgree` — the graph, the connections and the inputs of a topology tell the same edges

## Main results

* `plan_edges_agree` — the edges of a plan agree, and the rest of it is as declared
-/

namespace StreamMesh

variable {spec : Spec} {p : Plan} {t : Topology} {nodes : List Node} {a b : String}

/-- The steps that connect to a name, in the order of their declaration. -/
def Spec.stepsTo (spec : Spec) (b : String) : List Step :=
  spec.stepList.filter fun s => decide (s.connectsTo = some (.whole b))

/-- The graph, the connections and the inputs of a topology tell the same edges. -/
structure EdgesAgree (spec : Spec) (t : Topology) (g : Graph) : Prop where
  /-- An edge is what a node connects to. -/
  connects : ∀ a b, (a, b) ∈ g.edges ↔ t.Connects a b
  /-- An edge is what a node has as an input. -/
  records : ∀ a b, (a, b) ∈ g.edges ↔ t.Records a b
  /-- No processor has two incoming edges, nor one of them twice. -/
  single : ∀ b, t.kindOf? b = some .processor →
    (g.edges.filter fun e => decide (e.2 = b)).length ≤ 1
  /-- A sink lists what connects to it, each once, in the order of declaration. -/
  sinks : ∀ b inputs, t.find? b = some (.sink b inputs) →
    inputs.Nodup ∧ inputs.map some = (spec.stepsTo b).map Step.name

/-- What connects to a name, read off the nodes, is what the steps say. -/
theorem map_some_feeders {steps : List Step} (h : List.Forall₂ Step.Declares steps nodes)
    (b : String) : (Topology.feeders nodes b).map some =
      (steps.filter fun s => decide (s.connectsTo = some (.whole b))).map Step.name := by
  induction h with
  | nil => rfl
  | @cons s n _ _ hd _ ih =>
    by_cases hb : n.connectsTo? = some b
    · have hs : s.connectsTo = some (.whole b) := hd.connectsTo_eq_some_iff.mpr hb
      rw [Topology.feeders_cons_of_connects hb, List.map_cons, ih,
        List.filter_cons_of_pos (by simpa using hs), List.map_cons, hd.name]
    · have hs : s.connectsTo ≠ some (.whole b) := fun h => hb (hd.connectsTo_eq_some_iff.mp h)
      rw [Topology.feeders_cons_of_not_connects hb, ih,
        List.filter_cons_of_neg (by simpa using hs)]

/-- What a plan is made of: a declared topology whose graph it orders and whose inputs it adds. -/
theorem exists_represented_of_plan (h : (plan spec).2 = .ok p) :
    ∃ t nodes g, (Topology.ofSpec spec).2 = .ok t ∧ t.Represents spec nodes ∧ t.graph = .ok g ∧
      t.registerConnections nodes = (p.topology, none) := by
  obtain ⟨t, hspec, hplan⟩ := plan_eq_ok_iff.mp h
  obtain ⟨g, hgraph, -, hreg⟩ := Topology.plan_eq_ok_iff.mp hplan
  obtain ⟨nodes, ht⟩ := Topology.represents_of_ofSpec hspec
  refine ⟨t, nodes, g, hspec, ht, hgraph, ?_⟩
  rw [← hreg, Topology.registerInputs, ht.values_eq]

theorem Planned.connects_iff (hp : Planned spec p) :
    p.topology.Connects a b ↔ spec.Connects a b := by
  constructor
  · rintro ⟨n, hn, hto⟩
    exact hp.wellFormed.name_eq hn ▸ hp.connects_of_find? hn hto
  · rintro ⟨s, hs, ha, hto⟩
    obtain ⟨n, hwires, hn⟩ := hp.node_of_step hs
    obtain ⟨-, hname, hto'⟩ := hwires.facts
    have hna : n.name = a := Option.some.inj (hname.symm.trans ha)
    exact ⟨n, hna ▸ hn, (hto' b).mp hto⟩

theorem Topology.Represents.unfed_eq (ht : t.Represents spec nodes) : t.unfed = t := by
  rw [ht.eq]
  apply unfed_ofNodes
  intro n hn
  obtain ⟨s, -, hd⟩ := exists_left_of_forall₂ ht.declares hn
  exact hd.unfed_eq

theorem Topology.Represents.inputs_eq_nil (ht : t.Represents spec nodes) {n : Node}
    (hn : t.find? a = some n) : n.inputs = [] := by
  obtain ⟨s, -, hd⟩ := exists_left_of_forall₂ ht.declares (ht.find?_eq_some_iff.mp hn).1
  rw [← hd.unfed_eq, Node.inputs_unfed]

/-- Once all connections are registered, the inputs of a node are its feeders. -/
theorem Topology.Represents.inputs_eq (ht : t.Represents spec nodes) {t' : Topology}
    (hreg : t.registerConnections nodes = (t', none)) {n : Node} (hn : t'.find? a = some n) :
    n.inputs = feeders nodes a :=
  inputs_of_registerConnections hreg ht.distinct ht.inputs_eq_nil hn

theorem Topology.Represents.records_iff (ht : t.Represents spec nodes) {t' : Topology}
    (hreg : t.registerConnections nodes = (t', none)) (hlegal : t.LegalEdges) :
    t'.Records a b ↔ t.Connects a b := by
  rw [ht.connects_iff, ← ht.mem_feeders_iff]
  constructor
  · rintro ⟨n, hn, ha⟩
    rwa [ht.inputs_eq hreg hn] at ha
  · intro ha
    -- the target of an edge is declared, so there is a node that holds the inputs
    have hab : t.Connects a b := ht.connects_iff.mpr (ht.mem_feeders_iff.mp ha)
    obtain ⟨m, hm⟩ := mem_names_iff.mp (hlegal.target_mem hab)
    obtain ⟨n, -, hn⟩ := find?_registerConnections hreg hm
    refine ⟨n, hn, ?_⟩
    rwa [ht.inputs_eq hreg hn]

/-- The edges of a plan are the same in its graph, its connections and its inputs, and apart from
the inputs the topology of the plan is the one that was declared. -/
theorem plan_edges_agree (h : (plan spec).2 = .ok p) :
    ∃ t g, (Topology.ofSpec spec).2 = .ok t ∧ p.topology.unfed = t ∧ p.topology.graph = .ok g ∧
      EdgesAgree spec p.topology g := by
  obtain ⟨t, nodes, g, hspec, ht, hgraph, hreg⟩ := exists_represented_of_plan h
  have hp := planned_of_plan_eq_ok h
  have hunfed : p.topology.unfed = t :=
    (Topology.unfed_registerConnections hreg).trans ht.unfed_eq
  -- the graph does not see the inputs, so it is the one that was ordered
  have hgraph' : p.topology.graph = .ok g := by
    rw [← Topology.graph_unfed, hunfed, hgraph]
  obtain ⟨hlegal, hg, -, hedge⟩ := Topology.graph_spec ht.wellFormed hgraph
  obtain ⟨-, -, -, hedge'⟩ := Topology.graph_spec hp.wellFormed hgraph'
  refine ⟨t, g, hspec, hunfed, hgraph', ?_⟩
  constructor
  case connects =>
    intro a b
    rw [Graph.mem_edges hg, hedge']
  case records =>
    intro a b
    rw [Graph.mem_edges hg, hedge, ht.records_iff hreg hlegal]
  case single =>
    intro b hb
    obtain ⟨n, hn, hkind⟩ := Topology.kindOf?_eq_some_iff.mp hb
    have hinputs : n.inputs = ((g.edges.filter fun e => decide (e.2 = b)).map Prod.fst) := by
      rw [ht.inputs_eq hreg hn, Topology.edges_of_graph ht.wellFormed hgraph, ht.values_eq,
        Topology.feeders_eq]
    -- a processor has room for one input
    have hlength : n.inputs.length ≤ 1 := by
      cases n with
      | processor _ _ input => exact Option.length_toList_le
      | source | sink => cases hkind
    rwa [hinputs, List.length_map] at hlength
  case sinks =>
    intro b inputs hb
    have hinputs : inputs = Topology.feeders nodes b := ht.inputs_eq hreg hb
    rw [hinputs]
    exact ⟨Topology.nodup_feeders ht.distinct b, map_some_feeders ht.declares b⟩

/-- In the sample the connection between the two processors is an edge and an input. -/
theorem plan_edges_agree_sample : ∃ p g, (plan Spec.sample).2 = .ok p ∧ p.topology.graph = .ok g ∧
    ("clean", "count") ∈ g.edges ∧ p.topology.Records "clean" "count" ∧
    ¬ p.topology.Records "in" "count" := by
  obtain ⟨c, hc⟩ := exists_compile_sample
  obtain ⟨p, -, -, -, hplan, -⟩ := compile_eq_ok_iff.mp hc
  obtain ⟨t, g, -, -, hgraph, h⟩ := plan_edges_agree hplan
  have hedge : ∀ a b, (a, b) ∈ g.edges ↔ Spec.sample.Connects a b := by
    intro a b
    rw [h.connects, (planned_of_plan_eq_ok hplan).connects_iff]
  have hclean : ("clean", "count") ∈ g.edges := by
    rw [hedge, Spec.connects_sample]
    exact .inr (.inl ⟨rfl, rfl⟩)
  refine ⟨p, g, hplan, hgraph, hclean, (h.records _ _).mp hclean, ?_⟩
  rw [← h.records, hedge, Spec.connects_sample]
  decide

end StreamMesh
