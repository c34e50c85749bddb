import Mathlib.Data.Option.Basic
import StreamMesh.Compile
import StreamMesh.Proofs.Failure
import StreamMesh.Proofs.Graph.OfTopology
import StreamMesh.Proofs.Graph.Search
import StreamMesh.Proofs.Pairing
import StreamMesh.Proofs.Spec
import StreamMesh.Proofs.Topology.Refusal

/-!
# Which pipelines can be planned

A pipeline has a plan exactly if its steps declare nodes with distinct names, connections lead to
nodes of the right kind, they do not run in a circle, and no processor has two feeders. In a plan
every node is known with its connection and its inputs, and the order lists every node once.

## Main definitions

* `Topology.Represents` — a declared topology, in terms of the steps
* `Spec.Wires` — the node that a step becomes in a plan
* `Planned` — what holds of a plan

## Main results

* `Topology.ofSpec_isOk_iff` — the steps that declare a topology
* `Topology.Represents.legalEdges_iff`, `Topology.Represents.registerInputs_isOk_iff` — the
  conditions on a topology, in terms of the steps
* `planned_of_plan_eq_ok` — what a plan says of the specification
-/

namespace StreamMesh

open Relation

variable {spec : Spec} {steps : List Step} {nodes : List Node} {s : Step} {n : Node}
  {a b c : String}
  {k : NodeKind} {t t' : Topology} {f : Fault} {p : Plan}

section Declared

/-- The connection of a node is that of its step. -/
theorem Step.Declares.connectsTo_eq_some_iff (h : s.Declares n) :
    s.connectsTo = some (.whole b) ↔ n.connectsTo? = some b := by
  rw [h.connectsTo]
  cases n.connectsTo? <;> simp

theorem Step.complete_iff : s.Complete ↔ ∃ n, s.Declares n := by
  constructor
  · rintro ⟨⟨k, hk⟩, ⟨a, ha, hane⟩, hsink, horigin⟩
    cases k with
    | source =>
      obtain ⟨b, hb, hbne⟩ := horigin (by rw [hk]; decide)
      exact ⟨_, .source hk ha hane hb hbne⟩
    | processor =>
      obtain ⟨b, hb, hbne⟩ := horigin (by rw [hk]; decide)
      exact ⟨_, .processor hk ha hane hb hbne⟩
    | sink => exact ⟨_, .sink hk ha hane (hsink hk)⟩
  · rintro ⟨n, hn⟩
    refine ⟨⟨_, hn.kind⟩, ⟨_, hn.name, hn.name_ne⟩, fun h => ?_, fun h => ?_⟩
    · cases hn with
      | source hk => exact nomatch hk.symm.trans h
      | processor hk => exact nomatch hk.symm.trans h
      | sink _ _ _ hto => exact hto
    · cases hn with
      | source _ _ _ hb hbne => exact ⟨_, hb, hbne⟩
      | processor _ _ _ hb hbne => exact ⟨_, hb, hbne⟩
      | sink hk => exact absurd hk h

theorem exists_declares (h : ∀ s ∈ steps, s.Complete) :
    ∃ nodes, List.Forall₂ Step.Declares steps nodes := by
  induction steps with
  | nil => exact ⟨[], .nil⟩
  | cons s rest ih =>
    obtain ⟨n, hn⟩ := Step.complete_iff.mp (h s (List.mem_cons_self ..))
    obtain ⟨nodes, hnodes⟩ := ih fun s hs => h s (List.mem_cons_of_mem _ hs)
    exact ⟨n :: nodes, .cons hn hnodes⟩

/-- A specification declares a topology exactly if its steps are complete and their names
distinct. -/
theorem Topology.ofSpec_isOk_iff : (∃ t, (ofSpec spec).2 = .ok t) ↔ spec.Declared := by
  constructor
  · rintro ⟨t, h⟩
    obtain ⟨name, steps, nodes, hname, hne, hsteps, hnodes, hdistinct, rfl⟩ := ofSpec_eq_ok_iff.mp h
    have hlist : spec.stepList = steps := by rw [Spec.stepList, hsteps, Option.getD_some]
    refine ⟨⟨name, hname, hne⟩, by rw [hsteps]; nofun, fun s hs => ?_, ?_⟩
    · obtain ⟨n, -, hn⟩ := exists_right_of_forall₂ hnodes (hlist ▸ hs)
      exact Step.complete_iff.mpr ⟨n, hn⟩
    · rw [hlist, map_name_of_declares hnodes]
      exact hdistinct.map (Option.some_injective _)
  · rintro ⟨⟨name, hname, hne⟩, hsteps, hcomplete, hdistinct⟩
    obtain ⟨steps, hsteps⟩ := Option.ne_none_iff_exists'.mp hsteps
    have hlist : spec.stepList = steps := by rw [Spec.stepList, hsteps, Option.getD_some]
    rw [hlist] at hcomplete hdistinct
    obtain ⟨nodes, hnodes⟩ := exists_declares hcomplete
    rw [map_name_of_declares hnodes] at hdistinct
    exact ⟨_, ofSpec_eq_ok_iff.mpr
      ⟨name, steps, nodes, hname, hne, hsteps, hnodes, hdistinct.of_map _, rfl⟩⟩

/-- A declared topology, in terms of the steps. -/
structure Topology.Represents (t : Topology) (spec : Spec) (nodes : List Node) : Prop where
  name : spec.name = some t.name
  declares : List.Forall₂ Step.Declares spec.stepList nodes
  distinct : (nodes.map Node.name).Nodup
  eq : t = ofNodes t.name nodes

theorem Topology.represents_of_ofSpec (h : (ofSpec spec).2 = .ok t) :
    ∃ nodes, t.Represents spec nodes := by
  obtain ⟨name, steps, nodes, hname, -, hsteps, hnodes, hdistinct, rfl⟩ := ofSpec_eq_ok_iff.mp h
  exact ⟨nodes, hname, by rwa [Spec.stepList, hsteps], hdistinct, rfl⟩

end Declared

namespace Topology.Represents

variable (ht : t.Represents spec nodes)

include ht

theorem wellFormed : t.WellFormed := ht.eq ▸ wellFormed_ofNodes ht.distinct

theorem find?_eq_some_iff : t.find? a = some n ↔ n ∈ nodes ∧ n.name = a := by
  rw [ht.eq]
  exact find?_ofNodes ht.distinct

theorem values_eq : t.nodes.values = nodes := by
  rw [ht.eq]
  exact values_ofNodes _ _

theorem kindOf?_eq_some_iff : t.kindOf? a = some k ↔ spec.Has k a := by
  rw [Topology.kindOf?_eq_some_iff]
  constructor
  · rintro ⟨n, hn, rfl⟩
    obtain ⟨hmem, rfl⟩ := ht.find?_eq_some_iff.mp hn
    obtain ⟨s, hs, hd⟩ := exists_left_of_forall₂ ht.declares hmem
    exact ⟨s, hs, hd.kind, hd.name⟩
  · rintro ⟨s, hs, hk, hname⟩
    obtain ⟨n, hn, hd⟩ := exists_right_of_forall₂ ht.declares hs
    refine ⟨n, ht.find?_eq_some_iff.mpr ⟨hn, Option.some.inj (hd.name.symm.trans hname)⟩, ?_⟩
    exact NodeKind.eq_of_text hd.kind hk

theorem connects_iff : t.Connects a b ↔ spec.Connects a b := by
  constructor
  · rintro ⟨n, hn, hto⟩
    obtain ⟨hmem, rfl⟩ := ht.find?_eq_some_iff.mp hn
    obtain ⟨s, hs, hd⟩ := exists_left_of_forall₂ ht.declares hmem
    exact ⟨s, hs, hd.name, hd.connectsTo_eq_some_iff.mpr hto⟩
  · rintro ⟨s, hs, hname, hto⟩
    obtain ⟨n, hn, hd⟩ := exists_right_of_forall₂ ht.declares hs
    exact ⟨n, ht.find?_eq_some_iff.mpr ⟨hn, Option.some.inj (hd.name.symm.trans hname)⟩,
      hd.connectsTo_eq_some_iff.mp hto⟩

/-- The graph of a topology has the connections of the specification. -/
theorem edge_eq {g : Graph} (hgraph : t.graph = .ok g) : g.Edge = spec.Connects := by
  obtain ⟨-, -, -, hedge⟩ := Topology.graph_spec ht.wellFormed hgraph
  ext a b
  exact (hedge a b).trans ht.connects_iff

/-- If the graph has an order, the connections have no cycle. -/
theorem acyclic_of_order {g : Graph} {order : List String} (hgraph : t.graph = .ok g)
    (h : g.order = .ok order) : spec.Acyclic := by
  obtain ⟨-, hg, -, -⟩ := Topology.graph_spec ht.wellFormed hgraph
  intro a ha
  rw [← ht.edge_eq hgraph] at ha
  exact Graph.acyclic_of_order_eq_ok hg h ha

theorem mem_feeders_iff : a ∈ feeders nodes b ↔ spec.Connects a b := by
  rw [Topology.mem_feeders_iff, ← ht.connects_iff]
  constructor
  · rintro ⟨n, hn, hto, rfl⟩
    exact ⟨n, ht.find?_eq_some_iff.mpr ⟨hn, rfl⟩, hto⟩
  · rintro ⟨n, hn, hto⟩
    obtain ⟨hmem, hname⟩ := ht.find?_eq_some_iff.mp hn
    exact ⟨n, hmem, hto, hname⟩

theorem legalEdges_iff : t.LegalEdges ↔ spec.Legal := by
  have hkind : ∀ {a n}, t.find? a = some n → spec.Has n.kind a := fun hn =>
    ht.kindOf?_eq_some_iff.mp (Topology.kindOf?_eq_some_iff.mpr ⟨_, hn, rfl⟩)
  have hunique : ∀ {j a n}, t.find? a = some n → spec.Has j a → n.kind = j := fun hn hj => by
    -- the topology gives a name one kind, and it is that of the steps
    have h := ht.kindOf?_eq_some_iff.mpr hj
    rw [kindOf?, hn, Option.map_some] at h
    exact Option.some.inj h
  constructor
  · intro h a b hab
    obtain ⟨n, hn, hto⟩ := ht.connects_iff.mpr hab
    have hlegal := h a n b hn hto
    constructor
    · intro hsource
      rw [hunique hn hsource, connects_source_iff, ht.kindOf?_eq_some_iff] at hlegal
      exact hlegal
    · intro hprocessor
      rw [hunique hn hprocessor, connects_processor_iff, ht.kindOf?_eq_some_iff,
        ht.kindOf?_eq_some_iff] at hlegal
      exact hlegal
  · intro h a n b hn hto
    obtain ⟨hsource, hprocessor⟩ := h a b (ht.connects_iff.mp ⟨n, hn, hto⟩)
    have hk := hkind hn
    cases n with
    | source => exact connects_source_iff.mpr (ht.kindOf?_eq_some_iff.mpr (hsource hk))
    | processor =>
      exact connects_processor_iff.mpr
        ((hprocessor hk).imp ht.kindOf?_eq_some_iff.mpr ht.kindOf?_eq_some_iff.mpr)
    | sink => cases hto

/-- Where registering succeeds, steps that connect to one processor are one step. -/
theorem singleInput_of_registerConnections {t' : Topology}
    (h : t.registerConnections nodes = (t', none)) : spec.SingleInput := by
  intro s hs s' hs' b hb hto hto'
  obtain ⟨m, hm, hmk⟩ := Topology.kindOf?_eq_some_iff.mp (ht.kindOf?_eq_some_iff.mpr hb)
  obtain ⟨m', hm', -⟩ := find?_registerConnections h hm
  obtain ⟨n, hn, hd⟩ := exists_right_of_forall₂ ht.declares hs
  obtain ⟨n', hn', hd'⟩ := exists_right_of_forall₂ ht.declares hs'
  cases m with
  | source | sink => cases hmk
  | processor =>
    -- both steps are among the feeders of the processor, which has taken all of them
    obtain ⟨hall, -⟩ := fedByAll_processor_iff.mp hm'
    have hname : n.name = n'.name := hall _
      (List.mem_append_right _ (ht.mem_feeders_iff.mpr ⟨s, hs, hd.name, hto⟩)) _
      (List.mem_append_right _ (ht.mem_feeders_iff.mpr ⟨s', hs', hd'.name, hto'⟩))
    have hnames : s.name = s'.name := by rw [hd.name, hd'.name, hname]
    have hdistinct : (spec.stepList.map Step.name).Nodup := by
      rw [map_name_of_declares ht.declares]
      exact ht.distinct.map (Option.some_injective _)
    exact List.inj_on_of_nodup_map hdistinct hs hs' hnames

/-- If no processor has two feeders, every node takes all of its feeders. -/
theorem exists_fedByAll (hlegal : t.LegalEdges) (hsingle : spec.SingleInput) {m : Node}
    (hm : t.find? a = some m) : ∃ m', fedByAll a (feeders nodes a) m = .ok m' := by
  obtain ⟨hmem, hname⟩ := ht.find?_eq_some_iff.mp hm
  obtain ⟨s₀, -, hd₀⟩ := exists_left_of_forall₂ ht.declares hmem
  cases hd₀ with
  | source =>
    -- nothing connects to a source, so it has no feeders
    have hnone : feeders nodes a = [] := by
      refine List.eq_nil_iff_forall_not_mem.mpr fun x hx => ?_
      obtain ⟨k, hk, hne⟩ := hlegal.target (ht.connects_iff.mpr (ht.mem_feeders_iff.mp hx))
      rw [kindOf?, hm] at hk
      exact hne (Option.some.inj hk).symm
    rw [hnone]
    exact ⟨_, rfl⟩
  | processor =>
    have ha : spec.Has .processor a :=
      ht.kindOf?_eq_some_iff.mp (Topology.kindOf?_eq_some_iff.mpr ⟨_, hm, rfl⟩)
    refine ⟨_, fedByAll_processor_iff.mpr ⟨fun x hx y hy => ?_, rfl⟩⟩
    obtain ⟨s, hs, hsx, hto⟩ := ht.mem_feeders_iff.mp hx
    obtain ⟨s', hs', hsy, hto'⟩ := ht.mem_feeders_iff.mp hy
    obtain rfl := hsingle s hs s' hs' a ha hto hto'
    exact Option.some.inj (hsx.symm.trans hsy)
  | sink =>
    obtain ⟨inputs, h⟩ := fedByAll_sink a _ [] (feeders nodes a)
    exact ⟨_, h⟩

/-- Registering succeeds on legal connections exactly if no processor has two feeders. -/
theorem registerInputs_isOk_iff (hlegal : t.LegalEdges) :
    (∃ t', t.registerInputs = (t', none)) ↔ spec.SingleInput := by
  have hdeclared : ∀ n ∈ nodes, ∀ dest, n.connectsTo? = some dest → dest ∈ t.names :=
    fun n hn dest hto => hlegal.target_mem ⟨n, ht.find?_eq_some_iff.mpr ⟨hn, rfl⟩, hto⟩
  rw [registerInputs, ht.values_eq]
  constructor
  · intro ⟨t', h⟩
    exact ht.singleInput_of_registerConnections h
  · intro hsingle
    exact registerConnections_eq_none hdeclared fun dest m hm =>
      ht.exists_fedByAll hlegal hsingle hm

/-- Registering fails on legal connections for a processor with a second feeder only. -/
theorem secondInput_of_registerInputs (hlegal : t.LegalEdges)
    (h : t.registerInputs = (t', some f)) :
    (∃ processor known other, f = .secondInput processor known other) ∧ ¬ spec.SingleInput := by
  constructor
  · have hfault : (t.registerConnections t.nodes.values).2 = some f := congrArg Prod.snd h
    have htarget : ∀ n ∈ t.nodes.values, ∀ dest, n.connectsTo? = some dest →
        ∃ k, t.kindOf? dest = some k ∧ k ≠ .source := fun n hn dest hto =>
      hlegal.target ⟨n, ht.wellFormed.mem_values_iff.mp hn, hto⟩
    exact Topology.secondInput_of_registerConnections hfault htarget
  · rw [← ht.registerInputs_isOk_iff hlegal, h]
    rintro ⟨_, hok⟩
    cases hok

end Topology.Represents

section Planned

/-- The node that a step becomes in a plan: a processor knows who feeds it. -/
inductive Spec.Wires (spec : Spec) (s : Step) : Node → Prop
  | source {name target : String} : s.Declares (.source name target) →
      spec.Wires s (.source name target)
  | processor {name target : String} {input : Option String} {env : Assoc RawText RawText} :
      s.Declares (.processor name target none env) →
      (∀ origin, input = some origin ↔ spec.Connects origin name) →
      spec.Wires s (.processor name target input env)
  | sink {name : String} {inputs : List String} : s.Declares (.sink name []) →
      spec.Wires s (.sink name inputs)

theorem Spec.Wires.facts (h : spec.Wires s n) :
    s.kind = some (.whole n.kind.text) ∧ s.name = some n.name ∧
      ∀ b : String, s.connectsTo = some (.whole b) ↔ n.connectsTo? = some b := by
  cases h with
  | source h | processor h | sink h =>
    exact ⟨h.kind, h.name, fun _ => h.connectsTo_eq_some_iff⟩

/-- What holds of a plan. -/
structure Planned (spec : Spec) (p : Plan) : Prop where
  name : spec.name = some p.topology.name
  wellFormed : p.topology.WellFormed
  /-- The order lists every node once. -/
  order_perm : p.order.Perm p.topology.names
  /-- The origin of every connection comes before its target. -/
  order_lt : ∀ {a b}, spec.Connects a b → p.order.idxOf a < p.order.idxOf b
  declared : spec.Declared
  legal : spec.Legal
  acyclic : spec.Acyclic
  singleInput : spec.SingleInput
  /-- Every node comes from a step. -/
  step_of_find? : ∀ {a n}, p.topology.find? a = some n → ∃ s ∈ spec.stepList, spec.Wires s n
  /-- Every step becomes a node. -/
  node_of_step : ∀ {s}, s ∈ spec.stepList →
    ∃ n, spec.Wires s n ∧ p.topology.find? n.name = some n

theorem Topology.plan_eq_ok_iff : t.plan.2 = .ok p ↔
    ∃ g, t.graph = .ok g ∧ g.order = .ok p.order ∧ t.registerInputs = (p.topology, none) := by
  unfold Topology.plan
  cases hg : t.graph with
  | error f => simp
  | ok g =>
    cases ho : g.order with
    | error f => simp [ho]
    | ok order =>
      rcases hr : t.registerInputs with ⟨t', _ | f⟩
      · simp only [Except.ok.injEq, exists_eq_left', ho, Prod.mk.injEq, and_true]
        constructor
        · rintro rfl
          exact ⟨rfl, rfl⟩
        · rintro ⟨rfl, rfl⟩
          rfl
      · simp [ho]

theorem plan_eq_ok_iff : (plan spec).2 = .ok p ↔
    ∃ t, (Topology.ofSpec spec).2 = .ok t ∧ t.plan.2 = .ok p := by
  unfold plan
  rcases Topology.ofSpec spec with ⟨events, f | t⟩ <;> simp [Failure.ofFault_eq_ok_iff]

/-- A registered node is the one that its step wires. -/
theorem Topology.Represents.wires (ht : t.Represents spec nodes) (hd : s.Declares n) {m : Node}
    (hm : fedByAll n.name (feeders nodes n.name) n = .ok m) : spec.Wires s m := by
  cases hd with
  | @source name target hk hname hne hto htne =>
    cases hf : feeders nodes name with
    | nil =>
      rw [Node.name, hf] at hm
      cases hm
      exact .source (.source hk hname hne hto htne)
    | cons a rest =>
      rw [Node.name, hf] at hm
      cases hm
  | @processor name target hk hname hne hto htne =>
    obtain ⟨hall, rfl⟩ := fedByAll_processor_iff.mp hm
    refine .processor (.processor hk hname hne hto htne) fun origin => ?_
    rw [← ht.mem_feeders_iff]
    refine ⟨List.mem_of_mem_head?, fun horigin => ?_⟩
    -- all feeders are one, so the first of them is the one at hand
    cases hf : feeders nodes name with
    | nil =>
      rw [hf] at horigin
      cases horigin
    | cons a rest =>
      have ha : a ∈ feeders nodes name := hf ▸ List.mem_cons_self ..
      have hsame : a = origin :=
        hall a (List.mem_append_right _ ha) origin (List.mem_append_right _ horigin)
      rw [Node.name, hf, hsame]
      rfl
  | @sink name hk hname hne hto =>
    obtain ⟨inputs, h⟩ := fedByAll_sink name name [] (feeders nodes name)
    rw [Node.name, h] at hm
    cases hm
    exact .sink (.sink hk hname hne hto)

/-- What a plan says of the specification. -/
theorem planned_of_plan_eq_ok (h : (plan spec).2 = .ok p) : Planned spec p := by
  obtain ⟨t, hspec, hplan⟩ := plan_eq_ok_iff.mp h
  obtain ⟨g, hgraph, horder, hreg⟩ := Topology.plan_eq_ok_iff.mp hplan
  obtain ⟨nodes, ht⟩ := Topology.represents_of_ofSpec hspec
  obtain ⟨hlegal, hg, hvertices, -⟩ := Topology.graph_spec ht.wellFormed hgraph
  -- registering only fills in inputs, so that names and steps are those of before
  have hreg' : t.registerConnections nodes = (p.topology, none) := by
    rw [← hreg, Topology.registerInputs, ht.values_eq]
  refine
    { name := ?_, wellFormed := ht.wellFormed.registerConnections hreg', order_perm := ?_,
      order_lt := ?_, declared := Topology.ofSpec_isOk_iff.mp ⟨t, hspec⟩,
      legal := ht.legalEdges_iff.mp hlegal, acyclic := ht.acyclic_of_order hgraph horder,
      singleInput := (ht.registerInputs_isOk_iff hlegal).mp ⟨_, hreg⟩,
      step_of_find? := ?_, node_of_step := ?_ }
  · rw [ht.name, ← Topology.name_registerConnections t nodes, hreg']
  · rw [Topology.names_registerConnections hreg', ← hvertices]
    exact Graph.perm_vertices_of_order_eq_ok hg horder
  · intro a b hab
    rw [← ht.edge_eq hgraph] at hab
    exact Graph.idxOf_lt_of_order_eq_ok hg horder hab
  · intro a m hm
    obtain ⟨n, hn, hfed⟩ := Topology.exists_of_find?_registerConnections hreg' hm
    obtain ⟨hmem, rfl⟩ := ht.find?_eq_some_iff.mp hn
    obtain ⟨s, hs, hd⟩ := exists_left_of_forall₂ ht.declares hmem
    exact ⟨s, hs, ht.wires hd hfed⟩
  · intro s hs
    obtain ⟨n, hn, hd⟩ := exists_right_of_forall₂ ht.declares hs
    obtain ⟨m, hfed, hm⟩ :=
      Topology.find?_registerConnections hreg' (ht.find?_eq_some_iff.mpr ⟨hn, rfl⟩)
    exact ⟨m, ht.wires hd hfed, (Topology.eq_of_fedByAll hfed).1.symm ▸ hm⟩

end Planned

end StreamMesh
