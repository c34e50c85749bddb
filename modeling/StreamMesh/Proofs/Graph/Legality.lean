import StreamMesh.Proofs.Graph.Edges
import StreamMesh.Proofs.Pairing
import StreamMesh.Proofs.Topology.Registering

/-!
# Which connections a graph is refused for

A source may connect to a processor only, and a processor to a processor or a sink. A topology has a
graph exactly if all its nodes do, and the graph then shows every connection. Otherwise one node is
named: the first source that does not, or if all sources do, the first processor.

## Main definitions

* `Topology.Legal` — a node connects to what its kind allows
* `Topology.FirstIllegal` — the node that a refusal names

## Main results

* `Topology.graph_eq_error_iff_firstIllegal` — which node a refusal names
* `Topology.graph_exactly` — the outcome for the topologies that calls can lead to
-/

namespace StreamMesh.Topology

variable {t : Topology} {n m : Node} {a b : String} {f : Fault} {g : Graph}

/-- A node that connects to another name connects to a processor, or is a processor itself and
connects to a sink. -/
def Legal (t : Topology) (n : Node) : Prop :=
  ∀ b, n.connectsTo? = some b →
    t.kindOf? b = some .processor ∨ n.kind = .processor ∧ t.kindOf? b = some .sink

/-- A node is the first of its kind that is not legal, and if it is a processor all sources are. -/
structure FirstIllegal (t : Topology) (n : Node) : Prop where
  illegal : ¬ t.Legal n
  first : ∃ before after, t.nodesOf n.kind = before ++ n :: after ∧ ∀ m ∈ before, t.Legal m
  sources : n.kind = .processor → ∀ m ∈ t.nodesOf .source, t.Legal m

section Legal

theorem connects_iff {k : Option NodeKind} (hto : n.connectsTo? = some b) :
    connects n.kind k = true ↔ k = some .processor ∨ n.kind = .processor ∧ k = some .sink := by
  cases n with
  | source => simp [Node.kind, connects_source_iff]
  | processor => simp [Node.kind, connects_processor_iff]
  | sink => cases hto

theorem legal_iff :
    t.Legal n ↔ ∀ b, n.connectsTo? = some b → connects n.kind (t.kindOf? b) = true :=
  forall₂_congr fun _ hto => (connects_iff hto).symm

theorem not_legal_iff (hto : n.connectsTo? = some b) :
    ¬ t.Legal n ↔ ¬ connects n.kind (t.kindOf? b) = true := by
  rw [legal_iff, hto]
  simp

/-- What connects to nothing is legal. -/
theorem exists_of_not_legal (h : ¬ t.Legal n) : ∃ b, n.connectsTo? = some b := by
  by_contra hnone
  exact h fun b hto => absurd ⟨b, hto⟩ hnone

theorem legalEdges_iff_forall_legal (ht : t.WellFormed) :
    t.LegalEdges ↔ ∀ n ∈ t.nodes.values, t.Legal n := by
  simp only [legalEdges_iff ht, ← legal_iff, mem_origins_iff]
  constructor
  · intro h n hn b hto
    exact h n ⟨hn, kind_ne_sink_of_connectsTo? hto⟩ b hto
  · intro h n hn
    exact h n hn.1

theorem kind_of_split {k : NodeKind} {before after : List Node}
    (h : t.nodesOf k = before ++ n :: after) : n.kind = k := by
  have hmem : n ∈ t.nodesOf k := by
    rw [h]
    exact List.mem_append_right _ (List.mem_cons_self ..)
  exact (mem_nodesOf_iff.mp hmem).2

/-- The node that a refusal names is the first that is not legal among the sources and, after them,
the processors. -/
theorem firstIllegal_iff : t.FirstIllegal n ↔ ¬ t.Legal n ∧ ∃ before after,
    t.nodesOf .source ++ t.nodesOf .processor = before ++ n :: after ∧ ∀ m ∈ before, t.Legal m := by
  constructor
  · rintro ⟨hn, ⟨before, after, hsplit, hbefore⟩, hsources⟩
    refine ⟨hn, ?_⟩
    cases hk : n.kind with
    | source =>
      rw [hk] at hsplit
      refine ⟨before, after ++ t.nodesOf .processor, ?_, hbefore⟩
      rw [hsplit, List.append_assoc, List.cons_append]
    | processor =>
      rw [hk] at hsplit
      refine ⟨t.nodesOf .source ++ before, after, by rw [hsplit, List.append_assoc], ?_⟩
      exact List.forall_mem_append.mpr ⟨hsources hk, hbefore⟩
    | sink =>
      obtain ⟨b, hto⟩ := exists_of_not_legal hn
      exact absurd hk (kind_ne_sink_of_connectsTo? hto)
  · rintro ⟨hn, before, after, hsplit, hbefore⟩
    rcases append_eq_append_cons_iff.mp hsplit with ⟨rest, rfl, hrest⟩ | ⟨rest, hrest, -⟩
    · -- the node comes after all sources
      have hk : n.kind = .processor := kind_of_split hrest
      obtain ⟨hlegal, hfirst⟩ := List.forall_mem_append.mp hbefore
      exact ⟨hn, ⟨rest, after, hk.symm ▸ hrest, hfirst⟩, fun _ => hlegal⟩
    · have hk : n.kind = .source := kind_of_split hrest
      exact ⟨hn, ⟨before, rest, hk.symm ▸ hrest, hbefore⟩, fun h => nomatch hk.symm.trans h⟩

theorem graph_eq_error_iff_firstIllegal : t.graph = .error f ↔
    ∃ n b, t.FirstIllegal n ∧ n.connectsTo? = some b ∧
      f = .invalidEdge n.name b (expected n.kind) := by
  simp only [graph_eq_error_iff, edgesOf_eq_error_iff, ← legal_iff, firstIllegal_iff]
  constructor
  · rintro ⟨before, n, after, b, hsplit, hbefore, hto, hn, rfl⟩
    exact ⟨n, b, ⟨(not_legal_iff hto).mpr hn, before, after, hsplit, hbefore⟩, hto, rfl⟩
  · rintro ⟨n, b, ⟨hn, before, after, hsplit, hbefore⟩, hto, rfl⟩
    exact ⟨before, n, after, b, hsplit, hbefore, hto, (not_legal_iff hto).mp hn, rfl⟩

end Legal

section Graph

/-- The graph of a topology lists the connection of every node under its name. -/
theorem successors?_of_graph (ht : t.WellFormed) (h : t.graph = .ok g) (hn : n ∈ t.nodes.values) :
    g.successors? n.name = some n.connectsTo?.toList := by
  obtain ⟨-, -, hvertices, -⟩ := graph_spec ht h
  have hfind : t.find? n.name = some n := ht.mem_values_iff.mp hn
  have hmem : n.name ∈ g.vertices := hvertices ▸ mem_names_iff.mpr ⟨n, hfind⟩
  have hsuccessors : g.successors n.name = n.connectsTo?.toList := by
    rw [successors_of_graph ht h, connectsTo?, hfind, Option.bind_some]
  cases hs : g.successors? n.name with
  | none => exact absurd hmem (Assoc.find?_eq_none_iff.mp hs)
  | some targets =>
    rw [Graph.successors, hs, Option.getD_some] at hsuccessors
    rw [hsuccessors]

/-- The graph of a topology that calls have led to. It exists exactly if every source connects to a
declared processor, and every processor to a declared processor or sink. Its vertices are then the
names of the nodes, its successors what the nodes connect to, and both as well as the edges come in
the order in which the nodes were declared. Otherwise the first source that is not legal is named,
or if all sources are legal, the first processor. -/
theorem graph_exactly (ht : t.Reached) :
    ((∃ g, t.graph = .ok g) ↔ ∀ n ∈ t.nodes.values, t.Legal n) ∧
    (∀ g, t.graph = .ok g →
      g.vertices = t.names ∧
      (∀ n ∈ t.nodes.values, g.successors? n.name = some n.connectsTo?.toList) ∧
      g.edges = connections t.nodes.values) ∧
    ∀ f, t.graph = .error f ↔ ∃ n b, t.FirstIllegal n ∧ n.connectsTo? = some b ∧
      f = .invalidEdge n.name b (expected n.kind) := by
  have hwell := ht.sound.toWellFormed
  refine ⟨(graph_isOk_iff hwell).trans (legalEdges_iff_forall_legal hwell), fun g h => ?_,
    fun _ => graph_eq_error_iff_firstIllegal⟩
  exact ⟨(graph_spec hwell h).2.2.1, fun n hn => successors?_of_graph hwell h hn,
    edges_of_graph hwell h⟩

/-- Calls that declare a processor which feeds itself, and the nodes of a pipeline out of order. -/
def Call.outOfOrder : List Call := [
  .declare (.processor (.str "loop") (.str "loop") .null),
  .declare (.sink (.str "out")),
  .declare (.processor (.str "count") (.str "out") .null),
  .registerInputs,
  .declare (.source (.str "read") (.str "count"))]

/-- Calls that declare a processor which feeds a source, and a source which feeds no node. -/
def Call.stray : List Call := [
  .declare (.processor (.str "back") (.str "read") .null),
  .declare (.source (.str "lost") (.str "nowhere"))]

/-- The first calls lead to a topology with a graph. After the others the source is named, although
the processor was declared before it. -/
theorem graph_exactly_outOfOrder :
    (run ⟨"demo", .empty⟩ Call.outOfOrder).Reached ∧
    (∃ g, (run ⟨"demo", .empty⟩ Call.outOfOrder).graph = .ok g ∧
      g.vertices = ["loop", "out", "count", "read"] ∧
      g.edges = [("loop", "loop"), ("count", "out"), ("read", "count")]) ∧
    (run ⟨"demo", .empty⟩ (Call.outOfOrder ++ Call.stray)).Reached ∧
    (run ⟨"demo", .empty⟩ (Call.outOfOrder ++ Call.stray)).graph =
      .error (.invalidEdge "lost" "nowhere" "processor") ∧
    ∃ n, (run ⟨"demo", .empty⟩ (Call.outOfOrder ++ Call.stray)).FirstIllegal n ∧
      n.name = "lost" ∧ n.connectsTo? = some "nowhere" := by
  have hreached : ∀ calls, (run ⟨"demo", .empty⟩ calls).Reached :=
    fun calls => ⟨some "demo", _, calls, rfl, rfl⟩
  obtain ⟨-, hgraph, -⟩ := graph_exactly (hreached Call.outOfOrder)
  obtain ⟨-, -, hrefused⟩ := graph_exactly (hreached (Call.outOfOrder ++ Call.stray))
  obtain ⟨hvertices, -, hedges⟩ := hgraph _ rfl
  obtain ⟨n, b, hfirst, hto, hfault⟩ := (hrefused _).mp rfl
  obtain ⟨hname, rfl, -⟩ := Fault.invalidEdge.inj hfault
  exact ⟨hreached _, ⟨_, rfl, hvertices, hedges⟩, hreached _, rfl, n, hfirst, hname.symm, hto⟩

end Graph

end StreamMesh.Topology
