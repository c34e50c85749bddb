import StreamMesh.Proofs.Graph.OfTopology
import StreamMesh.Proofs.Topology.BackReference

/-!
# The edges of a topology as a list

The graph of a topology lists every connection once, in the order in which the nodes are declared,
whatever the order in which the edges were added. It depends on the forward connections only: what
is known of the inputs of nodes does not enter it.

## Main definitions

* `Topology.connectsTo?` — what the node of a name connects to
* `Topology.connections` — the connections of nodes, as pairs

## Main results

* `Topology.successors_of_graph` — the successors of a node are what it connects to
* `Topology.edges_of_graph` — the edges are the connections, in the order of the nodes
* `Topology.feeders_eq` — the feeders of a node are the origins of the edges that lead to it
* `Topology.graph_unfed` — inputs do not enter the graph
-/

namespace StreamMesh

/-- The edges of a graph, by vertex and then by successor. -/
theorem Graph.edges_eq {g : Graph} (hg : g.WellFormed) :
    g.edges = g.vertices.flatMap fun v => (g.successors v).map fun w => (v, w) := by
  rw [edges, Assoc.entries_eq_map_keys hg.nodup [], List.flatMap_map]
  rfl

theorem Graph.mem_edges {g : Graph} (hg : g.WellFormed) {a b : String} :
    (a, b) ∈ g.edges ↔ g.Edge a b := by
  rw [edges_eq hg]
  constructor
  · intro h
    obtain ⟨v, -, hv⟩ := List.mem_flatMap.mp h
    obtain ⟨w, hw, he⟩ := List.mem_map.mp hv
    cases he
    exact hw
  · intro h
    exact List.mem_flatMap.mpr ⟨a, h.origin_mem, List.mem_map_of_mem h⟩

namespace Topology

variable {t : Topology} {n : Node} {ns : List Node} {a b : String} {g : Graph}
  {es : List (String × String)}

/-- What the node of a name connects to. -/
def connectsTo? (t : Topology) (a : String) : Option String := (t.find? a).bind Node.connectsTo?

theorem connectsTo?_eq_some_iff : t.connectsTo? a = some b ↔ t.Connects a b :=
  Option.bind_eq_some_iff

/-- The connections of nodes, as pairs of a node and what it connects to. -/
def connections (ns : List Node) : List (String × String) :=
  ns.filterMap fun n => n.connectsTo?.map fun b => (n.name, b)

section Connections

theorem mem_connections_iff :
    (a, b) ∈ connections ns ↔ ∃ n ∈ ns, n.name = a ∧ n.connectsTo? = some b := by
  simp only [connections, List.mem_filterMap, Option.map_eq_some_iff, Prod.mk.injEq]
  constructor
  · rintro ⟨n, hn, _, hto, hname, rfl⟩
    exact ⟨n, hn, hname, hto⟩
  · rintro ⟨n, hn, hname, hto⟩
    exact ⟨n, hn, b, hto, hname, rfl⟩

/-- A node has one connection at most, so the origins are among the names, in their order. -/
theorem origins_sublist (ns : List Node) :
    ((connections ns).map Prod.fst).Sublist (ns.map Node.name) := by
  induction ns with
  | nil => exact .slnil
  | cons n rest ih =>
    cases hc : n.connectsTo? with
    | none => simpa [connections, hc] using ih.cons n.name
    | some b => simpa [connections, hc] using ih.cons_cons n.name

theorem nodup_connections (hns : (ns.map Node.name).Nodup) : (connections ns).Nodup :=
  (hns.sublist (origins_sublist ns)).of_map

/-- The feeders of a node are the origins of the connections that lead to it. -/
theorem feeders_eq (ns : List Node) (b : String) :
    feeders ns b = ((connections ns).filter fun e => decide (e.2 = b)).map Prod.fst := by
  induction ns with
  | nil => rfl
  | cons n rest ih =>
    cases hc : n.connectsTo? with
    | none =>
      rw [feeders_cons_of_not_connects (by rw [hc]; nofun), ih]
      simp [connections, hc]
    | some c =>
      by_cases hb : c = b
      · rw [feeders_cons_of_connects (by rw [hc, hb]), ih]
        simp [connections, hc, hb]
      · rw [feeders_cons_of_not_connects (by simpa [hc] using hb), ih]
        simp [connections, hc, hb]

end Connections

section Graph

/-- Edges that leave a vertex are added to its successors, in their order. -/
theorem successors_addEdges (hes : ∀ e ∈ es, e.1 ∈ g.vertices ∧ e.2 ∈ g.vertices) (a : String) :
    (addEdges g es).successors a =
      g.successors a ++ (es.filter fun e => decide (e.1 = a)).map Prod.snd := by
  induction es generalizing g with
  | nil => simp [addEdges]
  | cons e rest ih =>
    obtain ⟨c, d⟩ := e
    obtain ⟨hc, hd⟩ := hes (c, d) (List.mem_cons_self ..)
    -- no edge is passed over, since both its ends are there
    obtain ⟨g₁, hg₁⟩ : ∃ g₁, g.addEdge c d = .ok g₁ :=
      ⟨_, Graph.addEdge_eq_ok_iff.mpr ⟨hc, hd, rfl⟩⟩
    have hstep : addEdges g ((c, d) :: rest) = addEdges g₁ rest := by
      simp [addEdges, hg₁]
    have hrest : ∀ e ∈ rest, e.1 ∈ g₁.vertices ∧ e.2 ∈ g₁.vertices := fun e he => by
      rw [Graph.vertices_addEdge hg₁]
      exact hes e (List.mem_cons_of_mem _ he)
    rw [hstep, ih hrest, Graph.successors_addEdge hg₁]
    by_cases ha : a = c
    · subst ha
      simp
    · have hne : ¬ c = a := fun e => ha e.symm
      simp [ha, hne]

theorem WellFormed.map_name_values (ht : t.WellFormed) :
    t.nodes.values.map Node.name = t.names := by
  rw [Assoc.values, names, Assoc.keys, List.map_map]
  refine List.map_congr_left fun e he => ?_
  exact ht.name_eq ((Assoc.find?_eq_some_iff ht.nodup).mpr he)

/-- The nodes whose connections become edges have distinct names. -/
theorem WellFormed.nodup_origins (ht : t.WellFormed) :
    ((t.nodesOf .source ++ t.nodesOf .processor).map Node.name).Nodup := by
  have hkind : ∀ k, ((t.nodesOf k).map Node.name).Nodup := by
    intro k
    have hsub : (t.nodesOf k).Sublist t.nodes.values := List.filter_sublist.map Prod.snd
    exact (ht.map_name_values.symm ▸ ht.nodup).sublist (hsub.map Node.name)
  rw [List.map_append, List.nodup_append]
  refine ⟨hkind .source, hkind .processor, ?_⟩
  -- one name is that of one node, which has one kind
  intro a ha b hb hab
  subst hab
  obtain ⟨n, hn, rfl⟩ := List.mem_map.mp ha
  obtain ⟨m, hm, hname⟩ := List.mem_map.mp hb
  obtain ⟨hnmem, hnkind⟩ := mem_nodesOf_iff.mp hn
  obtain ⟨hmmem, hmkind⟩ := mem_nodesOf_iff.mp hm
  have hfind : t.find? n.name = some m := hname ▸ ht.mem_values_iff.mp hmmem
  rw [ht.mem_values_iff.mp hnmem] at hfind
  cases hfind
  rw [hnkind] at hmkind
  cases hmkind

theorem successors_foldl_addVertex (g : Graph) (names : List String) (a : String) :
    (names.foldl Graph.addVertex g).successors a = g.successors a := by
  induction names generalizing g with
  | nil => rfl
  | cons b rest ih => exact (ih _).trans (Graph.successors_addVertex g b a)

/-- No edge of a topology is added twice. -/
theorem nodup_successors_of_graph (ht : t.WellFormed) (h : t.graph = .ok g) (a : String) :
    (g.successors a).Nodup := by
  obtain ⟨hlegal, -⟩ := graph_spec ht h
  obtain ⟨es, hes, hg⟩ := bind_eq_ok_iff.mp h
  cases hg
  obtain ⟨-, rfl⟩ := edgesOf_eq_ok_iff.mp hes
  have hvertices : (t.names.foldl Graph.addVertex .empty).vertices = t.names :=
    vertices_foldl_addVertex (g := .empty) ht.nodup
  have hends : ∀ e ∈ connections (t.nodesOf .source ++ t.nodesOf .processor),
      e.1 ∈ (t.names.foldl Graph.addVertex .empty).vertices ∧
        e.2 ∈ (t.names.foldl Graph.addVertex .empty).vertices := by
    intro ⟨a, b⟩ he
    have hab : t.Connects a b := (mem_edges_iff ht).mp he
    rw [hvertices]
    exact ⟨mem_names_iff.mpr (hab.imp fun _ h => h.1), hlegal.target_mem hab⟩
  change ((addEdges _ (connections (t.nodesOf .source ++ t.nodesOf .processor))).successors a).Nodup
  rw [successors_addEdges hends, successors_foldl_addVertex]
  -- edges with one origin differ in their targets
  refine List.Nodup.map_on ?_ ((nodup_connections ht.nodup_origins).filter _)
  intro e he e' he' hto
  have horigin : e.1 = a := of_decide_eq_true (List.mem_filter.mp he).2
  have horigin' : e'.1 = a := of_decide_eq_true (List.mem_filter.mp he').2
  exact Prod.ext (horigin.trans horigin'.symm) hto

/-- The successors of a node are what it connects to. -/
theorem successors_of_graph (ht : t.WellFormed) (h : t.graph = .ok g) (a : String) :
    g.successors a = (t.connectsTo? a).toList := by
  obtain ⟨-, -, -, hedge⟩ := graph_spec ht h
  have hmem : ∀ b, b ∈ g.successors a ↔ t.connectsTo? a = some b := by
    intro b
    rw [connectsTo?_eq_some_iff]
    exact hedge a b
  -- a list without repetition is known from its members if there is one at most
  cases hto : t.connectsTo? a with
  | none =>
    apply List.eq_nil_iff_forall_not_mem.mpr
    intro b hb
    cases hto.symm.trans ((hmem b).mp hb)
  | some b =>
    have hperm : (g.successors a).Perm [b] := by
      apply (List.perm_ext_iff_of_nodup (nodup_successors_of_graph ht h a)
        (List.nodup_singleton b)).mpr
      intro c
      rw [hmem, hto, Option.some.injEq, List.mem_singleton, eq_comm]
    exact List.perm_singleton.mp hperm

/-- Every connection is one edge, and the edges come in the order of the nodes. -/
theorem edges_of_graph (ht : t.WellFormed) (h : t.graph = .ok g) :
    g.edges = connections t.nodes.values := by
  obtain ⟨-, hg, hvertices, -⟩ := graph_spec ht h
  have hnode : ∀ n ∈ t.nodes.values, ((g.successors n.name).map fun b => (n.name, b)) =
      (n.connectsTo?.map fun b => (n.name, b)).toList := by
    intro n hn
    rw [successors_of_graph ht h, connectsTo?, ht.mem_values_iff.mp hn, Option.bind_some]
    cases n.connectsTo? <;> rfl
  rw [Graph.edges_eq hg, hvertices, ← ht.map_name_values, List.flatMap_map, connections,
    List.filterMap_eq_flatMap_toList]
  exact List.flatMap_congr hnode

end Graph

section Unfed

theorem nodesOf_unfed (t : Topology) (k : NodeKind) :
    t.unfed.nodesOf k = (t.nodesOf k).map Node.unfed := by
  have hkind : isOfKind k ∘ (fun e : String × Node => (e.1, e.2.unfed)) = isOfKind k := by
    funext e
    simp only [Function.comp_apply, isOfKind, Node.kind_unfed]
  simp [nodesOf, ofKind, unfed, List.filter_map, hkind]

theorem edgesOf_unfed (t : Topology) (ns : List Node) :
    t.unfed.edgesOf (ns.map Node.unfed) = t.edgesOf ns := by
  have hedge : ∀ n b, t.unfed.edge n.unfed b = t.edge n b := by
    intro n b
    simp only [edge, Node.kind_unfed, Node.name_unfed, kindOf?_unfed]
  induction ns with
  | nil => rfl
  | cons n rest ih =>
    simp only [List.map_cons, edgesOf, Node.connectsTo?_unfed, hedge, ih]

/-- The graph depends on names, kinds and connections, not on inputs. -/
theorem graph_unfed (t : Topology) : t.unfed.graph = t.graph := by
  simp only [graph, nodesOf_unfed, ← List.map_append, edgesOf_unfed, names_unfed]

end Unfed

end Topology

end StreamMesh
