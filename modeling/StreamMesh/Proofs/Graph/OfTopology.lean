import StreamMesh.Graph.OfTopology
import StreamMesh.Proofs.Graph.WellFormed
import StreamMesh.Proofs.Topology.Wiring

/-!
# The graph of a well-formed topology

The graph has the names as vertices and one edge for each connection. It exists exactly if every
source connects to a processor, and every processor to a processor or a sink.

## Main definitions

* `Topology.Connects` — one node connects to a name
* `Topology.LegalEdges` — all connections lead to nodes of the right kind

## Main results

* `Topology.graph_isOk_iff` — which topologies have a graph
* `Topology.graph_spec` — its vertices and its edges
* `Topology.invalidEdge_of_graph_eq_error` — what is said of any other topology
-/

namespace StreamMesh.Topology

variable {t : Topology} {n : Node} {ns : List Node} {a b : String} {f : Fault} {g : Graph}
  {es : List (String × String)}

/-- The node of one name connects to another name. -/
def Connects (t : Topology) (a b : String) : Prop :=
  ∃ n, t.find? a = some n ∧ n.connectsTo? = some b

/-- All connections lead to nodes of the right kind. -/
def LegalEdges (t : Topology) : Prop :=
  ∀ a n b, t.find? a = some n → n.connectsTo? = some b → connects n.kind (t.kindOf? b) = true

theorem kindOf?_eq_some_iff {k : NodeKind} :
    t.kindOf? a = some k ↔ ∃ n, t.find? a = some n ∧ n.kind = k :=
  Option.map_eq_some_iff

theorem connects_source_iff {k : Option NodeKind} :
    connects .source k = true ↔ k = some .processor := by
  rcases k with _ | k
  · simp [connects]
  · cases k <;> simp [connects]

theorem connects_processor_iff {k : Option NodeKind} :
    connects .processor k = true ↔ k = some .processor ∨ k = some .sink := by
  rcases k with _ | k
  · simp [connects]
  · cases k <;> simp [connects]

/-- A connection that is allowed leads to a declared node other than a source. -/
theorem exists_of_connects {j : NodeKind} {k : Option NodeKind} (h : connects j k = true) :
    ∃ k', k = some k' ∧ k' ≠ .source := by
  unfold connects at h
  split at h
  · exact ⟨_, rfl, nofun⟩
  · exact ⟨_, rfl, nofun⟩
  · exact ⟨_, rfl, nofun⟩
  · cases h

theorem LegalEdges.target (ht : t.LegalEdges) (hab : t.Connects a b) :
    ∃ k, t.kindOf? b = some k ∧ k ≠ .source := by
  obtain ⟨n, hn, hto⟩ := hab
  exact exists_of_connects (ht a n b hn hto)

theorem LegalEdges.target_mem (ht : t.LegalEdges) (hab : t.Connects a b) : b ∈ t.names := by
  obtain ⟨k, hk, -⟩ := ht.target hab
  obtain ⟨n, hn, -⟩ := kindOf?_eq_some_iff.mp hk
  exact mem_names_iff.mpr ⟨n, hn⟩

section Edges

theorem edge_eq_ok_iff {e : String × String} :
    t.edge n b = .ok e ↔ connects n.kind (t.kindOf? b) = true ∧ e = (n.name, b) := by
  unfold edge
  split
  · rename_i h
    simp [h, eq_comm]
  · rename_i h
    simp [h]

theorem edgesOf_eq_ok_iff : t.edgesOf ns = .ok es ↔
    (∀ n ∈ ns, ∀ b, n.connectsTo? = some b → connects n.kind (t.kindOf? b) = true) ∧
      es = ns.filterMap fun n => n.connectsTo?.map fun b => (n.name, b) := by
  induction ns generalizing es with
  | nil =>
    rw [edgesOf, Except.ok.injEq]
    exact ⟨fun h => ⟨nofun, h.symm⟩, fun h => h.2.symm⟩
  | cons n rest ih =>
    cases hc : n.connectsTo? with
    | none =>
      rw [edgesOf, hc]
      refine ih.trans ?_
      simp [hc]
    | some b =>
      rw [edgesOf, hc]
      simp only [bind_eq_ok_iff, edge_eq_ok_iff, ih, pure, Except.pure, Except.ok.injEq]
      constructor
      · rintro ⟨e, ⟨hlegal, rfl⟩, es', ⟨hrest, rfl⟩, rfl⟩
        exact ⟨by simpa [hc] using ⟨hlegal, hrest⟩, by simp [hc]⟩
      · rintro ⟨hall, rfl⟩
        exact ⟨_, ⟨hall n (List.mem_cons_self ..) b hc, rfl⟩, _,
          ⟨fun n hn => hall n (List.mem_cons_of_mem _ hn), rfl⟩, by simp [hc]⟩

theorem edge_eq_error_iff : t.edge n b = .error f ↔
    ¬ connects n.kind (t.kindOf? b) = true ∧ f = .invalidEdge n.name b (expected n.kind) := by
  unfold edge
  split
  · rename_i h
    simp [h]
  · rename_i h
    simp [h, eq_comm]

theorem edgesOf_cons_eq_error_iff : t.edgesOf (n :: ns) = .error f ↔
    (∃ b, n.connectsTo? = some b ∧ ¬ connects n.kind (t.kindOf? b) = true ∧
      f = .invalidEdge n.name b (expected n.kind)) ∨
    (∀ b, n.connectsTo? = some b → connects n.kind (t.kindOf? b) = true) ∧
      t.edgesOf ns = .error f := by
  rw [edgesOf]
  cases n.connectsTo? with
  | none => simp
  | some b =>
    simp only [bind_eq_error_iff, edge_eq_error_iff, edge_eq_ok_iff]
    cases t.edgesOf ns <;> simp [pure, Except.pure]

/-- The first connection that is not allowed ends the check. -/
theorem edgesOf_eq_error_iff : t.edgesOf ns = .error f ↔
    ∃ before n after b, ns = before ++ n :: after ∧
      (∀ m ∈ before, ∀ c, m.connectsTo? = some c → connects m.kind (t.kindOf? c) = true) ∧
      n.connectsTo? = some b ∧ ¬ connects n.kind (t.kindOf? b) = true ∧
      f = .invalidEdge n.name b (expected n.kind) := by
  induction ns with
  | nil => simp [edgesOf]
  | cons m rest ih =>
    rw [edgesOf_cons_eq_error_iff, ih]
    constructor
    · rintro (⟨b, hm⟩ | ⟨hm, before, n, after, b, rfl, hbefore, hn⟩)
      · exact ⟨[], m, rest, b, rfl, nofun, hm⟩
      · exact ⟨m :: before, n, after, b, rfl, List.forall_mem_cons.mpr ⟨hm, hbefore⟩, hn⟩
    · rintro ⟨before, n, after, b, hsplit, hbefore, hn⟩
      cases before with
      | nil =>
        cases hsplit
        exact .inl ⟨b, hn⟩
      | cons _ before =>
        cases hsplit
        obtain ⟨hm, hbefore⟩ := List.forall_mem_cons.mp hbefore
        exact .inr ⟨hm, before, n, after, b, rfl, hbefore, hn⟩

theorem mem_nodesOf_iff {k : NodeKind} : n ∈ t.nodesOf k ↔ n ∈ t.nodes.values ∧ n.kind = k := by
  simp [nodesOf, ofKind, isOfKind, Assoc.values]

/-- The nodes whose connections are checked are those that have one. -/
theorem mem_origins_iff : n ∈ t.nodesOf .source ++ t.nodesOf .processor ↔
    n ∈ t.nodes.values ∧ n.kind ≠ .sink := by
  rw [List.mem_append, mem_nodesOf_iff, mem_nodesOf_iff]
  cases n <;> simp [Node.kind]

theorem kind_ne_sink_of_connectsTo? (h : n.connectsTo? = some b) : n.kind ≠ .sink := by
  cases n with
  | source | processor => nofun
  | sink => cases h

end Edges

section Graph

theorem vertices_foldl_addVertex {g : Graph} {names : List String}
    (h : (g.vertices ++ names).Nodup) :
    (names.foldl Graph.addVertex g).vertices = g.vertices ++ names := by
  induction names generalizing g with
  | nil => simp
  | cons a rest ih =>
    -- the names are distinct, so every one of them is new
    have hnew : a ∉ g.vertices := fun hmem =>
      List.disjoint_of_nodup_append h hmem (List.mem_cons_self ..)
    have hv : (g.addVertex a).vertices = g.vertices ++ [a] := by
      rw [Graph.vertices_addVertex, if_neg hnew]
    rw [List.foldl_cons, ih (by simpa [hv] using h), hv]
    simp

theorem wellFormed_foldl_addVertex {g : Graph} (hg : g.WellFormed) (names : List String) :
    (names.foldl Graph.addVertex g).WellFormed := by
  induction names generalizing g with
  | nil => exact hg
  | cons a rest ih => exact ih (hg.addVertex a)

theorem edge_foldl_addVertex {g : Graph} (names : List String) :
    (names.foldl Graph.addVertex g).Edge a b ↔ g.Edge a b := by
  induction names generalizing g with
  | nil => rfl
  | cons c rest ih => exact ih.trans Graph.edge_addVertex_iff

/-- Edges between vertices are all added, and nothing else changes. -/
theorem addEdges_spec {g : Graph} (hg : g.WellFormed)
    (hes : ∀ e ∈ es, e.1 ∈ g.vertices ∧ e.2 ∈ g.vertices) :
    (addEdges g es).WellFormed ∧ (addEdges g es).vertices = g.vertices ∧
      ∀ a b, (addEdges g es).Edge a b ↔ g.Edge a b ∨ (a, b) ∈ es := by
  induction es generalizing g with
  | nil => exact ⟨hg, rfl, by simp [addEdges]⟩
  | cons e rest ih =>
    obtain ⟨c, d⟩ := e
    obtain ⟨hc, hd⟩ := hes (c, d) (List.mem_cons_self ..)
    -- no edge is passed over, since both its ends are there
    obtain ⟨g₁, hg₁⟩ : ∃ g₁, g.addEdge c d = .ok g₁ :=
      ⟨_, Graph.addEdge_eq_ok_iff.mpr ⟨hc, hd, rfl⟩⟩
    have hvertices : g₁.vertices = g.vertices := Graph.vertices_addEdge hg₁
    have hstep : addEdges g ((c, d) :: rest) = addEdges g₁ rest := by
      simp [addEdges, hg₁]
    obtain ⟨hwf, hv, hedges⟩ := ih (hg.addEdge hg₁)
      fun e he => hvertices ▸ hes e (List.mem_cons_of_mem _ he)
    rw [hstep]
    refine ⟨hwf, hv.trans hvertices, fun a b => ?_⟩
    rw [hedges, Graph.edge_addEdge_iff hg₁, List.mem_cons, Prod.mk.injEq, or_assoc]

theorem legalEdges_iff (ht : t.WellFormed) : t.LegalEdges ↔
    ∀ n ∈ t.nodesOf .source ++ t.nodesOf .processor, ∀ b, n.connectsTo? = some b →
      connects n.kind (t.kindOf? b) = true := by
  constructor
  · intro h n hn b hto
    exact h n.name n b (ht.mem_values_iff.mp (mem_origins_iff.mp hn).1) hto
  · intro h a n b hn hto
    have hname : t.find? n.name = some n := (ht.name_eq hn).symm ▸ hn
    exact h n (mem_origins_iff.mpr
      ⟨ht.mem_values_iff.mpr hname, kind_ne_sink_of_connectsTo? hto⟩) b hto

theorem mem_edges_iff (ht : t.WellFormed) :
    (a, b) ∈ (t.nodesOf .source ++ t.nodesOf .processor).filterMap
        (fun n => n.connectsTo?.map fun b => (n.name, b)) ↔ t.Connects a b := by
  rw [List.mem_filterMap]
  constructor
  · rintro ⟨n, hn, he⟩
    obtain ⟨_, hto, he⟩ := Option.map_eq_some_iff.mp he
    cases he
    exact ⟨n, ht.mem_values_iff.mp (mem_origins_iff.mp hn).1, hto⟩
  · rintro ⟨n, hn, hto⟩
    have hname : n.name = a := ht.name_eq hn
    refine ⟨n, mem_origins_iff.mpr ⟨ht.mem_values_iff.mpr (hname.symm ▸ hn),
      kind_ne_sink_of_connectsTo? hto⟩, ?_⟩
    rw [hto, Option.map_some, hname]

/-- The graph of a topology: its vertices are the names, its edges the connections, all of which are
legal. -/
theorem graph_spec (ht : t.WellFormed) (h : t.graph = .ok g) :
    t.LegalEdges ∧ g.WellFormed ∧ g.vertices = t.names ∧ ∀ a b, g.Edge a b ↔ t.Connects a b := by
  obtain ⟨es, hes, hg⟩ := bind_eq_ok_iff.mp h
  cases hg
  obtain ⟨hlegal, rfl⟩ := edgesOf_eq_ok_iff.mp hes
  have legal : t.LegalEdges := (legalEdges_iff ht).mpr hlegal
  have hvertices : (t.names.foldl Graph.addVertex .empty).vertices = t.names :=
    vertices_foldl_addVertex (g := .empty) ht.nodup
  have hends : ∀ e ∈ (t.nodesOf .source ++ t.nodesOf .processor).filterMap
      (fun n => n.connectsTo?.map fun b => (n.name, b)),
      e.1 ∈ (t.names.foldl Graph.addVertex .empty).vertices ∧
        e.2 ∈ (t.names.foldl Graph.addVertex .empty).vertices := by
    intro ⟨a, b⟩ he
    have hab : t.Connects a b := (mem_edges_iff ht).mp he
    obtain ⟨n, hn, -⟩ := hab
    rw [hvertices]
    exact ⟨mem_names_iff.mpr ⟨n, hn⟩, legal.target_mem ((mem_edges_iff ht).mp he)⟩
  -- all names are vertices before the first edge is added
  obtain ⟨hwf, hv, hedges⟩ := addEdges_spec
    (wellFormed_foldl_addVertex Graph.wellFormed_empty t.names) hends
  refine ⟨legal, hwf, hv.trans hvertices, fun a b => ?_⟩
  have hnone : ¬ Graph.empty.Edge a b := nofun
  rw [hedges, edge_foldl_addVertex, mem_edges_iff ht]
  exact or_iff_right hnone

/-- A topology has a graph exactly if all its connections are legal. -/
theorem graph_isOk_iff (ht : t.WellFormed) : (∃ g, t.graph = .ok g) ↔ t.LegalEdges := by
  constructor
  · rintro ⟨g, h⟩
    exact (graph_spec ht h).1
  · intro h
    exact ⟨_, bind_eq_ok_iff.mpr ⟨_, edgesOf_eq_ok_iff.mpr ⟨(legalEdges_iff ht).mp h, rfl⟩, rfl⟩⟩

/-- A topology has no graph exactly if one of its connections is not allowed. -/
theorem graph_eq_error_iff : t.graph = .error f ↔
    t.edgesOf (t.nodesOf .source ++ t.nodesOf .processor) = .error f := by
  refine bind_eq_error_iff.trans (or_iff_left ?_)
  rintro ⟨_, -, h⟩
  cases h

theorem invalidEdge_of_graph_eq_error (h : t.graph = .error f) :
    ∃ origin target expected, f = .invalidEdge origin target expected := by
  obtain ⟨_, n, _, b, -, -, -, -, rfl⟩ := edgesOf_eq_error_iff.mp (graph_eq_error_iff.mp h)
  exact ⟨n.name, b, expected n.kind, rfl⟩

end Graph

end StreamMesh.Topology
