import StreamMesh.Graph.Basic
import StreamMesh.Proofs.Assoc

/-!
# Edges of a graph

No vertex is listed twice and every edge ends in a vertex: this holds of the graph without vertices
and is kept by adding vertices and edges.

## Main definitions

* `Graph.Edge` — the edges, as a relation
* `Graph.WellFormed` — distinct vertices, and no edge that leads out of the graph

## Main results

* `Graph.successors_addVertex`, `Graph.edge_addEdge_iff` — what is added, and nothing else
* `Graph.WellFormed.addVertex`, `Graph.WellFormed.addEdge` — every step keeps a graph well-formed
-/

namespace StreamMesh.Graph

variable {g g' : Graph} {a b v w : String}

/-- An edge from one vertex to another. -/
def Edge (g : Graph) (a b : String) : Prop := b ∈ g.successors a

/-- The vertices are distinct, and every edge ends in one of them. -/
structure WellFormed (g : Graph) : Prop where
  nodup : g.vertices.Nodup
  target_mem : ∀ {a b}, g.Edge a b → b ∈ g.vertices

theorem hasVertex_iff : g.hasVertex v = true ↔ v ∈ g.vertices := Assoc.contains_iff _ _

theorem successors_eq_nil_of_not_mem (h : v ∉ g.vertices) : g.successors v = [] := by
  rw [successors, successors?, Assoc.find?_eq_none_iff.mpr h, Option.getD_none]

/-- An edge starts in a vertex, since nothing else has successors. -/
theorem Edge.origin_mem (h : g.Edge a b) : a ∈ g.vertices := by
  by_contra hv
  rw [Edge, successors_eq_nil_of_not_mem hv] at h
  cases h

theorem wellFormed_empty : WellFormed empty where
  nodup := List.nodup_nil
  target_mem h := by cases h

section AddVertex

theorem vertices_addVertex (g : Graph) (v : String) :
    (g.addVertex v).vertices = if v ∈ g.vertices then g.vertices else g.vertices ++ [v] := by
  unfold addVertex
  by_cases hv : v ∈ g.vertices
  · rw [if_pos (hasVertex_iff.mpr hv), if_pos hv]
  · rw [if_neg (fun h => hv (hasVertex_iff.mp h)), if_neg hv]
    exact (Assoc.keys_insert _ _ _).trans (if_neg hv)

theorem mem_vertices_addVertex : w ∈ (g.addVertex v).vertices ↔ w ∈ g.vertices ∨ w = v := by
  rw [vertices_addVertex]
  split
  · rename_i hv
    exact ⟨.inl, fun h => h.elim id fun e => e ▸ hv⟩
  · simp

/-- A vertex that is there already keeps its successors, and a new one has none. -/
theorem successors_addVertex (g : Graph) (v w : String) :
    (g.addVertex v).successors w = g.successors w := by
  unfold addVertex
  split
  · rfl
  · rename_i hv
    -- a vertex that is not there has no successors either
    rcases eq_or_ne w v with rfl | hne
    · rw [successors_eq_nil_of_not_mem fun h => hv (hasVertex_iff.mpr h)]
      simp [successors, successors?]
    · simp only [successors, successors?, Assoc.find?_insert_of_ne _ hne]

theorem edge_addVertex_iff : (g.addVertex v).Edge a b ↔ g.Edge a b := by
  rw [Edge, Edge, successors_addVertex]

theorem WellFormed.addVertex (hg : g.WellFormed) (v : String) : (g.addVertex v).WellFormed where
  nodup := by
    rw [vertices_addVertex]
    split
    · exact hg.nodup
    · rename_i hv
      exact List.nodup_append.mpr ⟨hg.nodup, List.nodup_singleton v, fun x hx y hy => by
        rw [List.mem_singleton] at hy
        exact fun e => hv (hy ▸ e ▸ hx)⟩
  target_mem h := mem_vertices_addVertex.mpr (.inl (hg.target_mem (edge_addVertex_iff.mp h)))

end AddVertex

section AddEdge

/-- An edge is added exactly between two vertices. -/
theorem addEdge_eq_ok_iff : g.addEdge a b = .ok g' ↔
    a ∈ g.vertices ∧ b ∈ g.vertices ∧ g' = ⟨g.adjacency.insert a (g.successors a ++ [b])⟩ := by
  unfold addEdge
  cases ha : g.successors? a with
  | none =>
    have hna : a ∉ g.vertices := Assoc.find?_eq_none_iff.mp ha
    simp [hna]
  | some known =>
    have hma : a ∈ g.vertices := Assoc.mem_keys_of_find? ha
    by_cases hb : b ∈ g.vertices
    · simp [hasVertex_iff.mpr hb, hma, hb, successors, ha, eq_comm]
    · have hnb : g.hasVertex b = false := Bool.eq_false_iff.mpr fun h => hb (hasVertex_iff.mp h)
      simp [hnb, hb]

theorem vertices_addEdge (h : g.addEdge a b = .ok g') : g'.vertices = g.vertices := by
  obtain ⟨ha, -, rfl⟩ := addEdge_eq_ok_iff.mp h
  exact Assoc.keys_insert_of_mem ha _

/-- The new edge comes after all others that leave the same vertex. -/
theorem successors_addEdge (h : g.addEdge a b = .ok g') (v : String) :
    g'.successors v = if v = a then g.successors a ++ [b] else g.successors v := by
  obtain ⟨-, -, rfl⟩ := addEdge_eq_ok_iff.mp h
  split
  · rename_i hv
    subst hv
    simp [successors, successors?]
  · rename_i hv
    simp only [successors, successors?, Assoc.find?_insert_of_ne _ hv]

theorem edge_addEdge_iff (h : g.addEdge a b = .ok g') :
    g'.Edge v w ↔ g.Edge v w ∨ (v = a ∧ w = b) := by
  rw [Edge, Edge, successors_addEdge h]
  split
  · rename_i hv
    subst hv
    simp
  · rename_i hv
    simp [hv]

theorem WellFormed.addEdge (hg : g.WellFormed) (h : g.addEdge a b = .ok g') :
    g'.WellFormed where
  nodup := vertices_addEdge h ▸ hg.nodup
  target_mem he := by
    rw [vertices_addEdge h]
    rcases (edge_addEdge_iff h).mp he with he | ⟨-, rfl⟩
    · exact hg.target_mem he
    · exact (addEdge_eq_ok_iff.mp h).2.1

end AddEdge

end StreamMesh.Graph
