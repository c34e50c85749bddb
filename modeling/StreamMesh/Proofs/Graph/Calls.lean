import StreamMesh.Proofs.Graph.Construction

/-!
# What calls leave in a graph

Calls that add vertices and edges are answered one by one, and an edge between vertices of which one
is missing is refused. The graph that results lists each vertex at the place of the first call that
adds it, and under each vertex the targets of the edges that were granted from it, in the order of
the calls. So an edge is listed as often as it was granted.

## Main definitions

* `Graph.targets` — where the edges of a list lead from one vertex
* `Graph.granted` — the edges that calls ask for and that are not refused

## Main results

* `Graph.perm_of_targets`, `Graph.subperm_of_targets` — up to their order, edges are known from the
  targets of each vertex
* `Graph.targets_edges` — the edges of a graph lead where the successors say
* `Graph.successors_run`, `Graph.vertices_built` — successors and vertices after calls
* `Graph.edges_perm_granted` — the edges after calls are the granted ones
-/

namespace StreamMesh.Graph

section Targets

variable {es es' : List (String × String)}

/-- Where the edges of a list lead from a vertex, in the order of the list. -/
def targets (es : List (String × String)) (a : String) : List String :=
  (es.filter fun e => decide (e.1 = a)).map Prod.snd

@[simp] theorem targets_nil (a : String) : targets [] a = [] := rfl

@[simp] theorem targets_append (es es' : List (String × String)) (a : String) :
    targets (es ++ es') a = targets es a ++ targets es' a := by
  simp only [targets, List.filter_append, List.map_append]

theorem targets_singleton (a b v : String) : targets [(a, b)] v = if a = v then [b] else [] := by
  by_cases h : a = v <;> simp [targets, h]

/-- An edge is listed as often as its target is a target of its origin. -/
theorem count_targets (es : List (String × String)) (a b : String) :
    (targets es a).count b = es.count (a, b) := by
  induction es with
  | nil => rfl
  | cons e rest ih =>
    obtain ⟨c, d⟩ := e
    have hcons : targets ((c, d) :: rest) a = (if c = a then [d] else []) ++ targets rest a := by
      rw [← targets_singleton]
      exact targets_append [(c, d)] rest a
    rw [hcons, List.count_append, List.count_cons, ih]
    by_cases hc : c = a <;> by_cases hd : d = b <;> simp [hc, hd, Nat.add_comm]

/-- Edges with the same targets from every vertex are the same, up to their order. -/
theorem perm_of_targets (h : ∀ a, targets es a = targets es' a) : es.Perm es' := by
  apply List.perm_iff_count.mpr
  intro (a, b)
  rw [← count_targets, ← count_targets, h a]

/-- Edges whose targets are the first of others, from every vertex, are among these. -/
theorem subperm_of_targets (h : ∀ a, targets es a <+: targets es' a) : es.Subperm es' := by
  apply List.subperm_ext_iff.mpr
  intro (a, b) _
  rw [← count_targets, ← count_targets]
  exact (h a).sublist.count_le b

end Targets

variable {g : Graph}

/-- The edges of a graph lead from each vertex to its successors. -/
theorem targets_edges (hg : g.WellFormed) (a : String) : targets g.edges a = g.successors a := by
  have hfrom : ∀ v, targets ((g.successors v).map fun w => (v, w)) a =
      if v = a then g.successors v else [] := by
    intro v
    by_cases hv : v = a <;> simp [targets, hv, List.filter_map, Function.comp_def]
  -- of the distinct vertices, `a` alone has a part in the targets
  have hvertices : ∀ vs : List String, vs.Nodup →
      targets (vs.flatMap fun v => (g.successors v).map fun w => (v, w)) a =
        if a ∈ vs then g.successors a else [] := by
    intro vs hvs
    induction vs with
    | nil => rfl
    | cons v rest ih =>
      obtain ⟨hv, hrest⟩ := List.nodup_cons.mp hvs
      rw [List.flatMap_cons, targets_append, hfrom, ih hrest]
      by_cases h : v = a
      · subst h
        simp [hv]
      · have h' : ¬ a = v := fun e => h e.symm
        simp [h, h']
  rw [edges_eq hg, hvertices g.vertices hg.nodup]
  split
  · rfl
  · rename_i ha
    exact (successors_eq_nil_of_not_mem ha).symm

/-- The vertex that a call adds. -/
def Call.vertex? : Call → Option String
  | .addVertex v => some v
  | .addEdge _ _ => none

/-- The edge that a call asks for. -/
def Call.edge? : Call → Option (String × String)
  | .addVertex _ => none
  | .addEdge a b => some (a, b)

/-- The edges that are granted, in the order of the calls: those whose call is not refused. What
answers the calls is left open. -/
def granted {σ : Type} (answer : σ → Call → σ × Option UnknownVertex) :
    σ → List Call → List (String × String)
  | _, [] => []
  | s, c :: rest => match answer s c with
    | (s', none) => c.edge?.toList ++ granted answer s' rest
    | (s', some _) => granted answer s' rest

/-- Two that answer alike grant the same edges. -/
theorem granted_congr {σ τ : Type} {answer : σ → Call → σ × Option UnknownVertex}
    {answer' : τ → Call → τ × Option UnknownVertex} {f : σ → τ}
    (h : ∀ s c, answer' (f s) c = (f (answer s c).1, (answer s c).2)) (s : σ) (calls : List Call) :
    granted answer s calls = granted answer' (f s) calls := by
  induction calls generalizing s with
  | nil => rfl
  | cons c rest ih =>
    simp only [granted, h s c]
    -- only the state is translated, so both go on in the same way
    rcases answer s c with ⟨s', _ | e⟩
    · exact congrArg (c.edge?.toList ++ ·) (ih s')
    · exact ih s'

theorem run_cons (g : Graph) (c : Call) (calls : List Call) :
    g.run (c :: calls) = (g.call c).1.run calls := rfl

/-- The successors after calls: first those from before, then the targets of the granted edges, in
the order of the calls. -/
theorem successors_run (g : Graph) (calls : List Call) (a : String) :
    (g.run calls).successors a = g.successors a ++ targets (granted call g calls) a := by
  induction calls generalizing g with
  | nil => simp [run, granted]
  | cons c rest ih =>
    rw [run_cons, ih]
    cases c with
    | addVertex v =>
      simp only [call, granted, Call.edge?, Option.toList_none, List.nil_append]
      rw [successors_addVertex]
    | addEdge b d =>
      simp only [granted, call]
      cases h : g.addEdge b d with
      | ok g' =>
        simp only [Call.edge?, Option.toList_some, targets_append, targets_singleton]
        rw [successors_addEdge h]
        by_cases hb : b = a
        · subst hb
          simp
        · have hb' : ¬ a = b := fun e => hb e.symm
          simp [hb, hb']
      | error e => rfl

theorem successors_built (calls : List Call) (a : String) :
    (built calls).successors a = targets (granted call empty calls) a :=
  successors_run empty calls a

/-- The edges are those that were granted, each as often as it was. -/
theorem edges_perm_granted (calls : List Call) :
    (built calls).edges.Perm (granted call empty calls) := by
  apply perm_of_targets
  intro a
  rw [targets_edges (wellFormed_built calls), successors_built]

/-- The vertices are those that were added, each at the place of its first call. -/
theorem vertices_built (calls : List Call) :
    (built calls).vertices = (calls.filterMap Call.vertex?).eraseDups := by
  induction calls using List.reverseRecOn with
  | nil => rfl
  | append_singleton calls c ih =>
    have hlast : built (calls ++ [c]) = ((built calls).call c).1 := List.foldl_append
    rw [hlast, List.filterMap_append]
    cases c with
    | addVertex v =>
      change ((built calls).addVertex v).vertices = (calls.filterMap Call.vertex? ++ [v]).eraseDups
      rw [Assoc.eraseDups_concat, vertices_addVertex, ih]
      simp only [List.mem_eraseDups]
    | addEdge a b =>
      have hkept : ((built calls).call (.addEdge a b)).1.vertices = (built calls).vertices := by
        simp only [call]
        cases h : (built calls).addEdge a b with
        | ok g' => exact vertices_addEdge h
        | error e => rfl
      rw [hkept, ih]
      exact congrArg List.eraseDups (List.append_nil _).symm

end StreamMesh.Graph
