import Mathlib.Data.List.Count
import StreamMesh.Proofs.Graph.Construction

/-!
# The search as a recursion

A depth-first search can be told without a stack: to visit a vertex is to visit its successors, one
after the other, and then to note the vertex as completed. How far the search has come with a vertex
is seen from the visits that are going on and from what has been completed. The search that keeps a
stack of its own meets the same vertices in the same order, and so it ends in the same way: with the
vertices in the reverse order of their completion, or at the same vertex of a cycle.

## Main definitions

* `Graph.markIn` — the mark of a vertex during a visit
* `Graph.visitAll` — the recursion
* `Graph.completion` — the vertices in the order of their completion

## Main results

* `Search.run_frame` — an open frame is worked off as the recursion works off its successors
* `Graph.order_eq_reverse_completion` — the order of a graph is the completion in reverse
-/

namespace StreamMesh

namespace Graph

variable {g : Graph} {path completed : List String} {v : String}

/-- How far a search has come with a vertex while the vertices of `path` are being visited. What is
no vertex of the graph counts as finished. -/
def markIn (g : Graph) (path completed : List String) (v : String) : Mark :=
  if v ∈ path then .inProgress
  else if v ∈ completed ∨ v ∉ g.vertices then .finished
  else .untouched

theorem markIn_eq_untouched_iff :
    g.markIn path completed v = .untouched ↔ v ∉ path ∧ v ∉ completed ∧ v ∈ g.vertices := by
  unfold markIn
  by_cases hpath : v ∈ path
  · simp [hpath]
  · by_cases hdone : v ∈ completed <;> by_cases hv : v ∈ g.vertices <;> simp [hpath, hdone, hv]

/-- How many vertices are not being visited. -/
def offPath (g : Graph) (path : List String) : Nat := g.vertices.countP fun v => v ∉ path

/-- A visit to an untouched vertex takes it from those that are not being visited. -/
theorem offPath_cons_lt (h : g.markIn path completed v = .untouched) :
    g.offPath (v :: path) < g.offPath path := by
  obtain ⟨hpath, -, hv⟩ := markIn_eq_untouched_iff.mp h
  -- vertices may be repeated, so each occurrence is counted, and one of them is of `v`
  obtain ⟨before, after, hsplit⟩ := List.append_of_mem hv
  have mono : ∀ vs : List String,
      vs.countP (fun w => w ∉ v :: path) ≤ vs.countP fun w => w ∉ path := fun vs =>
    List.countP_mono_left fun w _ hw => by simp_all
  have hbefore := mono before
  have hafter := mono after
  simp only [offPath, hsplit, List.countP_append, List.countP_cons, List.mem_cons, true_or,
    not_true_eq_false, decide_false, hpath, not_false_eq_true, decide_true, if_true] at *
  simp only [Bool.false_eq_true, if_false]
  omega

/-- Visits vertices one after the other, while those of `path` are being visited, and puts what is
completed behind what was completed before. -/
def visitAll (g : Graph) (path completed : List String) : List String → Except Fault (List String)
  | [] => .ok completed
  | v :: rest =>
    match h : g.markIn path completed v with
    | .inProgress => .error (.cyclicGraph v)
    | .finished => visitAll g path completed rest
    | .untouched =>
      have := offPath_cons_lt h
      match visitAll g (v :: path) completed (g.successors v) with
      | .error f => .error f
      | .ok completed => visitAll g path (completed ++ [v]) rest
termination_by vs => (g.offPath path, vs.length)

theorem visitAll_cons {rest : List String} :
    g.visitAll path completed (v :: rest) =
      match g.markIn path completed v with
      | .inProgress => .error (.cyclicGraph v)
      | .finished => g.visitAll path completed rest
      | .untouched =>
        (g.visitAll (v :: path) completed (g.successors v)).bind fun completed =>
          g.visitAll path (completed ++ [v]) rest := by
  rw [visitAll]
  split
  · rename_i h
    rw [h]
  · rename_i h
    rw [h]
  · rename_i h
    simp only [h]
    cases g.visitAll (v :: path) completed (g.successors v) <;> rfl

/-- The vertices in the order of their completion, each tried in turn. -/
def completion (g : Graph) : Except Fault (List String) := g.visitAll [] [] g.vertices

end Graph

namespace Search

variable {g : Graph} {roots order completed : List String} {stack : List (String × List String)}
  {v : String}

/-- Both searches see a vertex in the same way. -/
theorem mark_eq_markIn (h : order = completed.reverse) :
    mark g ⟨roots, stack, order⟩ v = g.markIn (stack.map Prod.fst) completed v := by
  have hv : g.hasVertex v = true ↔ v ∈ g.vertices := Assoc.contains_iff _ _
  subst h
  unfold mark Graph.markIn
  simp only [List.contains_eq_mem, decide_eq_true_eq, List.mem_reverse, Bool.or_eq_true,
    Bool.not_eq_true', Bool.eq_false_iff, ne_eq, hv]

theorem run_of_cyclic {s : Search} (h : step g s = .cyclic v) :
    run g s = .error (.cyclicGraph v) := by
  rw [run]
  split <;> simp_all

/-- A frame without successors left is closed. -/
theorem run_close :
    run g ⟨roots, (v, []) :: stack, order⟩ = run g ⟨roots, stack, v :: order⟩ :=
  run_of_step (by cases roots <;> rfl)

/-- A frame turns to its next successor as its mark has it. -/
theorem run_next {w : String} {rest : List String} (horder : order = completed.reverse) :
    run g ⟨roots, (v, w :: rest) :: stack, order⟩ =
      match g.markIn (v :: stack.map Prod.fst) completed w with
      | .untouched => run g ⟨roots, (w, g.successors w) :: (v, rest) :: stack, order⟩
      | .inProgress => .error (.cyclicGraph w)
      | .finished => run g ⟨roots, (v, rest) :: stack, order⟩ := by
  have hstep : step g ⟨roots, (v, w :: rest) :: stack, order⟩ =
      match mark g ⟨roots, (v, w :: rest) :: stack, order⟩ w with
      | .untouched => .running ⟨roots, (w, g.successors w) :: (v, rest) :: stack, order⟩
      | .inProgress => .cyclic w
      | .finished => .running ⟨roots, (v, rest) :: stack, order⟩ := by
    cases roots <;> rfl
  rw [mark_eq_markIn horder, List.map_cons] at hstep
  cases hmark : g.markIn (v :: stack.map Prod.fst) completed w with
  | untouched =>
    rw [hmark] at hstep
    exact run_of_step hstep
  | inProgress =>
    rw [hmark] at hstep
    exact run_of_cyclic hstep
  | finished =>
    rw [hmark] at hstep
    exact run_of_step hstep

/-- With no frame open the next root is tried. -/
theorem run_root {root : String} (horder : order = completed.reverse) :
    run g ⟨root :: roots, [], order⟩ =
      match g.markIn [] completed root with
      | .untouched => run g ⟨roots, [(root, g.successors root)], order⟩
      | _ => run g ⟨roots, [], order⟩ := by
  have hstep : step g ⟨root :: roots, [], order⟩ =
      match mark g ⟨root :: roots, [], order⟩ root with
      | .untouched => .running ⟨roots, [(root, g.successors root)], order⟩
      | _ => .running ⟨roots, [], order⟩ := rfl
  rw [mark_eq_markIn horder, List.map_nil] at hstep
  cases hmark : g.markIn [] completed root <;> rw [hmark] at hstep <;> exact run_of_step hstep

/-- What follows from the outcome of visits: a failure, or a search that goes on with the vertices
in the reverse order of their completion. -/
def after (g : Graph) (next : List String → Search) :
    Except Fault (List String) → Except Fault (List String)
  | .error f => .error f
  | .ok completed => run g (next completed.reverse)

/-- The innermost frame is worked off as the recursion works off its successors, and then closed. -/
theorem run_frame {path vs : List String} (hpath : path = v :: stack.map Prod.fst)
    (horder : order = completed.reverse) :
    run g ⟨roots, (v, vs) :: stack, order⟩ =
      after g (fun order => ⟨roots, stack, v :: order⟩) (g.visitAll path completed vs) := by
  -- the induction is that of the recursion, with the outer frames as they come
  fun_induction Graph.visitAll g path completed vs generalizing v stack order with
  | case1 path completed =>
    subst horder
    exact run_close
  | case2 path completed w rest hmark =>
    rw [run_next horder, ← hpath, hmark]
    rfl
  | case3 path completed w rest hmark ih =>
    rw [run_next horder, ← hpath, hmark]
    exact ih hpath horder
  | case4 path completed w rest hmark _ f hinner ih =>
    rw [run_next horder, ← hpath, hmark]
    simp only
    rw [ih (by rw [hpath, List.map_cons]) horder, hinner]
    rfl
  | case5 path completed w rest hmark _ completed' hinner ihinner ih =>
    rw [run_next horder, ← hpath, hmark]
    simp only
    rw [ihinner (by rw [hpath, List.map_cons]) horder, hinner]
    exact ih hpath List.reverse_concat.symm

/-- With no frame open, the roots that are left are visited one after the other. -/
theorem run_roots (horder : order = completed.reverse) :
    run g ⟨roots, [], order⟩ = (g.visitAll [] completed roots).map List.reverse := by
  induction roots generalizing completed order with
  | nil =>
    rw [Graph.visitAll, horder]
    exact run_of_ordered rfl
  | cons root rest ih =>
    rw [run_root horder, Graph.visitAll_cons]
    cases hmark : g.markIn [] completed root with
    | untouched =>
      simp only
      rw [run_frame rfl horder, List.map_nil]
      cases g.visitAll [root] completed (g.successors root) with
      | error f => rfl
      | ok completed' => exact ih List.reverse_concat.symm
    | inProgress =>
      -- no visit is going on
      simp only [Graph.markIn, List.not_mem_nil, if_false] at hmark
      split at hmark <;> cases hmark
    | finished => exact ih horder

end Search

/-- The order of a graph is the one in which the recursion completes the vertices, in reverse; and
where the recursion meets a cycle, the search meets it at the same vertex. -/
theorem Graph.order_eq_reverse_completion (g : Graph) :
    g.order = g.completion.map List.reverse := Search.run_roots rfl

end StreamMesh
