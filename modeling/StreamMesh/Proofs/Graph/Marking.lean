import StreamMesh.Proofs.Graph.Recursion
import StreamMesh.Proofs.Graph.Tables

/-!
# Searching a graph in two tables

A search of a graph in two tables keeps a third, with the mark of every vertex, and sets the marks
as it goes. It looks up marks and successors under names that it has read in the tables, and a name
that is not there would stop it. After any calls the names are all there: the search goes step by
step as the one that reads the marks off its stack and its order, and ends in the same way.

## Main definitions

* `TableSearch` — the state of such a search
* `TableSearch.step` — one step of it, which fails where a look-up does
* `TableSearch.Reached` — the states of a search
* `TableSearch.Follows` — what ties such a state to a state of the search without marks
* `TableSearch.Agrees` — the next step goes as that of the search without marks

## Main results

* `TableSearch.Follows.step` — a state that follows agrees in its next step
* `TableSearch.Follows.of_reached` — every state of a search follows
* `Tables.built_consistent` — what calls make of the two tables, and of a search in them
-/

namespace StreamMesh

open Relation

namespace Search

variable {g : Graph} {roots roots' order : List String} {stack stack' : List (String × List String)}
  {u v w : String}

/-- Marks are read off the vertices in progress and the order alone. -/
theorem mark_congr (hstack : stack'.map Prod.fst = stack.map Prod.fst) :
    mark g ⟨roots', stack', order⟩ u = mark g ⟨roots, stack, order⟩ u := by
  unfold mark
  simp only [hstack]

/-- An entered vertex is in progress, and no other mark changes. -/
theorem mark_enter (roots : List String) {ws : List String}
    (hstack : stack'.map Prod.fst = stack.map Prod.fst) :
    mark g ⟨roots', (w, ws) :: stack', order⟩ u =
      if u = w then .inProgress else mark g ⟨roots, stack, order⟩ u := by
  by_cases hu : u = w
  · subst hu
    rw [if_pos rfl, mark_eq_inProgress_iff]
    exact List.mem_cons_self ..
  · have hopen : (((w, ws) :: stack').map Prod.fst).contains u =
        (stack.map Prod.fst).contains u := by
      rw [List.map_cons, List.contains_cons, beq_eq_false_iff_ne.mpr hu, Bool.false_or, hstack]
    simp only [mark, hopen, hu, if_false]

/-- A closed vertex is finished, and no other mark changes. -/
theorem mark_close (hv : v ∉ stack.map Prod.fst) :
    mark g ⟨roots, stack, v :: order⟩ u =
      if u = v then .finished else mark g ⟨roots, (v, []) :: stack, order⟩ u := by
  by_cases hu : u = v
  · subst hu
    have hclosed : (stack.map Prod.fst).contains u = false := by simpa using hv
    simp only [mark, hclosed, List.contains_cons, beq_self_eq_true, Bool.true_or, if_true,
      Bool.false_eq_true, if_false]
  · have hopen : (((v, ([] : List String)) :: stack).map Prod.fst).contains u =
        (stack.map Prod.fst).contains u := by
      rw [List.map_cons, List.contains_cons, beq_eq_false_iff_ne.mpr hu, Bool.false_or]
    simp only [mark, hopen, List.contains_cons, beq_eq_false_iff_ne.mpr hu, Bool.false_or, hu,
      if_false]

end Search

/-- The state of a search that keeps a table of marks. -/
structure TableSearch where
  /-- How far the search has come with each vertex. -/
  marks : Assoc String Mark
  /-- The vertices that are still to be tried as roots. -/
  roots : List String
  /-- The vertices in progress, innermost first, each with the successors not looked at yet. -/
  stack : List (String × List String)
  /-- The finished vertices, first finished first. -/
  completed : List String
  deriving DecidableEq, Repr

namespace TableSearch

/-- What one step of such a search leads to. -/
inductive Turn where
  | running (s : TableSearch)
  | ordered (order : List String)
  | cyclic (vertex : String)
  deriving DecidableEq, Repr

/-- A search before its first step: every listed vertex is untouched. -/
def start (t : Tables) : TableSearch :=
  ⟨.ofList (t.nodes.map fun v => (v, .untouched)), t.nodes, [], []⟩

/-- The mark of a vertex, or that there is none. -/
def mark (s : TableSearch) (v : String) : Except UnknownVertex Mark :=
  match s.marks.find? v with
  | some m => .ok m
  | none => .error ⟨v⟩

/-- Marks a vertex and opens its successors. -/
def enter (t : Tables) (s : TableSearch) (v : String) : Except UnknownVertex Turn := do
  let ws ← t.successors v
  return .running { s with
    marks := s.marks.insert v .inProgress
    stack := (v, ws) :: s.stack }

/-- Goes on with a root as its mark has it. -/
def tryRoot (t : Tables) (s : TableSearch) (root : String) : Mark → Except UnknownVertex Turn
  | .untouched => enter t s root
  | _ => .ok (.running s)

/-- Goes on with a successor as its mark has it. -/
def tryNext (t : Tables) (s : TableSearch) (next : String) : Mark → Except UnknownVertex Turn
  | .untouched => enter t s next
  | .inProgress => .ok (.cyclic next)
  | .finished => .ok (.running s)

/-- One step: close the innermost vertex, look at its next successor, or try the next root. -/
def step (t : Tables) (s : TableSearch) : Except UnknownVertex Turn :=
  match s with
  | ⟨_, [], [], completed⟩ => .ok (.ordered completed.reverse)
  | ⟨marks, root :: roots, [], completed⟩ => do
    tryRoot t ⟨marks, roots, [], completed⟩ root (← s.mark root)
  | ⟨marks, roots, (v, []) :: stack, completed⟩ =>
    .ok (.running ⟨marks.insert v .finished, roots, stack, completed ++ [v]⟩)
  | ⟨marks, roots, (v, next :: rest) :: stack, completed⟩ => do
    tryNext t ⟨marks, roots, (v, rest) :: stack, completed⟩ next (← s.mark next)

/-- The states that a search of two tables comes through. -/
def Reached (t : Tables) : TableSearch → Prop :=
  ReflTransGen (fun s s' => step t s = .ok (.running s')) (start t)

/-- The same state without its marks. -/
def toSearch (s : TableSearch) : Search := ⟨s.roots, s.stack, s.completed.reverse⟩

/-- The same outcome of a step without marks. -/
def Turn.outcome : Turn → Outcome
  | .running s => .running s.toSearch
  | .ordered order => .ordered order
  | .cyclic v => .cyclic v

/-- Marks under every listed vertex, as they are read off a state without marks. -/
def Marked (t : Tables) (marks : Assoc String Mark) (s : Search) : Prop :=
  ∀ v ∈ t.nodes, marks.find? v = some (Search.mark t.toGraph s v)

section Marked

variable {t : Tables} {marks : Assoc String Mark} {roots roots' order : List String}
  {stack stack' : List (String × List String)} {v w : String}

theorem marked_start (ht : t.InStep) (hg : t.toGraph.WellFormed) :
    Marked t (start t).marks (Search.start t.toGraph) := by
  intro v hv
  have hkeys : (t.nodes.map fun v => (v, Mark.untouched)).map Prod.fst = t.nodes := by
    rw [List.map_map]
    exact List.map_id _
  have hnodup : t.nodes.Nodup := ht ▸ hg.nodup
  have huntouched : Search.mark t.toGraph (Search.start t.toGraph) v = .untouched :=
    Search.mark_eq_untouched_iff.mpr ⟨nofun, nofun, ht.mem_iff.mp hv⟩
  rw [huntouched]
  apply (Assoc.find?_eq_some_iff (Assoc.nodup_keys_ofList _)).mpr
  rw [Assoc.entries_ofList (hkeys.symm ▸ hnodup)]
  exact List.mem_map_of_mem hv

/-- What is not marked anew keeps its marks. -/
theorem Marked.congr (h : Marked t marks ⟨roots, stack, order⟩)
    (hstack : stack'.map Prod.fst = stack.map Prod.fst) :
    Marked t marks ⟨roots', stack', order⟩ := by
  intro v hv
  rw [h v hv, Search.mark_congr hstack]

theorem Marked.enter (h : Marked t marks ⟨roots, stack, order⟩) {ws : List String}
    (hstack : stack'.map Prod.fst = stack.map Prod.fst) :
    Marked t (marks.insert w .inProgress) ⟨roots', (w, ws) :: stack', order⟩ := by
  intro u hu
  rw [Search.mark_enter roots hstack]
  by_cases huw : u = w
  · rw [huw, Assoc.find?_insert_self, if_pos rfl]
  · rw [Assoc.find?_insert_of_ne _ huw, if_neg huw, h u hu]

theorem Marked.close (h : Marked t marks ⟨roots, (v, []) :: stack, order⟩)
    (hv : v ∉ stack.map Prod.fst) :
    Marked t (marks.insert v .finished) ⟨roots, stack, v :: order⟩ := by
  intro u hu
  rw [Search.mark_close hv]
  by_cases huv : u = v
  · rw [huv, Assoc.find?_insert_self, if_pos rfl]
  · rw [Assoc.find?_insert_of_ne _ huv, if_neg huv, h u hu]

end Marked

variable {t : Tables} {s s' : TableSearch} {v : String}

/-- A state belongs to a state of the search without marks, and has the marks of that state. -/
structure Follows (t : Tables) (s : TableSearch) : Prop where
  reached : Search.Reached t.toGraph s.toSearch
  /-- From here the search without marks ends as it does from its start. -/
  run : Search.run t.toGraph s.toSearch = t.toGraph.order
  marked : Marked t s.marks s.toSearch

theorem follows_start (ht : t.InStep) (hg : t.toGraph.WellFormed) : Follows t (start t) := by
  have hsearch : (start t).toSearch = Search.start t.toGraph := congrArg (Search.mk · [] []) ht
  refine ⟨?_, ?_, ?_⟩
  · rw [hsearch]
    exact .refl
  · rw [hsearch]
    rfl
  · rw [hsearch]
    exact marked_start ht hg

/-- No look-up of the next step fails, and the step is that of the search without marks. -/
def Agrees (t : Tables) (s : TableSearch) : Prop :=
  ∃ r, step t s = .ok r ∧ r.outcome = Search.step t.toGraph s.toSearch ∧
    ∀ s', r = .running s' → Follows t s'

/-- Where the search goes on, its marks have to be right again. -/
theorem Follows.agrees (h : Follows t s) (hs : step t s = .ok (.running s'))
    (hsearch : Search.step t.toGraph s.toSearch = .running s'.toSearch)
    (hmarked : Marked t s'.marks s'.toSearch) : Agrees t s := by
  refine ⟨.running s', hs, hsearch.symm, ?_⟩
  rintro _ ⟨⟩
  exact ⟨h.reached.tail (.of_step hsearch), (Search.run_of_step hsearch).symm.trans h.run, hmarked⟩

theorem mark_eq_ok (h : Marked t s.marks s.toSearch) (hv : v ∈ t.nodes) :
    s.mark v = .ok (Search.mark t.toGraph s.toSearch v) := by
  rw [mark, h v hv]

/-- The successors of a listed vertex are found. -/
theorem enter_eq_ok (ht : t.InStep) (hv : v ∈ t.nodes) : enter t s v = .ok (.running { s with
    marks := s.marks.insert v .inProgress
    stack := (v, t.toGraph.successors v) :: s.stack }) := by
  rw [enter, Tables.successors_of_mem (ht.mem_iff.mp hv)]
  rfl

section Step

variable {marks : Assoc String Mark} {roots completed rest : List String}
  {stack : List (String × List String)} {root next : String}

theorem Follows.agrees_root (ht : t.InStep)
    (h : Follows t ⟨marks, root :: roots, [], completed⟩) (hroot : root ∈ t.nodes) :
    Agrees t ⟨marks, root :: roots, [], completed⟩ := by
  have hstep : step t ⟨marks, root :: roots, [], completed⟩ =
      tryRoot t ⟨marks, roots, [], completed⟩ root
        (Search.mark t.toGraph ⟨root :: roots, [], completed.reverse⟩ root) := by
    rw [step, mark_eq_ok h.marked hroot]
    rfl
  have hsearch : Search.step t.toGraph ⟨root :: roots, [], completed.reverse⟩ =
      match Search.mark t.toGraph ⟨root :: roots, [], completed.reverse⟩ root with
      | .untouched => .running ⟨roots, [(root, t.toGraph.successors root)], completed.reverse⟩
      | _ => .running ⟨roots, [], completed.reverse⟩ := rfl
  cases hm : Search.mark t.toGraph ⟨root :: roots, [], completed.reverse⟩ root with
  | untouched =>
    rw [hm, tryRoot, enter_eq_ok ht hroot] at hstep
    rw [hm] at hsearch
    exact h.agrees hstep hsearch (h.marked.enter rfl)
  | inProgress | finished =>
    rw [hm, tryRoot] at hstep
    · rw [hm] at hsearch
      exact h.agrees hstep hsearch (h.marked.congr rfl)
    · nofun

theorem Follows.agrees_close (hg : t.toGraph.WellFormed)
    (h : Follows t ⟨marks, roots, (v, []) :: stack, completed⟩) :
    Agrees t ⟨marks, roots, (v, []) :: stack, completed⟩ := by
  have hsearch : Search.step t.toGraph ⟨roots, (v, []) :: stack, completed.reverse⟩ =
      .running ⟨roots, stack, v :: completed.reverse⟩ := by
    cases roots <;> rfl
  -- no vertex is in progress twice, so the closed one is in progress no longer
  have hv : v ∉ stack.map Prod.fst := by
    have hnodup := (Search.Invariant.of_reached hg h.reached).nodup
    exact (List.nodup_cons.mp (List.nodup_append.mp hnodup).1).1
  have hstep : step t ⟨marks, roots, (v, []) :: stack, completed⟩ =
      .ok (.running ⟨marks.insert v .finished, roots, stack, completed ++ [v]⟩) := by
    cases roots <;> rfl
  -- the one list of finished vertices grows at its end, the other at its head
  have hclosed : toSearch ⟨marks.insert v .finished, roots, stack, completed ++ [v]⟩ =
      ⟨roots, stack, v :: completed.reverse⟩ :=
    congrArg (Search.mk roots stack) List.reverse_concat
  refine h.agrees hstep ?_ ?_
  · rw [hclosed]
    exact hsearch
  · rw [hclosed]
    exact h.marked.close hv

theorem Follows.agrees_next (ht : t.InStep)
    (h : Follows t ⟨marks, roots, (v, next :: rest) :: stack, completed⟩) (hnext : next ∈ t.nodes) :
    Agrees t ⟨marks, roots, (v, next :: rest) :: stack, completed⟩ := by
  have hstep : step t ⟨marks, roots, (v, next :: rest) :: stack, completed⟩ =
      tryNext t ⟨marks, roots, (v, rest) :: stack, completed⟩ next
        (Search.mark t.toGraph ⟨roots, (v, next :: rest) :: stack, completed.reverse⟩ next) := by
    rw [step, mark_eq_ok h.marked hnext]
    rfl
  have hsearch : Search.step t.toGraph ⟨roots, (v, next :: rest) :: stack, completed.reverse⟩ =
      match Search.mark t.toGraph ⟨roots, (v, next :: rest) :: stack, completed.reverse⟩ next with
      | .untouched => .running
        ⟨roots, (next, t.toGraph.successors next) :: (v, rest) :: stack, completed.reverse⟩
      | .inProgress => .cyclic next
      | .finished => .running ⟨roots, (v, rest) :: stack, completed.reverse⟩ := by
    cases roots <;> rfl
  -- the mark of the vertex decides both searches alike
  cases hm : Search.mark t.toGraph ⟨roots, (v, next :: rest) :: stack, completed.reverse⟩ next with
  | untouched =>
    rw [hm, tryNext, enter_eq_ok ht hnext] at hstep
    rw [hm] at hsearch
    exact h.agrees hstep hsearch (h.marked.enter rfl)
  | inProgress =>
    rw [hm, tryNext] at hstep
    rw [hm] at hsearch
    exact ⟨_, hstep, hsearch.symm, nofun⟩
  | finished =>
    rw [hm, tryNext] at hstep
    rw [hm] at hsearch
    exact h.agrees hstep hsearch (h.marked.congr rfl)

end Step

/-- No look-up of a search that follows fails. -/
theorem Follows.step (ht : t.InStep) (hg : t.toGraph.WellFormed) (h : Follows t s) :
    Agrees t s := by
  obtain ⟨marks, roots, stack, completed⟩ := s
  obtain ⟨hroots, hframes⟩ := h.reached.mem_vertices hg
  have hnodes : ∀ {v}, v ∈ t.toGraph.vertices → v ∈ t.nodes := fun hv => ht.mem_iff.mpr hv
  match stack, roots with
  | [], [] => exact ⟨_, rfl, rfl, nofun⟩
  | [], root :: roots => exact h.agrees_root ht (hnodes (hroots root (List.mem_cons_self ..)))
  | (v, []) :: stack, roots => exact h.agrees_close hg
  | (v, next :: rest) :: stack, roots =>
    obtain ⟨-, hrest⟩ := hframes (v, next :: rest) (List.mem_cons_self ..)
    exact h.agrees_next ht (hnodes (hrest next (List.mem_cons_self ..)))

theorem Follows.of_reached (ht : t.InStep) (hg : t.toGraph.WellFormed) (h : Reached t s) :
    Follows t s := by
  induction h with
  | refl => exact follows_start ht hg
  | tail _ hs ih =>
    obtain ⟨r, hr, -, hnext⟩ := ih.step ht hg
    rw [hs] at hr
    exact hnext _ (Except.ok.inj hr).symm

/-- An order that such a search ends with is that of the graph. -/
theorem Follows.order_of_ordered {order : List String} (h : Follows t s)
    (hs : Search.step t.toGraph s.toSearch = .ordered order) : t.toGraph.order = .ok order := by
  rw [← h.run]
  exact Search.run_of_ordered hs

theorem Follows.order_of_cyclic (h : Follows t s)
    (hs : Search.step t.toGraph s.toSearch = .cyclic v) :
    t.toGraph.order = .error (.cyclicGraph v) := by
  rw [← h.run]
  exact Search.run_of_cyclic hs

end TableSearch

namespace Tables

open StreamMesh.Graph (Call granted targets)

/-- After any calls, also refused ones, the first table lists every added vertex once, where it was
first added, and these are the keys of the second in the same order; the second is the graph of the
calls. Under each vertex it holds the targets of the granted edges, in the order of the calls, and
they are all vertices; so the edges that are read off both tables are the granted ones. A vertex
that is added again keeps its successors; an edge is refused exactly if one of its ends is missing,
and then nothing changes. In a search of the tables no look-up fails, and what it ends with is the
order of the graph or its cycle. -/
theorem built_consistent (calls : List Call) :
    ((built calls).nodes.Nodup ∧
      (built calls).nodes = (calls.filterMap Call.vertex?).eraseDups ∧
      (built calls).nodes = (built calls).adjacency.keys ∧
      (built calls).toGraph = Graph.built calls) ∧
    (∀ v ws, (built calls).adjacency.find? v = some ws →
      ws = targets (granted call empty calls) v ∧ ∀ w ∈ ws, w ∈ (built calls).nodes) ∧
    ((built calls).edges = .ok (Graph.built calls).edges ∧
      (Graph.built calls).edges.Perm (granted call empty calls) ∧
      ∀ v, targets (Graph.built calls).edges v = targets (granted call empty calls) v) ∧
    (∀ v ∈ (built calls).nodes, (built calls).call (.addVertex v) = (built calls, none)) ∧
    (∀ a b, ((built calls).call (.addEdge a b)).2 = none ↔
      a ∈ (built calls).nodes ∧ b ∈ (built calls).nodes) ∧
    (∀ a b, ((built calls).call (.addEdge a b)).2 ≠ none →
      ((built calls).call (.addEdge a b)).1 = built calls) ∧
    ∀ s, TableSearch.Reached (built calls) s →
      ∃ r, TableSearch.step (built calls) s = .ok r ∧
        (∀ order, r = .ordered order → (Graph.built calls).order = .ok order) ∧
        ∀ v, r = .cyclic v → (Graph.built calls).order = .error (.cyclicGraph v) := by
  -- the two tables are the vertices and the successors of the graph of the calls
  have hgraph := toGraph_built calls
  have ht := inStep_built calls
  have hg : (built calls).toGraph.WellFormed := hgraph ▸ Graph.wellFormed_built calls
  have hvertices : (built calls).nodes = (Graph.built calls).vertices := hgraph ▸ ht
  have hgranted : granted call empty calls = granted Graph.call .empty calls :=
    granted_eq empty calls
  have hsuccessors : ∀ v, (built calls).toGraph.successors v =
      targets (granted call empty calls) v := by
    intro v
    rw [hgraph, hgranted, Graph.successors_built]
  refine ⟨⟨?_, ?_, ht, hgraph⟩, ?_, ⟨?_, ?_, fun v => ?_⟩, ?_, ?_, ?_, ?_⟩
  · rw [hvertices]
    exact (Graph.wellFormed_built calls).nodup
  · rw [hvertices, Graph.vertices_built]
  · intro v ws hws
    have hv : (built calls).toGraph.successors v = ws := by
      simp only [Graph.successors, Graph.successors?, toGraph, hws, Option.getD_some]
    refine ⟨by rw [← hv, hsuccessors], fun w hw => ht.mem_iff.mpr ?_⟩
    have hedge : (built calls).toGraph.Edge v w := by
      rw [Graph.Edge, hv]
      exact hw
    exact hg.target_mem hedge
  · rw [← hgraph]
    exact ht.edges_eq hg
  · rw [hgranted]
    exact Graph.edges_perm_granted calls
  · rw [← hgraph, Graph.targets_edges hg, hsuccessors]
  · exact fun v hv => ht.call_addVertex_of_mem hv
  · exact fun a b => ht.granted_iff
  · exact fun a b h => call_of_refused h
  · intro s hs
    have follows := TableSearch.Follows.of_reached ht hg hs
    obtain ⟨r, hr, houtcome, -⟩ := follows.step ht hg
    refine ⟨r, hr, ?_, ?_⟩
    · rintro order rfl
      exact hgraph ▸ follows.order_of_ordered houtcome.symm
    · rintro v rfl
      exact hgraph ▸ follows.order_of_cyclic houtcome.symm

/-- An edge that is added twice is read twice, and one that is refused is not read. -/
example : (built Call.threeParts).edges =
    .ok [("clean", "count"), ("clean", "count"), ("watch", "store")] := by
  rfl

end Tables

end StreamMesh
