import StreamMesh.Fault
import StreamMesh.Graph.Basic

/-!
# Orders of a graph

The vertices of a graph without cycles are put in an order in which the origin of every edge comes
before its target. A depth-first search tries the vertices, and the successors of each, oldest
first; a vertex is finished once all its successors are, and the order lists the vertices finished
last first. Reaching a vertex that is still in progress shows a cycle.

The search keeps its own stack. Every step lowers the weight of the search by one: what remains to
be looked at are the untouched vertices with their edges, and the rest of each open list.

## Main definitions

* `Search` — the state of a depth-first search
* `Search.step` — one step of it
* `Search.weight` — how many steps remain at most
* `Graph.order` — the order, or a vertex on a cycle

## Main results

* `Search.weight_lt_of_step` — every step lowers the weight
-/

namespace StreamMesh

/-- How far the search has come with a vertex. -/
inductive Mark where
  | untouched
  | inProgress
  | finished
  deriving DecidableEq, Repr

/-- The state of a depth-first search. -/
structure Search where
  /-- The vertices that are still to be tried as roots. -/
  roots : List String
  /-- The vertices in progress, innermost first, each with the successors not looked at yet. -/
  stack : List (String × List String)
  /-- The finished vertices, last finished first. -/
  order : List String
  deriving DecidableEq, Repr

/-- What one step of a search leads to. -/
inductive Outcome where
  | running (s : Search)
  | ordered (order : List String)
  | cyclic (vertex : String)
  deriving DecidableEq, Repr

namespace Search

/-- A search of a graph before its first step. -/
def start (g : Graph) : Search := ⟨g.vertices, [], []⟩

/-- The mark of a vertex. What is no vertex of the graph counts as finished. -/
def mark (g : Graph) (s : Search) (v : String) : Mark :=
  if (s.stack.map Prod.fst).contains v then .inProgress
  else if s.order.contains v || !g.hasVertex v then .finished
  else .untouched

/-- One step: close the innermost vertex, look at its next successor, or try the next root. -/
def step (g : Graph) (s : Search) : Outcome :=
  match s with
  | ⟨[], [], order⟩ => .ordered order
  -- Nothing is in progress, so the next root is tried, unless it is finished.
  | ⟨root :: roots, [], order⟩ =>
    match mark g s root with
    | .untouched => .running ⟨roots, [(root, g.successors root)], order⟩
    | _ => .running ⟨roots, [], order⟩
  -- All successors of the innermost vertex are finished, and so it is.
  | ⟨roots, (v, []) :: stack, order⟩ => .running ⟨roots, stack, v :: order⟩
  -- Its next successor is entered, passed over, or found to close a cycle.
  | ⟨roots, (v, next :: rest) :: stack, order⟩ =>
    match mark g s next with
    | .untouched => .running ⟨roots, (next, g.successors next) :: (v, rest) :: stack, order⟩
    | .inProgress => .cyclic next
    | .finished => .running ⟨roots, (v, rest) :: stack, order⟩

/-- One for a vertex and one for each edge that leaves it. -/
def share (g : Graph) (v : String) : Nat := (g.successors v).length + 1

/-- The shares of the untouched vertices among some. -/
def untouchedWeight (g : Graph) (s : Search) (vs : List String) : Nat :=
  (vs.filter fun v => mark g s v == .untouched).foldr (fun v n => share g v + n) 0

/-- One for each vertex in progress and one for each of its successors not looked at yet. -/
def stackWeight (stack : List (String × List String)) : Nat :=
  stack.foldr (fun frame n => frame.2.length + 1 + n) 0

/-- How many steps a search takes at most. -/
def weight (g : Graph) (s : Search) : Nat :=
  untouchedWeight g s g.vertices + stackWeight s.stack + s.roots.length

theorem mark_eq_untouched_iff {g : Graph} {s : Search} {v : String} :
    mark g s v = .untouched ↔ v ∉ s.stack.map Prod.fst ∧ v ∉ s.order ∧ v ∈ g.vertices := by
  have hg : g.hasVertex v = true ↔ v ∈ g.vertices := Assoc.contains_iff _ _
  unfold mark
  by_cases hs : v ∈ s.stack.map Prod.fst
  · simp [hs]
  · by_cases ho : v ∈ s.order <;> by_cases hv : v ∈ g.vertices <;> simp_all

/-- Fewer untouched vertices weigh no more. -/
theorem untouchedWeight_mono {g : Graph} {s s' : Search}
    (h : ∀ v, mark g s' v = .untouched → mark g s v = .untouched) (vs : List String) :
    untouchedWeight g s' vs ≤ untouchedWeight g s vs := by
  induction vs with
  | nil => simp [untouchedWeight]
  | cons u us ih =>
    simp only [untouchedWeight] at ih ⊢
    by_cases h' : mark g s' u = .untouched
    · simp [h', h u h', ih]
    · by_cases hu : mark g s u = .untouched <;> simp [hu, h'] <;> omega

/-- A vertex that is no longer untouched takes its share away. -/
theorem untouchedWeight_add_share_le {g : Graph} {s s' : Search} {w : String} {vs : List String}
    (h : ∀ v, mark g s' v = .untouched → mark g s v = .untouched)
    (hw : w ∈ vs) (hs : mark g s w = .untouched) (hs' : mark g s' w ≠ .untouched) :
    untouchedWeight g s' vs + share g w ≤ untouchedWeight g s vs := by
  induction vs with
  | nil => cases hw
  | cons u us ih =>
    have mono := untouchedWeight_mono h us
    by_cases hu : u = w
    · subst hu
      simp only [untouchedWeight] at mono ⊢
      simp [hs, hs']
      omega
    · have := ih ((List.mem_cons.mp hw).resolve_left fun e => hu e.symm)
      simp only [untouchedWeight] at this ⊢
      by_cases h' : mark g s' u = .untouched
      · simp [h', h u h']
        omega
      · by_cases hu' : mark g s u = .untouched <;> simp [hu', h'] <;> omega

/-- Putting an untouched vertex on the stack moves its share from the one weight to the other. -/
theorem untouchedWeight_push_le {g : Graph} {roots order : List String}
    {stack : List (String × List String)} {w : String} (roots' : List String)
    (stack' : List (String × List String)) (next : List String)
    (hw : mark g ⟨roots, stack, order⟩ w = .untouched)
    (hstack : stack'.map Prod.fst = stack.map Prod.fst) :
    untouchedWeight g ⟨roots', (w, next) :: stack', order⟩ g.vertices + share g w
      ≤ untouchedWeight g ⟨roots, stack, order⟩ g.vertices := by
  refine untouchedWeight_add_share_le ?_ (mark_eq_untouched_iff.mp hw).2.2 hw ?_
  · intro v hv
    rw [mark_eq_untouched_iff] at hv ⊢
    simp only [List.map_cons, List.mem_cons, not_or, hstack] at hv
    exact ⟨hv.1.2, hv.2⟩
  · rw [Ne, mark_eq_untouched_iff]
    simp

/-- Every step lowers the weight. -/
theorem weight_lt_of_step {g : Graph} {s s' : Search} (h : step g s = .running s') :
    weight g s' < weight g s := by
  unfold step at h
  split at h
  · cases h
  · rename_i root roots order
    split at h
    · rename_i hroot
      cases h
      have := untouchedWeight_push_le roots [] (g.successors root) hroot rfl
      simp only [weight, stackWeight, share, List.foldr_cons, List.foldr_nil,
        List.length_cons] at this ⊢
      omega
    · cases h
      have : untouchedWeight g ⟨roots, [], order⟩ g.vertices
          ≤ untouchedWeight g ⟨root :: roots, [], order⟩ g.vertices :=
        untouchedWeight_mono (fun v hv => hv) _
      simp only [weight, List.length_cons]
      omega
  · rename_i roots v stack order
    cases h
    have : untouchedWeight g ⟨roots, stack, v :: order⟩ g.vertices
        ≤ untouchedWeight g ⟨roots, (v, []) :: stack, order⟩ g.vertices := by
      refine untouchedWeight_mono (fun u hu => ?_) _
      rw [mark_eq_untouched_iff] at hu ⊢
      simp only [List.mem_cons, not_or, List.map_cons] at hu ⊢
      exact ⟨⟨hu.2.1.1, hu.1⟩, hu.2.1.2, hu.2.2⟩
    simp only [weight, stackWeight, List.length_nil, List.foldr_cons]
    omega
  · rename_i roots v next rest stack order
    split at h
    · rename_i hnext
      cases h
      have := untouchedWeight_push_le roots ((v, rest) :: stack) (g.successors next) hnext rfl
      simp only [weight, stackWeight, share, List.foldr_cons, List.length_cons] at this ⊢
      omega
    · cases h
    · cases h
      have : untouchedWeight g ⟨roots, (v, rest) :: stack, order⟩ g.vertices
          ≤ untouchedWeight g ⟨roots, (v, next :: rest) :: stack, order⟩ g.vertices :=
        untouchedWeight_mono (fun v hv => hv) _
      simp only [weight, stackWeight, List.foldr_cons, List.length_cons]
      omega

/-- Steps until the search ends. -/
def run (g : Graph) (s : Search) : Except Fault (List String) :=
  match h : step g s with
  | .running s' =>
    have := weight_lt_of_step h
    run g s'
  | .ordered order => .ok order
  | .cyclic v => .error (.cyclicGraph v)
termination_by weight g s

end Search

/-- The vertices in an order in which the origin of every edge comes before its target. -/
def Graph.order (g : Graph) : Except Fault (List String) := Search.run g (Search.start g)

end StreamMesh
