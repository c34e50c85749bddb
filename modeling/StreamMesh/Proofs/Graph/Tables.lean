import StreamMesh.Proofs.Graph.Calls

/-!
# A graph in two tables

A graph can be kept in two tables that are written one after the other: the list of its vertices,
and the successors under each vertex. A change looks vertices up as it goes; where one is missing it
stops, and whatever it has written by then stays written. Nothing in the type keeps the two tables
in step, but calls do: after any calls, also refused ones, the first table lists the keys of the
second in their order, and the second is the graph that the calls make. So the edges can be read off
both tables without missing a vertex.

## Main definitions

* `Tables` — the two tables
* `Tables.Change` — changes that can stop halfway
* `Tables.call`, `Tables.built` — the tables after a call, and after several
* `Tables.edges` — the edges, read vertex by vertex
* `Tables.InStep` — the tables list the same vertices in the same order

## Main results

* `Tables.call_addVertex`, `Tables.call_addEdge` — what calls do
* `Tables.call_of_refused` — a refused call changes nothing
* `Tables.toGraph_call` — a call does to the tables what it does to the graph
* `Tables.inStep_built` — the tables are in step after any calls
* `Tables.InStep.edges_eq` — reading the edges meets every vertex
-/

namespace StreamMesh

/-- A graph in two tables. -/
structure Tables where
  /-- The vertices, oldest first. -/
  nodes : List String
  /-- The successors of each vertex, oldest first. -/
  adjacency : Assoc String (List String)
  deriving DecidableEq, Repr

namespace Tables

/-- The tables before anything is added. -/
def empty : Tables := ⟨[], .empty⟩

/-- A change of the tables. Where it stops, what it has written stays. -/
abbrev Change := EStateM UnknownVertex Tables

/-- Stops at a vertex that the second table does not have. -/
def require (v : String) : Change Unit := do
  let t ← get
  unless t.adjacency.contains v do throw ⟨v⟩

/-- Adds a vertex to both tables, unless the second has it. -/
def addVertex (v : String) : Change Unit := do
  let t ← get
  unless t.adjacency.contains v do
    modify fun t => { t with nodes := t.nodes ++ [v] }
    modify fun t => { t with adjacency := t.adjacency.insert v [] }

/-- Adds a successor under a vertex. -/
def append (v w : String) : Change Unit := do
  let t ← get
  match t.adjacency.find? v with
  | some known => set { t with adjacency := t.adjacency.insert v (known ++ [w]) }
  | none => throw ⟨v⟩

/-- Adds an edge, once both its ends have been found. -/
def addEdge (a b : String) : Change Unit := do
  require a
  require b
  append a b

/-- The change that a call asks for. -/
def change : Graph.Call → Change Unit
  | .addVertex v => addVertex v
  | .addEdge a b => addEdge a b

/-- The tables after a call, and what it complains of. -/
def call (t : Tables) (c : Graph.Call) : Tables × Option UnknownVertex :=
  match (change c).run t with
  | .ok _ t' => (t', none)
  | .error e t' => (t', some e)

/-- The tables after calls, one after the other. -/
def run (t : Tables) (calls : List Graph.Call) : Tables := calls.foldl (fun t c => (t.call c).1) t

/-- The tables that calls make from nothing. -/
def built (calls : List Graph.Call) : Tables := empty.run calls

/-- The successors of a vertex, or that there is no such vertex. -/
def successors (t : Tables) (v : String) : Except UnknownVertex (List String) :=
  match t.adjacency.find? v with
  | some ws => .ok ws
  | none => .error ⟨v⟩

/-- The edges that leave vertices, or the first vertex that is missing. -/
def edgesFrom (t : Tables) : List String → Except UnknownVertex (List (String × String))
  | [] => .ok []
  | v :: rest => do
    let ws ← t.successors v
    let es ← t.edgesFrom rest
    return (ws.map fun w => (v, w)) ++ es

/-- All edges: those of the first listed vertex first. -/
def edges (t : Tables) : Except UnknownVertex (List (String × String)) := t.edgesFrom t.nodes

/-- The graph that the second table is. -/
def toGraph (t : Tables) : Graph := ⟨t.adjacency⟩

/-- The first table lists the keys of the second, in their order. -/
def InStep (t : Tables) : Prop := t.nodes = t.adjacency.keys

variable {t : Tables} {a b v w : String}

section Changes

/-- One change after another: the second begins where the first has come to, or not at all. -/
theorem run_bind {α β : Type} (x : Change α) (f : α → Change β) (t : Tables) :
    (x >>= f).run t = match x.run t with
      | .ok r t' => (f r).run t'
      | .error e t' => .error e t' := by
  change EStateM.bind x f t = _
  unfold EStateM.bind EStateM.run
  cases x t <;> rfl

theorem run_require (t : Tables) (v : String) :
    (require v).run t = if t.adjacency.contains v then .ok () t else .error ⟨v⟩ t := by
  rw [require, run_bind]
  change (unless t.adjacency.contains v do throw ⟨v⟩ : Change Unit).run t = _
  cases t.adjacency.contains v <;> rfl

theorem run_append (t : Tables) (v w : String) : (append v w).run t =
    match t.adjacency.find? v with
    | some known => .ok () { t with adjacency := t.adjacency.insert v (known ++ [w]) }
    | none => .error ⟨v⟩ t := by
  rw [append, run_bind]
  change (match t.adjacency.find? v with
    | some known => set { t with adjacency := t.adjacency.insert v (known ++ [w]) }
    | none => throw ⟨v⟩ : Change Unit).run t = _
  cases t.adjacency.find? v <;> rfl

theorem call_addVertex (t : Tables) (v : String) : t.call (.addVertex v) =
    (if t.adjacency.contains v then t
      else ⟨t.nodes ++ [v], t.adjacency.insert v []⟩, none) := by
  have hrun : (addVertex v).run t = .ok () (if t.adjacency.contains v then t
      else ⟨t.nodes ++ [v], t.adjacency.insert v []⟩) := by
    rw [addVertex, run_bind]
    change (unless t.adjacency.contains v do
      modify fun t => { t with nodes := t.nodes ++ [v] }
      modify fun t => { t with adjacency := t.adjacency.insert v [] } : Change Unit).run t = _
    cases t.adjacency.contains v <;> rfl
  rw [call, change, hrun]

theorem call_addEdge (t : Tables) (a b : String) : t.call (.addEdge a b) =
    match t.adjacency.find? a with
    | none => (t, some ⟨a⟩)
    | some known =>
      if t.adjacency.contains b then
        ({ t with adjacency := t.adjacency.insert a (known ++ [b]) }, none)
      else (t, some ⟨b⟩) := by
  have hcontains : t.adjacency.contains a = (t.adjacency.find? a).isSome := rfl
  rw [call, change, addEdge, run_bind, run_require, hcontains]
  cases ha : t.adjacency.find? a with
  | none => rfl
  | some known =>
    simp only [Option.isSome_some, if_true]
    rw [run_bind, run_require]
    cases hb : t.adjacency.contains b with
    | false => rfl
    | true =>
      simp only [if_true]
      rw [run_append, ha]

/-- A refused call changes nothing: what it needs is looked up before anything is written. -/
theorem call_of_refused {c : Graph.Call} (h : (t.call c).2 ≠ none) : (t.call c).1 = t := by
  cases c with
  | addVertex v =>
    rw [call_addVertex] at h
    exact absurd rfl h
  | addEdge a b =>
    rw [call_addEdge] at h ⊢
    cases ha : t.adjacency.find? a with
    | none => rfl
    | some known =>
      rw [ha] at h
      cases hb : t.adjacency.contains b with
      | true =>
        rw [hb] at h
        exact absurd rfl h
      | false => rfl

end Changes

section Graph

/-- A call does to the tables what it does to the graph, and complains of the same. -/
theorem toGraph_call (t : Tables) (c : Graph.Call) :
    t.toGraph.call c = ((t.call c).1.toGraph, (t.call c).2) := by
  cases c with
  | addVertex v =>
    rw [call_addVertex]
    simp only [Graph.call, Graph.addVertex, Graph.hasVertex, toGraph]
    by_cases hv : t.adjacency.contains v <;> simp [hv]
  | addEdge a b =>
    rw [call_addEdge]
    simp only [Graph.call, Graph.addEdge, Graph.successors?, Graph.hasVertex, toGraph]
    cases t.adjacency.find? a with
    | none => rfl
    | some known => by_cases hb : t.adjacency.contains b <;> simp [hb]

theorem toGraph_run (t : Tables) (calls : List Graph.Call) :
    (t.run calls).toGraph = t.toGraph.run calls := by
  induction calls generalizing t with
  | nil => rfl
  | cons c rest ih =>
    have hcall : (t.call c).1.toGraph = (t.toGraph.call c).1 := by rw [toGraph_call]
    change ((t.call c).1.run rest).toGraph = (t.toGraph.call c).1.run rest
    rw [ih, hcall]

theorem toGraph_built (calls : List Graph.Call) : (built calls).toGraph = Graph.built calls :=
  toGraph_run empty calls

theorem granted_eq (t : Tables) (calls : List Graph.Call) :
    Graph.granted call t calls = Graph.granted Graph.call t.toGraph calls :=
  Graph.granted_congr toGraph_call t calls

end Graph

section InStep

theorem inStep_empty : empty.InStep := rfl

theorem InStep.mem_iff (h : t.InStep) : v ∈ t.nodes ↔ v ∈ t.adjacency.keys := by
  rw [h]

/-- A call keeps the tables in step, whether it succeeds or not. -/
theorem InStep.call (h : t.InStep) (c : Graph.Call) : (t.call c).1.InStep := by
  cases c with
  | addVertex v =>
    rw [call_addVertex]
    cases hv : t.adjacency.contains v with
    | true => exact h
    | false =>
      -- a new vertex goes to the end of both tables
      have hnew : v ∉ t.adjacency.keys := by
        rw [← Assoc.contains_iff, hv]
        nofun
      change t.nodes ++ [v] = (t.adjacency.insert v []).keys
      rw [Assoc.keys_insert, if_neg hnew, h]
  | addEdge a b =>
    rw [call_addEdge]
    cases ha : t.adjacency.find? a with
    | none => exact h
    | some known =>
      cases t.adjacency.contains b with
      | false => exact h
      | true =>
        -- the second table is written under a key that it has
        change t.nodes = (t.adjacency.insert a (known ++ [b])).keys
        rw [Assoc.keys_insert_of_mem (Assoc.mem_keys_of_find? ha)]
        exact h

theorem InStep.run (h : t.InStep) (calls : List Graph.Call) : (t.run calls).InStep := by
  induction calls generalizing t with
  | nil => exact h
  | cons c rest ih => exact ih (h.call c)

theorem inStep_built (calls : List Graph.Call) : (built calls).InStep := inStep_empty.run calls

/-- A vertex that is there already is not added again, and keeps its successors. -/
theorem InStep.call_addVertex_of_mem (h : t.InStep) (hv : v ∈ t.nodes) :
    t.call (.addVertex v) = (t, none) := by
  have hknown : t.adjacency.contains v = true := (Assoc.contains_iff _ _).mpr (h.mem_iff.mp hv)
  rw [call_addVertex, if_pos hknown]

/-- An edge is granted exactly between vertices that are there. -/
theorem InStep.granted_iff (h : t.InStep) :
    (t.call (.addEdge a b)).2 = none ↔ a ∈ t.nodes ∧ b ∈ t.nodes := by
  rw [h.mem_iff, h.mem_iff, ← Assoc.contains_iff, ← Assoc.contains_iff, Assoc.contains,
    call_addEdge]
  cases t.adjacency.find? a with
  | none => simp
  | some known => cases t.adjacency.contains b <;> simp

theorem successors_of_mem (hv : v ∈ t.adjacency.keys) :
    t.successors v = .ok (t.toGraph.successors v) := by
  have hknown : (t.adjacency.find? v).isSome := (Assoc.contains_iff _ _).mpr hv
  obtain ⟨ws, hws⟩ := Option.isSome_iff_exists.mp hknown
  simp only [successors, Graph.successors, Graph.successors?, toGraph, hws, Option.getD_some]

theorem edgesFrom_of_subset {vs : List String} (hvs : ∀ v ∈ vs, v ∈ t.adjacency.keys) :
    t.edgesFrom vs =
      .ok (vs.flatMap fun v => (t.toGraph.successors v).map fun w => (v, w)) := by
  induction vs with
  | nil => rfl
  | cons v rest ih =>
    obtain ⟨hv, hrest⟩ := List.forall_mem_cons.mp hvs
    rw [edgesFrom, successors_of_mem hv, ih hrest, List.flatMap_cons]
    rfl

/-- Reading the edges of tables in step meets every vertex, and gives the edges of the graph. -/
theorem InStep.edges_eq (h : t.InStep) (hg : t.toGraph.WellFormed) :
    t.edges = .ok t.toGraph.edges := by
  have hvertices : t.toGraph.vertices = t.nodes := h.symm
  rw [edges, edgesFrom_of_subset fun v hv => h.mem_iff.mp hv, Graph.edges_eq hg, hvertices]

end InStep

end Tables

end StreamMesh
