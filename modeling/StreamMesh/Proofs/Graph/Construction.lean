import StreamMesh.Proofs.Graph.Edges
import StreamMesh.Proofs.Graph.Search

/-!
# Orders of graphs under construction

A graph is made by adding vertices and edges in any order. An edge between vertices of which one is
missing is refused and changes nothing; vertices and edges may be repeated. Every graph that is made
in this way is well-formed, so its order is sound, there is one unless a cycle is in the way, and
the search for it meets vertices of the graph only.

## Main definitions

* `Graph.Call`, `Graph.call`, `Graph.built` — calls, the effect of one, and the graph of several
* `Search.Reached` — the states of a search

## Main results

* `Graph.wellFormed_built` — any calls make a well-formed graph
* `Graph.built_order_sound` — an order lists every vertex once, and every edge leads onwards in it
* `Graph.built_order_fails_iff` — there is no order exactly if there is a cycle, and then one is
  shown
-/

namespace StreamMesh

open Relation

namespace Graph

/-- A call that adds to a graph. -/
inductive Call where
  | addVertex (v : String)
  | addEdge (origin target : String)
  deriving DecidableEq, Repr

/-- The effect of a call, and what it complains of. -/
def call (g : Graph) : Call → Graph × Option UnknownVertex
  | .addVertex v => (g.addVertex v, none)
  | .addEdge a b => match g.addEdge a b with
    | .ok g' => (g', none)
    | .error e => (g, some e)

/-- The graph after calls, one after the other. -/
def run (g : Graph) (calls : List Call) : Graph := calls.foldl (fun g c => (g.call c).1) g

/-- The graph that calls make from nothing. -/
def built (calls : List Call) : Graph := empty.run calls

variable {g : Graph} {a b v : String} {order : List String}

/-- A call keeps a graph well-formed, whether it succeeds or not. -/
theorem WellFormed.call (hg : g.WellFormed) (c : Call) : (g.call c).1.WellFormed := by
  cases c with
  | addVertex v => exact hg.addVertex v
  | addEdge a b =>
    simp only [Graph.call]
    cases h : g.addEdge a b with
    | ok g' => exact hg.addEdge h
    | error e => exact hg

theorem WellFormed.run (hg : g.WellFormed) (calls : List Call) : (g.run calls).WellFormed := by
  induction calls generalizing g with
  | nil => exact hg
  | cons c rest ih => exact ih (hg.call c)

theorem wellFormed_built (calls : List Call) : (built calls).WellFormed :=
    wellFormed_empty.run calls

/-- Where every vertex stands before its successors, the origin of an edge stands before its
target. -/
theorem Finished.pair_sublist (h : g.Finished order) (ha : a ∈ order) (hab : g.Edge a b) :
    [a, b].Sublist order := by
  induction order with
  | nil => cases ha
  | cons v rest ih =>
    obtain ⟨hv, hrest⟩ := h
    rcases List.mem_cons.mp ha with rfl | ha
    · exact (List.singleton_sublist.mpr (hv b hab)).cons_cons a
    · exact (ih hrest ha).cons v

end Graph

namespace Search

variable {g : Graph} {s s' : Search} {v w : String}

/-- The states that a search of a graph comes through. -/
def Reached (g : Graph) : Search → Prop := ReflTransGen (Step g) (start g)

theorem Invariant.of_reached (hg : g.WellFormed) (h : Reached g s) : Invariant g s := by
  induction h with
  | refl => exact invariant_start g
  | tail _ hs ih => exact ih.step hg hs

/-- What an open frame has still to look at are successors of its vertex. -/
theorem Frames.edge {order : List String} {child : Option String}
    {stack : List (String × List String)} (hf : Frames g order child stack)
    {frame : String × List String} (hframe : frame ∈ stack) (hw : w ∈ frame.2) :
    g.Edge frame.1 w := by
  induction stack generalizing child with
  | nil => cases hframe
  | cons first outer ih =>
    obtain ⟨hrest, -, -, houter⟩ := hf
    rcases List.mem_cons.mp hframe with rfl | hframe
    · exact hrest w hw
    · exact ih houter hframe

/-- Roots are only taken away. -/
theorem Step.roots_subset (h : Step g s s') : s'.roots ⊆ s.roots := by
  cases h with
  | enter | skip => exact List.subset_cons_self _ _
  | close | descend | pass => exact List.Subset.refl _

theorem Reached.roots_subset (h : Reached g s) : s.roots ⊆ g.vertices := by
  induction h with
  | refl => exact List.Subset.refl _
  | tail _ hs ih => exact List.Subset.trans hs.roots_subset ih

/-- Whatever a search looks at is a vertex of the graph. -/
theorem Reached.mem_vertices (hg : g.WellFormed) (h : Reached g s) :
    (∀ v ∈ s.roots, v ∈ g.vertices) ∧
      ∀ frame ∈ s.stack, frame.1 ∈ g.vertices ∧ ∀ w ∈ frame.2, w ∈ g.vertices := by
  have inv := Invariant.of_reached hg h
  refine ⟨fun v hv => h.roots_subset hv, fun frame hframe => ⟨?_, fun w hw => ?_⟩⟩
  · exact inv.mem_vertices _ (List.mem_append_left _ (List.mem_map_of_mem hframe))
  · exact hg.target_mem (inv.frames.edge hframe hw)

end Search

namespace Graph

variable {order : List String}

/-- An order of a graph that was made by calls lists every vertex exactly once and nothing else, and
the origin of every edge stands before its target. -/
theorem built_order_sound (calls : List Call) (h : (built calls).order = .ok order) :
    order.Nodup ∧ (∀ v, v ∈ order ↔ v ∈ (built calls).vertices) ∧
      ∀ a b, (a, b) ∈ (built calls).edges → [a, b].Sublist order := by
  have hg := wellFormed_built calls
  have inv := invariant_of_order_eq_ok hg h
  have hmem : ∀ v, v ∈ order ↔ v ∈ (built calls).vertices := fun v =>
    (perm_vertices_of_order_eq_ok hg h).mem_iff
  refine ⟨inv.nodup, hmem, fun a b hab => ?_⟩
  have hedge := (mem_edges hg).mp hab
  exact inv.finished.pair_sublist ((hmem a).mpr hedge.origin_mem) hedge

/-- Calls that make a graph of three parts, with an edge that is added twice, a vertex that is added
again, a vertex on its own, and an edge that is refused. -/
def Call.threeParts : List Call := [
  .addVertex "clean", .addVertex "count", .addEdge "clean" "count", .addEdge "clean" "count",
  .addVertex "store", .addVertex "watch", .addEdge "watch" "nowhere", .addEdge "watch" "store",
  .addVertex "clean", .addVertex "alone"]

theorem built_order_sound_threeParts :
    (built Call.threeParts).order = .ok ["alone", "watch", "store", "clean", "count"] ∧
      ["alone", "watch", "store", "clean", "count"].Nodup ∧
      (∀ v, v ∈ ["alone", "watch", "store", "clean", "count"] ↔
        v ∈ (built Call.threeParts).vertices) ∧
      ∀ a b, (a, b) ∈ (built Call.threeParts).edges →
        [a, b].Sublist ["alone", "watch", "store", "clean", "count"] := by
  have h : (built Call.threeParts).order = .ok ["alone", "watch", "store", "clean", "count"] := by
    rw [Graph.order]
    iterate 13 refine Eq.trans (Search.run_of_step rfl) ?_
    exact Search.run_of_ordered rfl
  exact ⟨h, built_order_sound Call.threeParts h⟩

/-- A graph that was made by calls has no order exactly if it has a cycle. The error then names a
vertex on a cycle; no other error occurs, since the search looks at vertices of the graph only. -/
theorem built_order_fails_iff (calls : List Call) :
    ((∃ f, (built calls).order = .error f) ↔ ∃ v, TransGen (built calls).Edge v v) ∧
      (∀ f, (built calls).order = .error f →
        ∃ v, f = .cyclicGraph v ∧ TransGen (built calls).Edge v v) ∧
      ∀ s, Search.Reached (built calls) s →
        (∀ v ∈ s.roots, v ∈ (built calls).vertices) ∧
          ∀ frame ∈ s.stack, frame.1 ∈ (built calls).vertices ∧
            ∀ w ∈ frame.2, w ∈ (built calls).vertices := by
  have hg := wellFormed_built calls
  refine ⟨⟨?_, ?_⟩, fun f h => cycle_of_order_eq_error hg h, fun s hs => hs.mem_vertices hg⟩
  · rintro ⟨f, h⟩
    obtain ⟨v, -, hv⟩ := cycle_of_order_eq_error hg h
    exact ⟨v, hv⟩
  · rintro ⟨v, hv⟩
    cases h : (built calls).order with
    | ok order => exact absurd hv (acyclic_of_order_eq_ok hg h)
    | error f => exact ⟨f, rfl⟩

/-- A vertex that is its own successor is a cycle, wherever it stands. -/
example : (built [.addVertex "clean", .addVertex "count", .addEdge "count" "count"]).order =
    .error (.cyclicGraph "count") := by
  rw [Graph.order]
  iterate 3 refine Eq.trans (Search.run_of_step rfl) ?_
  rw [Search.run]
  rfl

end Graph

end StreamMesh
