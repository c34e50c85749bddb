import Mathlib.Data.List.Perm.Basic
import Mathlib.Logic.Relation
import StreamMesh.Graph.Order
import StreamMesh.Proofs.Graph.WellFormed

/-!
# What a depth-first search finds

The vertices in progress form a path, from the innermost outwards against the edges, and every
finished vertex has all its successors finished before it. So a search that ends with an order has
listed every vertex once, each before its successors, and a search that meets a vertex in progress
has found a cycle through it.

## Main definitions

* `Search.Step` — what one step can do, as a relation
* `Search.Frames` — the open frames: a path, each frame with what it has looked at
* `Graph.Finished` — a list in which every vertex stands before its successors
* `Search.Invariant` — what holds throughout a search

## Main results

* `Search.Invariant.step` — every step keeps the invariant
* `Graph.perm_vertices_of_order_eq_ok` — an order lists every vertex exactly once
* `Graph.idxOf_lt_of_order_eq_ok` — the origin of an edge comes before its target
* `Graph.cycle_of_order_eq_error` — the vertex that an error names lies on a cycle
-/

namespace StreamMesh

open Relation

namespace Graph

variable {g : Graph} {a b : String} {order : List String}

/-- Every vertex of the list stands before its successors, which are all listed. -/
def Finished (g : Graph) : List String → Prop
  | [] => True
  | v :: rest => (∀ w, g.Edge v w → w ∈ rest) ∧ Finished g rest

theorem Finished.mem_of_edge (h : g.Finished order) (ha : a ∈ order) (hab : g.Edge a b) :
    b ∈ order := by
  induction order with
  | nil => cases ha
  | cons v rest ih =>
    obtain ⟨hv, hrest⟩ := h
    rcases List.mem_cons.mp ha with rfl | ha
    · exact List.mem_cons_of_mem _ (hv b hab)
    · exact List.mem_cons_of_mem _ (ih hrest ha)

theorem Finished.idxOf_lt (h : g.Finished order) (hn : order.Nodup) (ha : a ∈ order)
    (hab : g.Edge a b) : order.idxOf a < order.idxOf b := by
  induction order with
  | nil => cases ha
  | cons v rest ih =>
    obtain ⟨hv, hrest⟩ := h
    obtain ⟨hvrest, hnrest⟩ := List.nodup_cons.mp hn
    rcases List.mem_cons.mp ha with rfl | ha
    · have hne : b ≠ a := fun e => hvrest (e ▸ hv b hab)
      rw [List.idxOf_cons_self, List.idxOf_cons_ne _ hne.symm]
      exact Nat.succ_pos _
    · have hva : v ≠ a := fun e => hvrest (e ▸ ha)
      have hvb : v ≠ b := fun e => hvrest (e ▸ hrest.mem_of_edge ha hab)
      rw [List.idxOf_cons_ne _ hva, List.idxOf_cons_ne _ hvb]
      exact Nat.succ_lt_succ (ih hrest hnrest ha)

/-- Along any walk the place in the list grows. -/
theorem Finished.idxOf_lt_of_transGen (h : g.Finished order) (hn : order.Nodup) (ha : a ∈ order)
    (hab : TransGen g.Edge a b) : b ∈ order ∧ order.idxOf a < order.idxOf b := by
  induction hab with
  | single hab => exact ⟨h.mem_of_edge ha hab, h.idxOf_lt hn ha hab⟩
  | tail _ hbc ih =>
    exact ⟨h.mem_of_edge ih.1 hbc, Nat.lt_trans ih.2 (h.idxOf_lt hn ih.1 hbc)⟩

end Graph

namespace Search

variable {g : Graph} {s s' : Search} {v w : String} {order : List String}

theorem mark_eq_inProgress_iff : mark g s v = .inProgress ↔ v ∈ s.stack.map Prod.fst := by
  unfold mark
  by_cases hs : v ∈ s.stack.map Prod.fst
  · simp [hs]
  · by_cases ho : v ∈ s.order <;> by_cases hg : g.hasVertex v <;> simp_all

/-- A vertex of the graph that is neither untouched nor in progress has been finished. -/
theorem mem_order_of_mark (hs : mark g s v ≠ .untouched) (hp : mark g s v ≠ .inProgress)
    (hv : v ∈ g.vertices) : v ∈ s.order := by
  by_contra ho
  exact hs (mark_eq_untouched_iff.mpr ⟨fun h => hp (mark_eq_inProgress_iff.mpr h), ho, hv⟩)

/-- What one step can do. -/
inductive Step (g : Graph) : Search → Search → Prop
  /-- An untouched root is entered. -/
  | enter {root roots order} : mark g ⟨root :: roots, [], order⟩ root = .untouched →
      Step g ⟨root :: roots, [], order⟩ ⟨roots, [(root, g.successors root)], order⟩
  /-- A root that has been touched is passed over. -/
  | skip {root roots order} : mark g ⟨root :: roots, [], order⟩ root ≠ .untouched →
      Step g ⟨root :: roots, [], order⟩ ⟨roots, [], order⟩
  /-- The innermost vertex is finished. -/
  | close {roots v stack order} :
      Step g ⟨roots, (v, []) :: stack, order⟩ ⟨roots, stack, v :: order⟩
  /-- An untouched successor is entered. -/
  | descend {roots v next rest stack order} :
      mark g ⟨roots, (v, next :: rest) :: stack, order⟩ next = .untouched →
      Step g ⟨roots, (v, next :: rest) :: stack, order⟩
        ⟨roots, (next, g.successors next) :: (v, rest) :: stack, order⟩
  /-- A finished successor is passed over. -/
  | pass {roots v next rest stack order} :
      mark g ⟨roots, (v, next :: rest) :: stack, order⟩ next = .finished →
      Step g ⟨roots, (v, next :: rest) :: stack, order⟩ ⟨roots, (v, rest) :: stack, order⟩

theorem Step.of_step (h : step g s = .running s') : Step g s s' := by
  unfold step at h
  split at h
  · cases h
  · split at h
    · cases h
      exact .enter ‹_›
    · cases h
      exact .skip ‹_›
  · cases h
    exact .close
  · split at h
    · cases h
      exact .descend ‹_›
    · cases h
    · cases h
      exact .pass ‹_›

/-- The order is given out once no root and no open frame is left. -/
theorem of_step_eq_ordered (h : step g s = .ordered order) : s = ⟨[], [], order⟩ := by
  unfold step at h
  split at h
  · cases h
    rfl
  · split at h <;> cases h
  · cases h
  · split at h <;> cases h

/-- A cycle is reported at a successor that is still in progress. -/
theorem of_step_eq_cyclic (h : step g s = .cyclic w) :
    ∃ v rest stack, s.stack = (v, w :: rest) :: stack ∧ w ∈ s.stack.map Prod.fst := by
  unfold step at h
  split at h
  · cases h
  · split at h <;> cases h
  · cases h
  · split at h
    · cases h
    · rename_i hnext
      cases h
      exact ⟨_, _, _, rfl, mark_eq_inProgress_iff.mp hnext⟩
    · cases h

/-- The open frames of a search, innermost first. What a frame has looked at is finished, apart from
`child`, the vertex that was entered from the first frame; from every other frame the vertex of the
frame before it was entered. -/
def Frames (g : Graph) (order : List String) : Option String → List (String × List String) → Prop
  | _, [] => True
  | child, (v, rest) :: outer =>
    (∀ w ∈ rest, g.Edge v w) ∧ (∀ c, child = some c → g.Edge v c)
      ∧ (∀ w, g.Edge v w → w ∈ rest ∨ w ∈ order ∨ child = some w)
      ∧ Frames g order (some v) outer

theorem Frames.mono {order order' : List String} (h : order ⊆ order') {child : Option String}
    {stack : List (String × List String)} (hf : Frames g order child stack) :
    Frames g order' child stack := by
  induction stack generalizing child with
  | nil => trivial
  | cons frame outer ih =>
    obtain ⟨hrest, hchild, hlooked, houter⟩ := hf
    exact ⟨hrest, hchild, fun w hw => (hlooked w hw).imp_right (.imp_left (@h w)), ih houter⟩

/-- A finished vertex counts as looked at. -/
theorem Frames.drop_child {stack : List (String × List String)}
    (hf : Frames g order (some v) stack) (hv : v ∈ order) : Frames g order none stack := by
  cases stack with
  | nil => trivial
  | cons frame outer =>
    obtain ⟨hrest, -, hlooked, houter⟩ := hf
    refine ⟨hrest, nofun, fun w hw => ?_, houter⟩
    rcases hlooked w hw with h | h | h
    · exact .inl h
    · exact .inr (.inl h)
    · exact .inr (.inl (Option.some.inj h ▸ hv))

theorem Frames.finish_child {stack : List (String × List String)}
    (hf : Frames g order (some v) stack) : Frames g (v :: order) none stack :=
  (hf.mono (List.subset_cons_self _ _)).drop_child (List.mem_cons_self ..)

/-- The first frame turns to its next successor. -/
theorem Frames.advance {rest : List String} {outer : List (String × List String)}
    (hf : Frames g order none ((v, w :: rest) :: outer)) :
    Frames g order (some w) ((v, rest) :: outer) := by
  obtain ⟨hrest, -, hlooked, houter⟩ := hf
  refine ⟨fun u hu => hrest u (List.mem_cons_of_mem _ hu), fun c hc => ?_, fun u hu => ?_, houter⟩
  · exact Option.some.inj hc ▸ hrest w (List.mem_cons_self ..)
  · rcases hlooked u hu with h | h | h
    · rcases List.mem_cons.mp h with rfl | h
      · exact .inr (.inr rfl)
      · exact .inl h
    · exact .inr (.inl h)
    · cases h

/-- The entered vertex has all its successors still to look at. -/
theorem Frames.enter {outer : List (String × List String)} (hf : Frames g order (some v) outer) :
    Frames g order none ((v, g.successors v) :: outer) :=
  ⟨fun _ hw => hw, nofun, fun _ hw => .inl hw, hf⟩

/-- From every vertex in progress there is a walk to the vertex entered last. -/
theorem Frames.walk {child : String} {stack : List (String × List String)}
    (hf : Frames g order (some child) stack) (hv : v ∈ stack.map Prod.fst) :
    TransGen g.Edge v child := by
  induction stack generalizing child with
  | nil => cases hv
  | cons frame outer ih =>
    obtain ⟨-, hchild, -, houter⟩ := hf
    have hedge : g.Edge frame.1 child := hchild child rfl
    rcases List.mem_cons.mp hv with rfl | hv
    · exact .single hedge
    · exact (ih houter hv).tail hedge

/-- What holds throughout a search. -/
structure Invariant (g : Graph) (s : Search) : Prop where
  /-- No vertex is entered twice. -/
  nodup : (s.stack.map Prod.fst ++ s.order).Nodup
  mem_vertices : ∀ v ∈ s.stack.map Prod.fst ++ s.order, v ∈ g.vertices
  /-- Every vertex is still to be tried, in progress, or finished. -/
  covered : ∀ v ∈ g.vertices, v ∈ s.roots ∨ v ∈ s.stack.map Prod.fst ++ s.order
  frames : Frames g s.order none s.stack
  finished : g.Finished s.order

theorem invariant_start (g : Graph) : Invariant g (start g) where
  nodup := List.nodup_nil
  mem_vertices v hv := by cases hv
  covered v hv := .inl hv
  frames := trivial
  finished := trivial

theorem not_mem_of_untouched (h : mark g s w = .untouched) :
    w ∉ s.stack.map Prod.fst ++ s.order := by
  obtain ⟨hs, ho, -⟩ := mark_eq_untouched_iff.mp h
  simpa [List.mem_append, not_or] using ⟨by simpa using hs, ho⟩

/-- An untouched vertex can be entered. -/
theorem Invariant.enter (h : Invariant g s) (hw : mark g s w = .untouched) :
    (w :: (s.stack.map Prod.fst ++ s.order)).Nodup ∧
      ∀ v ∈ w :: (s.stack.map Prod.fst ++ s.order), v ∈ g.vertices := by
  refine ⟨List.nodup_cons.mpr ⟨not_mem_of_untouched hw, h.nodup⟩, fun v hv => ?_⟩
  rcases List.mem_cons.mp hv with rfl | hv
  · exact (mark_eq_untouched_iff.mp hw).2.2
  · exact h.mem_vertices v hv

/-- Every step keeps the invariant. -/
theorem Invariant.step (hg : g.WellFormed) (h : Invariant g s) (hs : Step g s s') :
    Invariant g s' := by
  cases hs with
  | @enter root roots order hroot =>
    obtain ⟨hnodup, hmem⟩ := h.enter hroot
    refine ⟨hnodup, hmem, fun v hv => ?_, .enter trivial, h.finished⟩
    -- the root is the only vertex that is no longer to be tried, and it is in progress now
    rcases h.covered v hv with hr | ht
    · rcases List.mem_cons.mp hr with rfl | hr
      · exact .inr (List.mem_cons_self ..)
      · exact .inl hr
    · exact .inr (List.mem_cons_of_mem _ ht)
  | @skip root roots order hroot =>
    refine ⟨h.nodup, h.mem_vertices, fun v hv => ?_, h.frames, h.finished⟩
    -- with no frame open, a touched root has been finished
    rcases h.covered v hv with hr | ht
    · rcases List.mem_cons.mp hr with rfl | hr
      · exact .inr (mem_order_of_mark hroot (fun e => by cases mark_eq_inProgress_iff.mp e) hv)
      · exact .inl hr
    · exact .inr ht
  | @close roots v stack order =>
    obtain ⟨-, -, hlooked, houter⟩ := h.frames
    have hperm : (stack.map Prod.fst ++ v :: order).Perm (v :: (stack.map Prod.fst ++ order)) :=
      List.perm_middle
    refine ⟨hperm.nodup_iff.mpr h.nodup, fun u hu => h.mem_vertices u (hperm.mem_iff.mp hu),
      fun u hu => (h.covered u hu).imp_right hperm.mem_iff.mpr, houter.finish_child, ?_, h.finished⟩
    -- the frame is through its successors, so all of them are in the order
    intro w hw
    rcases hlooked w hw with hw | hw | hw
    · cases hw
    · exact hw
    · cases hw
  | @descend roots v next rest stack order hnext =>
    obtain ⟨hnodup, hmem⟩ := h.enter hnext
    exact ⟨hnodup, hmem, fun u hu => (h.covered u hu).imp_right (List.mem_cons_of_mem _),
      h.frames.advance.enter, h.finished⟩
  | @pass roots v next rest stack order hnext =>
    have hedge : g.Edge v next := h.frames.1 next (List.mem_cons_self ..)
    have hdone : next ∈ order :=
      mem_order_of_mark (by rw [hnext]; nofun) (by rw [hnext]; nofun) (hg.target_mem hedge)
    exact ⟨h.nodup, h.mem_vertices, h.covered, h.frames.advance.drop_child hdone, h.finished⟩

theorem run_of_step {s' : Search} (h : Search.step g s = .running s') : run g s = run g s' := by
  rw [run]
  split <;> simp_all

theorem run_of_ordered {order : List String} (h : Search.step g s = .ordered order) :
    run g s = .ok order := by
  rw [run]
  split <;> simp_all

/-- A search ends in a state that the invariant holds of, with an order or at a cycle. -/
theorem Invariant.run (hg : g.WellFormed) (h : Invariant g s) :
    (∃ s' order, Invariant g s' ∧ Search.step g s' = .ordered order ∧ run g s = .ok order) ∨
      ∃ s' v, Invariant g s' ∧ Search.step g s' = .cyclic v ∧
        run g s = .error (.cyclicGraph v) := by
  -- the induction is that of the run, which ends since every step leaves less to do
  fun_induction Search.run g s with
  | case1 s s' hs _ ih => exact ih (h.step hg (.of_step hs))
  | case2 s order hs => exact .inl ⟨s, order, h, hs, rfl⟩
  | case3 s v hs => exact .inr ⟨s, v, h, hs, rfl⟩

/-- A vertex that is met while it is in progress lies on a cycle. -/
theorem Invariant.cycle (h : Invariant g s) (hs : Search.step g s = .cyclic w) :
    TransGen g.Edge w w := by
  obtain ⟨v, rest, stack, hstack, hw⟩ := of_step_eq_cyclic hs
  have hframes := h.frames
  rw [hstack] at hframes hw
  obtain ⟨hrest, -, -, houter⟩ := hframes
  have hedge : g.Edge v w := hrest w (List.mem_cons_self ..)
  rcases List.mem_cons.mp hw with rfl | hw
  · exact .single hedge
  · exact (houter.walk hw).tail hedge

end Search

namespace Graph

variable {g : Graph} {a b : String} {order : List String} {f : Fault}

theorem invariant_of_order_eq_ok (hg : g.WellFormed) (h : g.order = .ok order) :
    Search.Invariant g ⟨[], [], order⟩ := by
  rcases (Search.invariant_start g).run hg with ⟨s, o, hs, hstep, hrun⟩ | ⟨s, v, hs, hstep, hrun⟩
  · rw [Graph.order, hrun] at h
    cases h
    exact Search.of_step_eq_ordered hstep ▸ hs
  · rw [Graph.order, hrun] at h
    cases h

/-- An order lists every vertex exactly once. -/
theorem perm_vertices_of_order_eq_ok (hg : g.WellFormed) (h : g.order = .ok order) :
    order.Perm g.vertices := by
  have inv := invariant_of_order_eq_ok hg h
  refine (List.perm_ext_iff_of_nodup inv.nodup hg.nodup).mpr fun v => ⟨inv.mem_vertices v, ?_⟩
  intro hv
  exact (inv.covered v hv).resolve_left (by simp)

/-- The origin of every edge comes before its target. -/
theorem idxOf_lt_of_order_eq_ok (hg : g.WellFormed) (h : g.order = .ok order) (hab : g.Edge a b) :
    order.idxOf a < order.idxOf b := by
  have inv := invariant_of_order_eq_ok hg h
  exact inv.finished.idxOf_lt inv.nodup
    ((perm_vertices_of_order_eq_ok hg h).mem_iff.mpr hab.origin_mem) hab

theorem acyclic_of_order_eq_ok (hg : g.WellFormed) (h : g.order = .ok order) :
    ¬ TransGen g.Edge a a := by
  intro hcycle
  have inv := invariant_of_order_eq_ok hg h
  obtain ⟨_, hedge, -⟩ := TransGen.head'_iff.mp hcycle
  have ha : a ∈ order := (perm_vertices_of_order_eq_ok hg h).mem_iff.mpr hedge.origin_mem
  exact Nat.lt_irrefl _ (inv.finished.idxOf_lt_of_transGen inv.nodup ha hcycle).2

/-- The vertex that an error names lies on a cycle. -/
theorem cycle_of_order_eq_error (hg : g.WellFormed) (h : g.order = .error f) :
    ∃ v, f = .cyclicGraph v ∧ TransGen g.Edge v v := by
  rcases (Search.invariant_start g).run hg with ⟨s, o, hs, hstep, hrun⟩ | ⟨s, v, hs, hstep, hrun⟩
  · rw [Graph.order, hrun] at h
    cases h
  · rw [Graph.order, hrun] at h
    cases h
    exact ⟨v, rfl, hs.cycle hstep⟩

end Graph

end StreamMesh
