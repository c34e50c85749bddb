import StreamMesh.Proofs.Graph.Calls
import StreamMesh.Proofs.Graph.Recursion

/-!
# How long a search takes

A round of a search tries a root, looks at the next successor of the innermost vertex, or closes
that vertex. What the rounds do is written down: vertices are pushed on the stack and popped from
it, and edges are taken from the lists of successors. The record agrees with the state: the vertices
pushed are those in progress and those finished, the vertices popped are the finished ones, and of
the successors of a vertex in progress some have been taken and the rest is left.

So however many rounds there are, and whatever cycles the graph has, no vertex is pushed or popped
twice, and no edge is taken twice. Two rounds for each vertex and one for each edge are enough, with
one more in which the order is given out.

## Main definitions

* `Search.Deed`, `Search.deeds` — what a round does
* `Search.history` — what a number of rounds does
* `Search.outcomeIn` — where a search stands after a number of rounds, or how it ended before
* `Search.Account` — a record agrees with a state
* `Search.Bounded` — the bounds on a record

## Main results

* `Search.Account.step`, `Search.Account.rounds` — one round, and any number of them, keep record
  and state in agreement
* `Search.bounded_history` — every record keeps to the bounds
* `Search.verdict?_outcomeIn` — more rounds than the weight of a search end it
* `Graph.built_search_bounded` — the cost of a search of a graph that calls make
-/

namespace StreamMesh

/-- How a search has ended. -/
def Outcome.verdict? : Outcome → Option (Except Fault (List String))
  | .running _ => none
  | .ordered order => some (.ok order)
  | .cyclic v => some (.error (.cyclicGraph v))

namespace Search

/-- What is done to the stack, or to a list of successors on it. -/
inductive Deed where
  | push (v : String)
  | pop (v : String)
  | take (origin target : String)
  deriving DecidableEq, Repr

/-- The vertices that are pushed. -/
def pushed (ds : List Deed) : List String :=
  ds.filterMap fun
    | .push v => some v
    | _ => none

/-- The vertices that are popped. -/
def popped (ds : List Deed) : List String :=
  ds.filterMap fun
    | .pop v => some v
    | _ => none

/-- The edges that are taken. -/
def taken (ds : List Deed) : List (String × String) :=
  ds.filterMap fun
    | .take v w => some (v, w)
    | _ => none

/-- What the next round does. -/
def deeds (g : Graph) (s : Search) : List Deed :=
  match s with
  | ⟨[], [], _⟩ => []
  | ⟨root :: _, [], _⟩ => if mark g s root = .untouched then [.push root] else []
  | ⟨_, (v, []) :: _, _⟩ => [.pop v]
  | ⟨_, (v, next :: _) :: _, _⟩ =>
    .take v next :: if mark g s next = .untouched then [.push next] else []

/-- What a number of rounds does, or fewer if the search ends before. -/
def history (g : Graph) : Nat → Search → List Deed
  | 0, _ => []
  | n + 1, s => deeds g s ++ match step g s with
    | .running s' => history g n s'
    | _ => []

/-- Where a search stands after a number of rounds, or how it ended before. -/
def outcomeIn (g : Graph) : Nat → Search → Outcome
  | 0, s => .running s
  | n + 1, s => match step g s with
    | .running s' => outcomeIn g n s'
    | ended => ended

/-- The record of what was done agrees with the state. -/
structure Account (g : Graph) (s : Search) (ds : List Deed) : Prop where
  pushed : (pushed ds).Perm (s.stack.map Prod.fst ++ s.order)
  popped : popped ds = s.order.reverse
  /-- Of a vertex in progress some successors have been taken, and the others are left. -/
  opened : ∀ frame ∈ s.stack, Graph.targets (taken ds) frame.1 ++ frame.2 = g.successors frame.1
  finished : ∀ v ∈ s.order, Graph.targets (taken ds) v = g.successors v
  untouched : ∀ v ∉ s.stack.map Prod.fst ++ s.order, Graph.targets (taken ds) v = []

/-- No vertex is pushed or popped twice, and from each vertex its first successors are taken. -/
structure Bounded (g : Graph) (ds : List Deed) : Prop where
  nodup_pushed : (pushed ds).Nodup
  pushed_subset : pushed ds ⊆ g.vertices
  nodup_popped : (popped ds).Nodup
  popped_subset : popped ds ⊆ g.vertices
  taken : ∀ v, Graph.targets (taken ds) v <+: g.successors v

variable {g : Graph} {s s' : Search} {ds : List Deed} {roots roots' order rest : List String}
  {stack : List (String × List String)} {v w : String}

section Record

@[simp] theorem pushed_append (ds ds' : List Deed) :
    pushed (ds ++ ds') = pushed ds ++ pushed ds' := List.filterMap_append

@[simp] theorem popped_append (ds ds' : List Deed) :
    popped (ds ++ ds') = popped ds ++ popped ds' := List.filterMap_append

@[simp] theorem taken_append (ds ds' : List Deed) :
    taken (ds ++ ds') = taken ds ++ taken ds' := List.filterMap_append

@[simp] theorem pushed_push (v : String) : pushed [.push v] = [v] := rfl

@[simp] theorem pushed_pop (v : String) : pushed [.pop v] = [] := rfl

@[simp] theorem pushed_take (v w : String) : pushed [.take v w] = [] := rfl

@[simp] theorem popped_push (v : String) : popped [.push v] = [] := rfl

@[simp] theorem popped_pop (v : String) : popped [.pop v] = [v] := rfl

@[simp] theorem popped_take (v w : String) : popped [.take v w] = [] := rfl

@[simp] theorem taken_push (v : String) : taken [.push v] = [] := rfl

@[simp] theorem taken_pop (v : String) : taken [.pop v] = [] := rfl

@[simp] theorem taken_take (v w : String) : taken [.take v w] = [(v, w)] := rfl

end Record

section Account

theorem account_start (g : Graph) : Account g (start g) [] where
  pushed := .nil
  popped := rfl
  opened := nofun
  finished := nofun
  untouched _ _ := rfl

/-- The roots that are left do not matter to the record. -/
theorem Account.change_roots (h : Account g ⟨roots, stack, order⟩ ds) :
    Account g ⟨roots', stack, order⟩ ds :=
  ⟨h.pushed, h.popped, h.opened, h.finished, h.untouched⟩

/-- A vertex is pushed with all its successors left, since none has been taken. -/
theorem Account.push (h : Account g ⟨roots, stack, order⟩ ds)
    (hw : w ∉ stack.map Prod.fst ++ order) :
    Account g ⟨roots', (w, g.successors w) :: stack, order⟩ (ds ++ [.push w]) where
  pushed := by
    rw [pushed_append, pushed_push]
    exact (List.perm_append_singleton w _).trans (h.pushed.cons w)
  popped := by
    rw [popped_append, popped_push, List.append_nil]
    exact h.popped
  opened := by
    rw [taken_append, taken_push, List.append_nil]
    intro frame hframe
    rcases List.mem_cons.mp hframe with rfl | hframe
    · rw [h.untouched w hw, List.nil_append]
    · exact h.opened frame hframe
  finished := by
    rw [taken_append, taken_push, List.append_nil]
    exact h.finished
  untouched := by
    rw [taken_append, taken_push, List.append_nil]
    intro v hv
    exact h.untouched v fun hmem => hv (List.mem_cons_of_mem w hmem)

/-- The innermost vertex is popped once all its successors have been taken. -/
theorem Account.pop (h : Account g ⟨roots, (v, []) :: stack, order⟩ ds) :
    Account g ⟨roots, stack, v :: order⟩ (ds ++ [.pop v]) where
  pushed := by
    rw [pushed_append, pushed_pop, List.append_nil]
    exact h.pushed.trans List.perm_middle.symm
  popped := by
    rw [popped_append, popped_pop, h.popped]
    exact List.reverse_cons.symm
  opened := by
    rw [taken_append, taken_pop, List.append_nil]
    intro frame hframe
    exact h.opened frame (List.mem_cons_of_mem _ hframe)
  finished := by
    rw [taken_append, taken_pop, List.append_nil]
    intro u hu
    rcases List.mem_cons.mp hu with rfl | hu
    · rw [← h.opened _ (List.mem_cons_self ..), List.append_nil]
    · exact h.finished u hu
  untouched := by
    rw [taken_append, taken_pop, List.append_nil]
    intro u hu
    exact h.untouched u fun hmem => hu (List.perm_middle.mem_iff.mpr hmem)

/-- An edge is taken from the innermost vertex, which is in progress once and not finished. -/
theorem Account.take (h : Account g ⟨roots, (v, w :: rest) :: stack, order⟩ ds)
    (hnodup : (v :: (stack.map Prod.fst ++ order)).Nodup) :
    Account g ⟨roots, (v, rest) :: stack, order⟩ (ds ++ [.take v w]) := by
  obtain ⟨hv, -⟩ := List.nodup_cons.mp hnodup
  -- only the targets that are taken from the innermost vertex change
  have hself : Graph.targets (taken (ds ++ [.take v w])) v = Graph.targets (taken ds) v ++ [w] := by
    rw [taken_append, taken_take, Graph.targets_append, Graph.targets_singleton, if_pos rfl]
  have hother : ∀ u, u ≠ v →
      Graph.targets (taken (ds ++ [.take v w])) u = Graph.targets (taken ds) u := by
    intro u hu
    rw [taken_append, taken_take, Graph.targets_append, Graph.targets_singleton, if_neg hu.symm,
      List.append_nil]
  refine ⟨?_, ?_, fun frame hframe => ?_, fun u hu => ?_, fun u hu => ?_⟩
  · rw [pushed_append, pushed_take, List.append_nil]
    exact h.pushed
  · rw [popped_append, popped_take, List.append_nil]
    exact h.popped
  · rcases List.mem_cons.mp hframe with rfl | hframe
    · rw [hself, List.append_assoc, List.singleton_append]
      exact h.opened _ (List.mem_cons_self ..)
    · have hne : frame.1 ≠ v := fun e =>
        hv (e ▸ List.mem_append_left _ (List.mem_map_of_mem hframe))
      rw [hother _ hne]
      exact h.opened frame (List.mem_cons_of_mem _ hframe)
  · have hne : u ≠ v := fun e => hv (e ▸ List.mem_append_right _ hu)
    rw [hother u hne]
    exact h.finished u hu
  · have hne : u ≠ v := fun e => hu (e ▸ List.mem_cons_self ..)
    rw [hother u hne]
    exact h.untouched u hu

/-- A round keeps record and state in agreement. -/
theorem Account.step (h : Account g s ds) (hinv : Invariant g s)
    (hs : Search.step g s = .running s') : Account g s' (ds ++ deeds g s) := by
  cases Step.of_step hs with
  | @enter root roots order hroot =>
    have hdeeds : deeds g ⟨root :: roots, [], order⟩ = [.push root] := if_pos hroot
    rw [hdeeds]
    exact h.push (not_mem_of_untouched hroot)
  | @skip root roots order hroot =>
    have hdeeds : deeds g ⟨root :: roots, [], order⟩ = [] := if_neg hroot
    rw [hdeeds, List.append_nil]
    exact h.change_roots
  | @close roots v stack order =>
    have hdeeds : deeds g ⟨roots, (v, []) :: stack, order⟩ = [.pop v] := by cases roots <;> rfl
    rw [hdeeds]
    exact h.pop
  | @descend roots v next rest stack order hnext =>
    have hdeeds : deeds g ⟨roots, (v, next :: rest) :: stack, order⟩ =
        [.take v next] ++ [.push next] := by
      cases roots <;> simp [deeds, hnext]
    rw [hdeeds, ← List.append_assoc]
    exact (h.take hinv.nodup).push (not_mem_of_untouched hnext)
  | @pass roots v next rest stack order hnext =>
    have hdeeds : deeds g ⟨roots, (v, next :: rest) :: stack, order⟩ = [.take v next] := by
      cases roots <;> simp [deeds, hnext]
    rw [hdeeds]
    exact h.take hinv.nodup

end Account

section Bounds

/-- A record that agrees with a state keeps to the bounds. -/
theorem Account.bounded (h : Account g s ds) (hnodup : (s.stack.map Prod.fst ++ s.order).Nodup)
    (hmem : ∀ v ∈ s.stack.map Prod.fst ++ s.order, v ∈ g.vertices) : Bounded g ds where
  nodup_pushed := h.pushed.nodup_iff.mpr hnodup
  pushed_subset v hv := hmem v (h.pushed.mem_iff.mp hv)
  nodup_popped := by
    rw [h.popped, List.nodup_reverse]
    exact (List.nodup_append.mp hnodup).2.1
  popped_subset v hv := by
    rw [h.popped, List.mem_reverse] at hv
    exact hmem v (List.mem_append_right _ hv)
  taken v := by
    -- a vertex is in progress, finished, or untouched
    by_cases hv : v ∈ s.stack.map Prod.fst ++ s.order
    · rcases List.mem_append.mp hv with hopen | hdone
      · obtain ⟨frame, hframe, rfl⟩ := List.mem_map.mp hopen
        exact ⟨frame.2, h.opened frame hframe⟩
      · refine ⟨[], ?_⟩
        rw [List.append_nil, h.finished v hdone]
    · rw [h.untouched v hv]
      exact List.nil_prefix

/-- The round in which a cycle is found takes one more edge. -/
theorem Account.bounded_cyclic (h : Account g s ds) (hinv : Invariant g s)
    (hs : Search.step g s = .cyclic w) : Bounded g (ds ++ deeds g s) := by
  obtain ⟨v, rest, stack, hstack, hw⟩ := of_step_eq_cyclic hs
  obtain ⟨roots, _, order⟩ := s
  cases hstack
  have hmark : mark g ⟨roots, (v, w :: rest) :: stack, order⟩ w ≠ .untouched := by
    rw [mark_eq_inProgress_iff.mpr hw]
    nofun
  have hdeeds : deeds g ⟨roots, (v, w :: rest) :: stack, order⟩ = [.take v w] := by
    cases roots <;> simp [deeds, hmark]
  rw [hdeeds]
  exact (h.take hinv.nodup).bounded hinv.nodup hinv.mem_vertices

theorem history_of_running (hs : Search.step g s = .running s') (n : Nat) :
    history g (n + 1) s = deeds g s ++ history g n s' := by
  rw [history, hs]

theorem history_of_ended (hs : ∀ s', Search.step g s ≠ .running s') (n : Nat) :
    history g (n + 1) s = deeds g s := by
  rw [history]
  split
  · exact absurd ‹_› (hs _)
  · exact List.append_nil _

theorem outcomeIn_of_running (hs : Search.step g s = .running s') (n : Nat) :
    outcomeIn g (n + 1) s = outcomeIn g n s' := by
  rw [outcomeIn, hs]

theorem outcomeIn_of_ended (hs : ∀ s', Search.step g s ≠ .running s') (n : Nat) :
    outcomeIn g (n + 1) s = Search.step g s := by
  rw [outcomeIn]
  split
  · exact absurd ‹_› (hs _)
  · rfl

/-- After any number of rounds there is a state that the record agrees with: the search stands
there, or it has ended in the round that begins there. -/
theorem Account.rounds (hg : g.WellFormed) (h : Account g s ds) (hinv : Invariant g s) (n : Nat) :
    ∃ s' ds', Invariant g s' ∧ Account g s' ds' ∧
      (outcomeIn g n s = .running s' ∧ ds ++ history g n s = ds' ∨
        (∀ s'', Search.step g s' ≠ .running s'') ∧ outcomeIn g n s = Search.step g s' ∧
          ds ++ history g n s = ds' ++ deeds g s') := by
  induction n generalizing s ds with
  | zero => exact ⟨s, ds, hinv, h, .inl ⟨rfl, List.append_nil ds⟩⟩
  | succ n ih =>
    cases hs : Search.step g s with
    | running s₁ =>
      rw [outcomeIn_of_running hs, history_of_running hs, ← List.append_assoc]
      exact ih (h.step hinv hs) (hinv.step hg (.of_step hs))
    | ordered | cyclic =>
      have hended : ∀ s', Search.step g s ≠ .running s' := by
        rw [hs]
        nofun
      rw [outcomeIn_of_ended hended, history_of_ended hended]
      exact ⟨s, ds, hinv, h, .inr ⟨hended, rfl, rfl⟩⟩

theorem deeds_of_ordered (hs : Search.step g s = .ordered order) : deeds g s = [] := by
  rw [of_step_eq_ordered hs]
  rfl

/-- However many rounds there are, what they do keeps to the bounds. -/
theorem bounded_history (hg : g.WellFormed) (n : Nat) : Bounded g (history g n (start g)) := by
  obtain ⟨s, ds, hinv, h, ⟨-, hds⟩ | ⟨hended, -, hds⟩⟩ :=
    (account_start g).rounds hg (invariant_start g) n
  · rw [List.nil_append] at hds
    rw [hds]
    exact h.bounded hinv.nodup hinv.mem_vertices
  · rw [List.nil_append] at hds
    rw [hds]
    cases hs : Search.step g s with
    | running s' => exact absurd hs (hended s')
    | ordered order =>
      rw [deeds_of_ordered hs, List.append_nil]
      exact h.bounded hinv.nodup hinv.mem_vertices
    | cyclic w => exact h.bounded_cyclic hinv hs

/-- While a search goes on, the record agrees with its state. -/
theorem account_of_running (hg : g.WellFormed) {n : Nat}
    (hn : outcomeIn g n (start g) = .running s) : Account g s (history g n (start g)) := by
  obtain ⟨s', ds, -, h, ⟨hs, hds⟩ | ⟨hended, hs, -⟩⟩ :=
    (account_start g).rounds hg (invariant_start g) n
  · rw [hn] at hs
    cases hs
    rw [List.nil_append] at hds
    exact hds ▸ h
  · exact absurd (hs.symm.trans hn) (hended s)

/-- When a search has given out an order, the record agrees with a state in which all is
finished. -/
theorem account_of_ordered (hg : g.WellFormed) {n : Nat}
    (hn : outcomeIn g n (start g) = .ordered order) :
    Account g ⟨[], [], order⟩ (history g n (start g)) := by
  obtain ⟨s, ds, -, h, ⟨hs, -⟩ | ⟨-, hs, hds⟩⟩ :=
    (account_start g).rounds hg (invariant_start g) n
  · rw [hn] at hs
    cases hs
  · have hstep : Search.step g s = .ordered order := hs.symm.trans hn
    rw [List.nil_append, deeds_of_ordered hstep, List.append_nil] at hds
    rw [hds, ← of_step_eq_ordered hstep]
    exact h

end Bounds

section Rounds

/-- More rounds than the weight of a search end it, since each of them lowers the weight. -/
theorem verdict?_outcomeIn {n : Nat} (hn : weight g s < n) :
    (outcomeIn g n s).verdict? = some (run g s) := by
  induction n generalizing s with
  | zero => exact absurd hn (Nat.not_lt_zero _)
  | succ n ih =>
    rw [outcomeIn]
    cases hs : Search.step g s with
    | running s' =>
      have hlt : weight g s' < weight g s := weight_lt_of_step hs
      rw [run_of_step hs]
      exact ih (by omega)
    | ordered order =>
      rw [run_of_ordered hs]
      rfl
    | cyclic w =>
      rw [run_of_cyclic hs]
      rfl

/-- Before the first round every vertex carries its share. -/
theorem untouchedWeight_start {vs : List String} (hvs : ∀ v ∈ vs, v ∈ g.vertices) :
    untouchedWeight g (start g) vs =
      vs.length + (vs.flatMap fun v => (g.successors v).map fun w => (v, w)).length := by
  induction vs with
  | nil => rfl
  | cons v rest ih =>
    obtain ⟨hv, hrest⟩ := List.forall_mem_cons.mp hvs
    have hmark : mark g (start g) v = .untouched := mark_eq_untouched_iff.mpr ⟨nofun, nofun, hv⟩
    have hcons : untouchedWeight g (start g) (v :: rest) =
        share g v + untouchedWeight g (start g) rest := by
      simp [untouchedWeight, hmark]
    rw [hcons, ih hrest, share, List.flatMap_cons, List.length_append, List.length_map,
      List.length_cons]
    omega

theorem weight_start (hg : g.WellFormed) :
    weight g (start g) = 2 * g.vertices.length + g.edges.length := by
  have hweight : weight g (start g) =
      untouchedWeight g (start g) g.vertices + 0 + g.vertices.length := rfl
  rw [hweight, untouchedWeight_start fun _ hv => hv, Graph.edges_eq hg]
  omega

end Rounds

end Search

namespace Graph

open Search (start outcomeIn pushed popped taken)

/-- What the first rounds of a search of a graph do. -/
def record (g : Graph) (n : Nat) : List Search.Deed := Search.history g n (start g)

/-- How many rounds a search of a graph can take: two for each vertex, one for each edge, and the
one in which the order is given out. -/
def roundLimit (g : Graph) : Nat := 2 * g.vertices.length + g.edges.length + 1

variable {g : Graph} {order : List String}

/-- No vertex is pushed or popped twice, and no edge is taken twice, so there are no more of either
than in the graph. -/
theorem length_record_le (hg : g.WellFormed) (n : Nat) :
    (pushed (g.record n)).length ≤ g.vertices.length ∧
      (popped (g.record n)).length ≤ g.vertices.length ∧
      (taken (g.record n)).Subperm g.edges := by
  have h : Search.Bounded g (g.record n) := Search.bounded_history hg n
  refine ⟨?_, ?_, ?_⟩
  · exact (List.subperm_of_subset h.nodup_pushed h.pushed_subset).length_le
  · exact (List.subperm_of_subset h.nodup_popped h.popped_subset).length_le
  · apply subperm_of_targets
    intro v
    rw [targets_edges hg]
    exact h.taken v

theorem verdict?_roundLimit (hg : g.WellFormed) :
    (outcomeIn g g.roundLimit (start g)).verdict? = some g.order := by
  apply Search.verdict?_outcomeIn
  rw [Search.weight_start hg]
  exact Nat.lt_succ_self _

/-- A search that gives out an order has met the bounds. -/
theorem record_of_order_eq_ok (hg : g.WellFormed) (h : g.order = .ok order) :
    (pushed (g.record g.roundLimit)).Perm g.vertices ∧
      popped (g.record g.roundLimit) = order.reverse ∧
      (taken (g.record g.roundLimit)).Perm g.edges := by
  have hverdict := verdict?_roundLimit hg
  rw [h] at hverdict
  cases hn : outcomeIn g g.roundLimit (start g) with
  | running s =>
    rw [hn] at hverdict
    cases hverdict
  | cyclic v =>
    rw [hn] at hverdict
    cases hverdict
  | ordered order' =>
    rw [hn] at hverdict
    cases hverdict
    have account : Search.Account g ⟨[], [], order⟩ (g.record g.roundLimit) :=
      Search.account_of_ordered hg hn
    have hperm := perm_vertices_of_order_eq_ok hg h
    refine ⟨account.pushed.trans hperm, account.popped, ?_⟩
    apply perm_of_targets
    intro v
    rw [targets_edges hg]
    -- vertices outside the order have no successors
    by_cases hv : v ∈ order
    · exact account.finished v hv
    · rw [account.untouched v hv]
      exact (successors_eq_nil_of_not_mem fun hmem => hv (hperm.mem_iff.mpr hmem)).symm

/-- A search of a graph that was made by calls ends within its limit of rounds, whatever cycles the
graph has. However many rounds there are, no vertex is pushed or popped twice, and from each vertex
its first successors are taken, in their order; so each edge is taken once at most. While the search
goes on, what it did agrees with where it stands; and a search that gives out an order has pushed
and popped every vertex and taken every edge. -/
theorem built_search_bounded (calls : List Call) :
    (∀ n, Search.Bounded (built calls) ((built calls).record n) ∧
      (pushed ((built calls).record n)).length ≤ (built calls).vertices.length ∧
      (popped ((built calls).record n)).length ≤ (built calls).vertices.length ∧
      (taken ((built calls).record n)).Subperm (built calls).edges ∧
      (taken ((built calls).record n)).length ≤ (built calls).edges.length) ∧
    (∀ n s, outcomeIn (built calls) n (start (built calls)) = .running s →
      Search.Account (built calls) s ((built calls).record n)) ∧
    (outcomeIn (built calls) (built calls).roundLimit (start (built calls))).verdict? =
      some (built calls).order ∧
    ∀ order, (built calls).order = .ok order →
      (pushed ((built calls).record (built calls).roundLimit)).Perm (built calls).vertices ∧
      popped ((built calls).record (built calls).roundLimit) = order.reverse ∧
      (taken ((built calls).record (built calls).roundLimit)).Perm (built calls).edges := by
  have hg := wellFormed_built calls
  refine ⟨fun n => ?_, fun n s hn => Search.account_of_running hg hn, verdict?_roundLimit hg,
    fun order h => record_of_order_eq_ok hg h⟩
  obtain ⟨hpushed, hpopped, htaken⟩ := length_record_le hg n
  exact ⟨Search.bounded_history hg n, hpushed, hpopped, htaken, htaken.length_le⟩

/-- On a cycle that leads back to the first vertex, both are pushed, none is popped, and the edge
that closes the cycle is the last one taken. -/
example : (built [.addVertex "clean", .addVertex "count", .addEdge "clean" "count",
      .addEdge "count" "clean"]).record 9 =
    [.push "clean", .take "clean" "count", .push "count", .take "count" "clean"] := by
  rfl

end Graph

end StreamMesh
