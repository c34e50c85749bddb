import StreamMesh.Proofs.Topology.Wiring

/-!
# What registering leaves and what it adds

Registering connections adds inputs to nodes. All else stays as it was declared: the name of the
topology, the place of every node, and what a node says of itself apart from its inputs. The inputs
of a node are its feeders, each of them once, in the order of their declaration.

## Main definitions

* `Node.inputs` — the nodes that a node names as its inputs
* `Node.unfed`, `Topology.unfed` — a node or a topology without inputs
* `Topology.Records` — one node is an input of another

## Main results

* `Topology.unfed_registerConnections` — registering changes nothing but inputs
* `Topology.inputs_of_registerConnections` — the inputs of a node are its feeders
-/

namespace StreamMesh

namespace Node

/-- The nodes that a node names as its inputs. -/
def inputs : Node → List String
  | source .. => []
  | processor _ _ input _ => input.toList
  | sink _ inputs => inputs

/-- A node without its inputs. -/
def unfed : Node → Node
  | source name target => source name target
  | processor name target _ env => processor name target none env
  | sink name _ => sink name []

@[simp] theorem name_unfed (n : Node) : n.unfed.name = n.name := by cases n <;> rfl

@[simp] theorem kind_unfed (n : Node) : n.unfed.kind = n.kind := by cases n <;> rfl

@[simp] theorem connectsTo?_unfed (n : Node) : n.unfed.connectsTo? = n.connectsTo? := by
  cases n <;> rfl

@[simp] theorem inputs_unfed (n : Node) : n.unfed.inputs = [] := by cases n <;> rfl

end Node

/-- What a step declares has no inputs yet. -/
theorem Step.Declares.unfed_eq {s : Step} {n : Node} (h : s.Declares n) : n.unfed = n := by
  cases h <;> rfl

namespace Topology

variable {t t' : Topology} {n m m' : Node} {ns : List Node} {a b dest source : String}
  {sources : List String}

/-- A topology without the inputs of its nodes. -/
def unfed (t : Topology) : Topology :=
  { t with nodes := ⟨t.nodes.entries.map fun e => (e.1, e.2.unfed)⟩ }

/-- The node of one name is an input of the node of another. -/
def Records (t : Topology) (a b : String) : Prop := ∃ n, t.find? b = some n ∧ a ∈ n.inputs

section Unfed

theorem find?_unfed (t : Topology) (a : String) : t.unfed.find? a = (t.find? a).map Node.unfed :=
  Assoc.lookup_map Node.unfed t.nodes.entries

theorem kindOf?_unfed (t : Topology) (a : String) : t.unfed.kindOf? a = t.kindOf? a := by
  rw [kindOf?, find?_unfed, Option.map_map, kindOf?]
  congr 1
  funext n
  exact n.kind_unfed

theorem names_unfed (t : Topology) : t.unfed.names = t.names := by
  simp [unfed, names, Assoc.keys, Function.comp_def]

/-- The topology of nodes without inputs is one without inputs. -/
theorem unfed_ofNodes {name : RawText} (h : ∀ n ∈ ns, n.unfed = n) :
    (ofNodes name ns).unfed = ofNodes name ns := by
  have hentries : (ns.map fun n => (n.name, n)).map (fun e => (e.1, e.2.unfed)) =
      ns.map fun n => (n.name, n) := by
    rw [List.map_map]
    apply List.map_congr_left
    intro n hn
    simp only [Function.comp_apply, h n hn]
  rw [unfed, ofNodes, hentries]

end Unfed

section Node

/-- One registration keeps all of a node but its inputs. -/
theorem unfed_of_fedBy (h : Node.fedBy source dest m = .ok m') : m'.unfed = m.unfed := by
  unfold Node.fedBy at h
  split at h
  · split at h
    · split at h <;> cases h
      rfl
    · cases h
      rfl
  · cases h
    rfl
  · cases h

/-- A new input is added after the others. -/
theorem inputs_of_fedBy (h : Node.fedBy source dest m = .ok m') (hnew : source ∉ m.inputs) :
    m'.inputs = m.inputs ++ [source] := by
  unfold Node.fedBy at h
  split at h
  · split at h
    · -- a processor that has an input takes the same again, which is not new
      split at h
      · rename_i hknown
        exact absurd (by simp [Node.inputs, hknown]) hnew
      · cases h
    · cases h
      rfl
  · rename_i name inputs
    have hsource : inputs.contains source = false := by simpa [Node.inputs] using hnew
    rw [hsource] at h
    cases h
    rfl
  · cases h

/-- Registrations that are all new are added in their order. -/
theorem inputs_of_fedByAll (h : fedByAll dest sources m = .ok m')
    (hnew : (m.inputs ++ sources).Nodup) : m'.inputs = m.inputs ++ sources := by
  induction sources generalizing m with
  | nil =>
    cases h
    rw [List.append_nil]
  | cons source rest ih =>
    obtain ⟨m₁, hm₁, h⟩ := bind_eq_ok_iff.mp h
    have hsource : source ∉ m.inputs := fun hmem =>
      List.disjoint_of_nodup_append hnew hmem (List.mem_cons_self ..)
    have hinputs : m₁.inputs = m.inputs ++ [source] := inputs_of_fedBy hm₁ hsource
    have hrest : (m₁.inputs ++ rest).Nodup := by
      rw [hinputs]
      simpa using hnew
    rw [ih h hrest, hinputs, List.append_assoc, List.singleton_append]

end Node

section Registering

theorem unfed_insert (hm : t.find? dest = some m) (h : m'.unfed = m.unfed) :
    unfed { t with nodes := t.nodes.insert dest m' } = t.unfed := by
  have hentries : (Assoc.put dest m' t.nodes.entries).map (fun e => (e.1, e.2.unfed)) =
      t.nodes.entries.map fun e => (e.1, e.2.unfed) :=
    Assoc.map_put_of_lookup hm (by rw [h])
  simp only [unfed, Assoc.entries_insert, hentries]

/-- Registering connections changes nothing but the inputs of nodes. -/
theorem unfed_registerConnections (h : t.registerConnections ns = (t', none)) :
    t'.unfed = t.unfed := by
  induction ns generalizing t with
  | nil =>
    cases h
    rfl
  | cons n rest ih =>
    cases hc : n.connectsTo? with
    | none => exact ih (registerConnections_cons_of_no_connection hc ▸ h)
    | some dest =>
      obtain ⟨m, m', hm, hfed, h⟩ := (registerConnections_cons_eq_none_iff hc).mp h
      exact (ih h).trans (unfed_insert hm (unfed_of_fedBy hfed))

theorem nodup_feeders (hns : (ns.map Node.name).Nodup) (dest : String) :
    (feeders ns dest).Nodup :=
  hns.sublist (List.filter_sublist.map Node.name)

/-- After registering, the inputs of a node are its feeders in the order of their declaration. -/
theorem inputs_of_registerConnections (h : t.registerConnections ns = (t', none))
    (hns : (ns.map Node.name).Nodup) (ht : ∀ {a n}, t.find? a = some n → n.inputs = [])
    (hm : t'.find? a = some m) : m.inputs = feeders ns a := by
  obtain ⟨n, hn, hfed⟩ := exists_of_find?_registerConnections h hm
  have hnew : (n.inputs ++ feeders ns a).Nodup := by
    rw [ht hn, List.nil_append]
    exact nodup_feeders hns a
  rw [inputs_of_fedByAll hfed hnew, ht hn, List.nil_append]

end Registering

end Topology

end StreamMesh
