import StreamMesh.Yaml.Node.Value

/-!
# How nodes are read

What reading a node comes to, by the kind of node. What is found in the parts of a collection is
found in the collection, so that nothing is found in a node that is read exactly if nothing is found
in any part of it.

## Main definitions

* `Node.entryFinding` — what is found in an entry of a mapping

## Main results

* `Node.firstFinding_eq_none_iff` — parts in which nothing is found
* `Node.read_of_not_collection`, `Node.read_sequence`, `Node.read_mapping` — nodes that are read
* `Node.toValue_eq_ok_iff` — a node with a value
-/

namespace StreamMesh

namespace Yaml

namespace Node

variable {n : Node} {es entries : List (Node × Node)} {items : List Node} {fuel level : Nat}
  {d : Value} {mark : Mark}

theorem firstFinding_eq_none_iff {findings : List (Option Finding)} :
    firstFinding findings = none ↔ ∀ f ∈ findings, f = none := by
  induction findings with
  | nil => simp [firstFinding]
  | cons f findings ih =>
    rw [List.forall_mem_cons, ← ih, firstFinding, List.foldr_cons, ← firstFinding]
    cases f with
    | none => simp [Finding.first]
    | some a =>
      refine iff_of_false ?_ fun h => Option.some_ne_none a h.1
      cases firstFinding findings with
      | none => exact Option.some_ne_none a
      | some b =>
        rw [Finding.first]
        split <;> exact Option.some_ne_none _

/-- A node whose tag is one for scalars is read by itself. -/
theorem read_of_not_collection (h : isCollectionTag n.tag = false) :
    n.read (fuel + 1) level = match n.readScalar with
      | .ok w => (w, none)
      | .error e => (.null, some ⟨level, e⟩) := by
  unfold read
  cases n with
  | scalar t c m => cases t <;> first | rfl | cases h
  | sequence t items m => cases t <;> first | rfl | cases h
  | mapping t entries m => cases t <;> first | rfl | cases h
  | around a m => cases h

theorem read_sequence : (sequence .seq items mark).read (fuel + 1) level =
    (.list ((items.map (read fuel (level + 1))).map Prod.fst),
      firstFinding ((items.map (read fuel (level + 1))).map Prod.snd)) := rfl

/-- What is found in an entry: in its key, of its key, and in its value. -/
def entryFinding (fuel level : Nat) (e : Node × Node) : Option Finding :=
  firstFinding [(e.1.read fuel level).2, keyFinding level e.1, (e.2.read fuel level).2]

theorem read_mapping (h : allEntries (mapping .map entries mark) = .ok es) :
    (mapping .map entries mark).read (fuel + 1) level =
      (.ofEntries (es.map fun e => ((e.1.read fuel (level + 1)).1, (e.2.read fuel (level + 1)).1)),
        firstFinding (es.map (entryFinding fuel (level + 1)))) := by
  simp only [read, tag, h, gatherEntries, List.map_map, Function.comp_def]
  rfl

theorem depth_pos : 0 < n.depth := by
  cases n <;> simp [depth]

/-- Where nothing is found in an entry, its key is read as a scalar, and its value without a
finding.
-/
theorem of_entryFinding_eq_none {e : Node × Node} (hdepth : e.1.depth ≤ fuel)
    (h : entryFinding fuel level e = none) :
    e.1.readScalar = .ok (e.1.read fuel level).1 ∧
      e.2.read fuel level = ((e.2.read fuel level).1, none) := by
  simp only [entryFinding, firstFinding_eq_none_iff, List.forall_mem_cons] at h
  obtain ⟨hkey, htag, hvalue, -⟩ := h
  have hscalar : isCollectionTag e.1.tag = false := by
    unfold keyFinding at htag
    split at htag
    · cases htag
    · simpa using ‹¬ isCollectionTag e.1.tag = true›
  obtain ⟨fuel, rfl⟩ := Nat.exists_eq_add_of_le' (Nat.lt_of_lt_of_le depth_pos hdepth)
  refine ⟨?_, Prod.ext rfl hvalue⟩
  rw [read_of_not_collection hscalar] at hkey ⊢
  cases hread : e.1.readScalar with
  | ok w => rfl
  | error e => rw [hread] at hkey; cases hkey

theorem toValue_eq_ok_iff : n.toValue = .ok d ↔ n.read n.depth 0 = (d, none) := by
  unfold toValue
  cases hread : n.read n.depth 0 with
  | mk w finding => cases finding <;> simp

theorem toValue_of_not_collection (h : isCollectionTag n.tag = false) :
    n.toValue = n.readScalar := by
  obtain ⟨depth, hdepth⟩ := Nat.exists_eq_add_of_le' (depth_pos (n := n))
  rw [toValue, hdepth, read_of_not_collection h]
  cases n.readScalar <;> rfl

end Node

end Yaml

end StreamMesh
