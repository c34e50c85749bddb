import Mathlib.Data.List.Forall2
import StreamMesh.Proofs.Assoc
import StreamMesh.Proofs.Failure
import StreamMesh.Proofs.Text.Raw
import StreamMesh.Topology.OfSpec

/-!
# Steps as nodes

A step declares a node if it has a kind, a name, and the connection that its kind asks for. Nodes
with distinct names make up a topology, in which each node comes after those that were added before.

## Main definitions

* `Step.Declares` — the node that a step declares
* `Topology.ofNodes` — the topology of some nodes

## Main results

* `Step.Declares.unique` — a step declares one node at most
* `Step.find?_envTable_eq_some_iff` — the value of a variable is the last that the step gives it
* `Topology.add_eq_ok_iff` — which nodes can be added
-/

namespace StreamMesh

namespace NodeKind

theorem ofText?_eq_some_iff {text : String} {k : NodeKind} :
    ofText? text = some k ↔ text = k.text := by
  unfold ofText?
  constructor
  · intro h
    split at h
    · cases h
      assumption
    · split at h
      · cases h
        assumption
      · split at h
        · cases h
          assumption
        · cases h
  · rintro rfl
    cases k <;> decide

theorem text_injective {j k : NodeKind} (h : j.text = k.text) : j = k := by
  have hj : ofText? j.text = some j := ofText?_eq_some_iff.mpr rfl
  rw [h, ofText?_eq_some_iff.mpr rfl] at hj
  exact (Option.some.inj hj).symm

end NodeKind

namespace Step

/-- The node that a step declares. -/
inductive Declares (s : Step) : Node → Prop
  | source {name target : String} : s.kind = some (.whole NodeKind.source.text) →
      s.name = some name → name ≠ "" → s.connectsTo = some (.whole target) → target ≠ "" →
      s.Declares (.source name target)
  | processor {name target : String} : s.kind = some (.whole NodeKind.processor.text) →
      s.name = some name → name ≠ "" → s.connectsTo = some (.whole target) → target ≠ "" →
      s.Declares (.processor name target none s.envTable)
  | sink {name : String} : s.kind = some (.whole NodeKind.sink.text) → s.name = some name →
      name ≠ "" → s.connectsTo = none → s.Declares (.sink name [])

variable {s : Step} {n m : Node}

theorem Declares.kind (h : s.Declares n) : s.kind = some (.whole n.kind.text) := by
  cases h <;> assumption

theorem Declares.name (h : s.Declares n) : s.name = some n.name := by
  cases h <;> assumption

theorem Declares.name_ne (h : s.Declares n) : n.name ≠ "" := by
  cases h <;> assumption

theorem Declares.connectsTo (h : s.Declares n) : s.connectsTo = n.connectsTo?.map .whole := by
  cases h <;> assumption

/-- A step declares one node at most. -/
theorem Declares.unique (h : s.Declares n) (h' : s.Declares m) : n = m := by
  have hkind : n.kind = m.kind :=
    NodeKind.text_injective (RawText.whole.inj (Option.some.inj (h.kind.symm.trans h'.kind)))
  have hname : n.name = m.name := Option.some.inj (h.name.symm.trans h'.name)
  have hto : n.connectsTo? = m.connectsTo? :=
    Option.map_injective (fun _ _ => RawText.whole.inj) (h.connectsTo.symm.trans h'.connectsTo)
  cases h <;> cases h' <;> simp_all [Node.kind, Node.name, Node.connectsTo?]

theorem kind?_eq_ok_iff {k : NodeKind} : s.kind? = .ok k ↔ s.kind = some (.whole k.text) := by
  unfold kind?
  cases hk : s.kind with
  | none => simp
  | some word =>
    cases word with
    | whole text =>
      simp only [Value.ofRaw, NodeKind.parse, Option.some.injEq, RawText.whole.injEq]
      rw [← NodeKind.ofText?_eq_some_iff]
      cases NodeKind.ofText? text <;> simp
    | broken t => simp [Value.ofRaw, NodeKind.parse]

theorem nodup_keys_envTable (s : Step) : s.envTable.keys.Nodup := Assoc.nodup_keys_ofList _

theorem keys_envTable (s : Step) :
    s.envTable.keys = (s.env.map fun e => RawText.whole e.name).eraseDups := by
  rw [envTable, Assoc.keys_ofList, List.map_map]
  rfl

/-- The last declaration of a name is the last pair of the table's pairs. -/
theorem find?_envTable_eq_some_iff {x : String} {v : RawText} :
    s.envTable.find? (.whole x) = some v ↔
      ∃ before after, s.env = before ++ ⟨x, v⟩ :: after ∧ x ∉ after.map EnvEntry.name := by
  rw [envTable, Assoc.find?_ofList_eq_some_iff]
  constructor
  · rintro ⟨before, after, hsplit, hlast⟩
    obtain ⟨before, rest, henv, rfl, hrest⟩ := List.map_eq_append_iff.mp hsplit
    obtain ⟨e, after, rfl, he, rfl⟩ := List.map_eq_cons_iff.mp hrest
    cases he
    exact ⟨before, after, henv, by simpa using hlast⟩
  · rintro ⟨before, after, henv, hlast⟩
    exact ⟨before.map fun e => (.whole e.name, e.value),
      after.map fun e => (.whole e.name, e.value), by simp [henv], by simpa using hlast⟩

end Step

namespace Topology

variable {t t' : Topology} {n : Node}

theorem given?_eq_some_iff {text : Option String} {a : String} :
    given? text = some a ↔ text = some a ∧ a ≠ "" := by
  simp [given?]

theorem given?_eq_none_iff {text : Option String} :
    given? text = none ↔ ∀ a, text = some a → a = "" := by
  cases text <;> simp [given?]

theorem givenRaw?_eq_some_iff {text : Option RawText} {a : RawText} :
    givenRaw? text = some a ↔ text = some a ∧ a ≠ .whole "" := by
  rw [givenRaw?, Option.filter_eq_some_iff, Bool.not_eq_true', ← Bool.not_eq_true,
    RawText.isEmpty_iff]

theorem givenRaw?_eq_none_iff {text : Option RawText} :
    givenRaw? text = none ↔ ∀ a, text = some a → a = .whole "" := by
  cases text <;> simp [givenRaw?, RawText.isEmpty_iff]

/-- The topology of some nodes. -/
def ofNodes (name : RawText) (nodes : List Node) : Topology :=
  ⟨name, ⟨nodes.map fun n => (n.name, n)⟩⟩

theorem names_ofNodes (name : RawText) (nodes : List Node) :
    (ofNodes name nodes).names = nodes.map Node.name := by
  simp [ofNodes, names, Assoc.keys, Function.comp_def]

/-- A node is added exactly if its name is new, and goes to the end. -/
theorem add_eq_ok_iff : t.add n = .ok t' ↔
    n.name ∉ t.names ∧ t' = { t with nodes := ⟨t.nodes.entries ++ [(n.name, n)]⟩ } := by
  unfold add
  cases h : t.find? n.name with
  | some known =>
    have hmem : n.name ∈ t.names := Assoc.mem_keys_of_find? h
    simp [hmem]
  | none =>
    have hnew : n.name ∉ t.names := Assoc.find?_eq_none_iff.mp h
    have hentries : t.nodes.insert n.name n = ⟨t.nodes.entries ++ [(n.name, n)]⟩ :=
      congrArg Assoc.mk (Assoc.entries_insert_of_not_mem hnew n)
    simp [hnew, hentries, eq_comm]

end Topology

end StreamMesh
