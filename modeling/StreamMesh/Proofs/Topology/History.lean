import Mathlib.Logic.Relation
import StreamMesh.Proofs.Schema.Stable
import StreamMesh.Proofs.Topology.BackReference
import StreamMesh.Topology.Declaration

/-!
# Topologies under any calls

Nodes are declared and inputs registered by calls that may come in any order, name nodes that are
not declared, repeat each other or contradict each other. A call that fails may be followed by
others. Whatever the calls are, a topology changes in two ways only: a node without inputs is added
under a new name, or a node takes an input. What these two keep, every run of calls keeps.

## Main definitions

* `Topology.Call`, `Topology.call`, `Topology.run` — calls, the effect of one, and that of several
* `Topology.Change` — the two ways in which a topology changes
* `Topology.Sound` — what holds of a topology after any calls
* `Node.Grows`, `Topology.Grows` — what later calls leave of nodes and topologies

## Main results

* `Topology.changes_call` — a call is some changes in a row, or none
* `Topology.Change.sound`, `Topology.Change.grows` — what a change keeps
* `Topology.run_only_adds` — what any run of calls keeps
-/

namespace StreamMesh

open Relation

/-- One node grows into another: a processor keeps the input that it has, a sink may get further
inputs after those it has, and all else stays. -/
inductive Node.Grows : Node → Node → Prop
  | source (name target : String) : Grows (.source name target) (.source name target)
  | processor (name target : String) (env : Assoc RawText RawText) {input input' : Option String} :
      (∀ x, input = some x → input' = some x) →
      Grows (.processor name target input env) (.processor name target input' env)
  | sink (name : String) {inputs inputs' : List String} : inputs <+: inputs' →
      Grows (.sink name inputs) (.sink name inputs')

namespace Node.Grows

variable {n n' n'' : Node}

theorem refl (n : Node) : n.Grows n := by
  cases n with
  | source => exact .source _ _
  | processor => exact .processor _ _ _ fun _ h => h
  | sink => exact .sink _ (List.prefix_refl _)

theorem trans (h : n.Grows n') (h' : n'.Grows n'') : n.Grows n'' := by
  cases h with
  | source => exact h'
  | processor _ _ _ hinput =>
    cases h' with
    | processor _ _ _ hinput' => exact .processor _ _ _ fun x hx => hinput' x (hinput x hx)
  | sink _ hinputs =>
    cases h' with
    | sink _ hinputs' => exact .sink _ (hinputs.trans hinputs')

end Node.Grows

namespace Topology

variable {t t' t'' : Topology} {n m m' : Node} {a source dest : String} {f : Fault}

section Node

/-- A node that takes an input grows. -/
theorem grows_of_fedBy (h : Node.fedBy source dest m = .ok m') : m.Grows m' := by
  cases m with
  | source => cases h
  | processor name target input env =>
    obtain ⟨hknown, rfl⟩ := fedBy_processor_iff.mp h
    exact .processor _ _ _ fun x hx => congrArg some (hknown x hx).symm
  | sink name inputs =>
    cases h
    refine .sink _ ?_
    split
    · exact List.prefix_refl _
    · exact List.prefix_append _ _

/-- A node that has an input already does not get it again. -/
theorem nodup_inputs_of_fedBy (h : Node.fedBy source dest m = .ok m') (hm : m.inputs.Nodup) :
    m'.inputs.Nodup := by
  by_cases hnew : source ∈ m.inputs
  · cases m with
    | source => cases hnew
    | processor name target input env =>
      obtain ⟨-, rfl⟩ := fedBy_processor_iff.mp h
      exact List.nodup_singleton _
    | sink name inputs =>
      have hknown : inputs.contains source = true := by simpa [Node.inputs] using hnew
      rw [Node.fedBy, hknown] at h
      cases h
      exact hm
  · rw [inputs_of_fedBy h hnew]
    exact List.Nodup.append hm (List.nodup_singleton _) (by simpa using hnew)

end Node

/-- The two ways in which a topology changes. -/
inductive Change (t : Topology) : Topology → Prop
  /-- A node without inputs is added under a new name. -/
  | add {n : Node} : t.find? n.name = none → n.inputs = [] →
      t.Change { t with nodes := t.nodes.insert n.name n }
  /-- A node takes an input. -/
  | feed {source dest : String} {m m' : Node} : t.find? dest = some m →
      Node.fedBy source dest m = .ok m' → t.Change { t with nodes := t.nodes.insert dest m' }

/-- What holds of a topology after any calls: names are distinct, each is the name of its node, and
no node names an input twice. -/
structure Sound (t : Topology) : Prop extends t.WellFormed where
  inputs : ∀ {a n}, t.find? a = some n → n.inputs.Nodup

/-- One topology grows into another: names are appended, and every node grows. -/
structure Grows (t t' : Topology) : Prop where
  name : t'.name = t.name
  names : t.names <+: t'.names
  nodes : ∀ {a n}, t.find? a = some n → ∃ n', t'.find? a = some n' ∧ n.Grows n'

theorem Grows.refl (t : Topology) : t.Grows t where
  name := rfl
  names := List.prefix_refl _
  nodes hn := ⟨_, hn, Node.Grows.refl _⟩

theorem Grows.trans (h : t.Grows t') (h' : t'.Grows t'') : t.Grows t'' where
  name := h'.name.trans h.name
  names := h.names.trans h'.names
  nodes hn := by
    obtain ⟨n', hn', hgrows⟩ := h.nodes hn
    obtain ⟨n'', hn'', hgrows'⟩ := h'.nodes hn'
    exact ⟨n'', hn'', hgrows.trans hgrows'⟩

section Change

/-- Giving a name a node leaves the names, or appends the name to them. -/
theorem names_prefix_insert (t : Topology) (a : String) (n : Node) :
    t.names <+: names { t with nodes := t.nodes.insert a n } := by
  have hkeys : names { t with nodes := t.nodes.insert a n } =
      if a ∈ t.names then t.names else t.names ++ [a] := Assoc.keys_insert _ _ _
  rw [hkeys]
  split
  · exact List.prefix_refl _
  · exact List.prefix_append _ _

/-- A topology stays sound if a name gets a node of that name, with distinct inputs. -/
theorem Sound.insert (ht : t.Sound) (hname : n.name = a) (hinputs : n.inputs.Nodup) :
    Sound { t with nodes := t.nodes.insert a n } where
  nodup := Assoc.nodup_keys_insert ht.nodup a n
  name_eq {b k} hk := by
    rw [find?_insert] at hk
    split at hk
    · rename_i hb
      cases hk
      exact hname.trans hb.symm
    · exact ht.name_eq hk
  inputs {b k} hk := by
    rw [find?_insert] at hk
    split at hk
    · cases hk
      exact hinputs
    · exact ht.inputs hk

/-- A topology grows if a name that has a node gets one that it grows into. -/
theorem grows_insert (h : ∀ m, t.find? a = some m → m.Grows n) :
    t.Grows { t with nodes := t.nodes.insert a n } where
  name := rfl
  names := t.names_prefix_insert a n
  nodes {b k} hk := by
    rw [find?_insert]
    split
    · rename_i hb
      exact ⟨n, rfl, h k (hb ▸ hk)⟩
    · exact ⟨k, hk, Node.Grows.refl k⟩

theorem Change.sound (h : t.Change t') (ht : t.Sound) : t'.Sound := by
  cases h with
  | add _ hinputs => exact ht.insert rfl (hinputs ▸ List.nodup_nil)
  | feed hm hfed =>
    exact ht.insert ((eq_of_fedBy hfed).1.trans (ht.name_eq hm))
      (nodup_inputs_of_fedBy hfed (ht.inputs hm))

theorem Change.grows (h : t.Change t') : t.Grows t' := by
  cases h with
  | add hnew _ => exact grows_insert fun m hm => nomatch hnew.symm.trans hm
  | feed hm hfed =>
    refine grows_insert fun k hk => ?_
    obtain rfl := Option.some.inj (hm.symm.trans hk)
    exact grows_of_fedBy hfed

theorem sound_of_changes (h : ReflTransGen Change t t') (ht : t.Sound) : t'.Sound := by
  induction h with
  | refl => exact ht
  | tail _ hchange ih => exact hchange.sound ih

theorem grows_of_changes (h : ReflTransGen Change t t') : t.Grows t' := by
  induction h with
  | refl => exact Grows.refl t
  | tail _ hchange ih => exact ih.trans hchange.grows

end Change

/-- A call on a topology. What a declaration holds, and a kind, may be any raw values. -/
inductive Call where
  | declare (d : Declaration)
  | registerInput (source dest : String) (kind : Value)
  | registerInputs

/-- A topology after a call that yields another one, or fails and yields none. -/
def after (t : Topology) : Except Failure Topology → Topology × Option Failure
  | .ok t' => (t', none)
  | .error f => (t, some f)

/-- The effect of a call, and its failure if it fails. -/
def call (t : Topology) : Call → Topology × Option Failure
  | .declare d => t.after (t.declare d)
  | .registerInput source dest kind => t.after <| Failure.ofFault do
    let kind ← NodeKind.parse kind
    t.registerInput source dest kind
  | .registerInputs => (t.registerInputs.1, t.registerInputs.2.map .fault)

/-- A topology after several calls. A call that fails does not stop the others. -/
def run (t : Topology) (calls : List Call) : Topology :=
  calls.foldl (fun t c => (t.call c).1) t

section Call

open Schema.Checked

theorem run_append (t : Topology) (calls later : List Call) :
    t.run (calls ++ later) = (t.run calls).run later :=
  List.foldl_append

/-- A node without inputs that can be added is a change. -/
theorem change_of_add (h : t.add n = .ok t') (hn : n.inputs = []) : t.Change t' := by
  unfold add at h
  split at h
  · cases h
  · rename_i hnew
    cases h
    exact .add hnew hn

/-- What is declared has no inputs. -/
theorem inputs_of_declaration {d : Declaration} (h : d.node = .ok n) : n.inputs = [] := by
  cases d with
  | source name connectsTo =>
    obtain ⟨-, -, h⟩ := bind_eq_ok_iff.mp h
    obtain ⟨-, -, h⟩ := bind_eq_ok_iff.mp h
    rw [Failure.ofChecked_eq_ok_iff, seq_eq_accepted_iff] at h
    obtain ⟨_, _, hname, -, rfl⟩ := h
    obtain ⟨_, -, rfl⟩ := map_eq_accepted_iff.mp hname
    rfl
  | processor name connectsTo env =>
    obtain ⟨-, -, h⟩ := bind_eq_ok_iff.mp h
    obtain ⟨-, -, h⟩ := bind_eq_ok_iff.mp h
    simp only [Failure.ofChecked_eq_ok_iff, seq_eq_accepted_iff, map_eq_accepted_iff] at h
    obtain ⟨_, _, ⟨_, _, ⟨_, -, rfl⟩, -, rfl⟩, -, rfl⟩ := h
    rfl
  | sink name =>
    obtain ⟨-, -, h⟩ := bind_eq_ok_iff.mp h
    rw [Failure.ofChecked_eq_ok_iff, map_eq_accepted_iff] at h
    obtain ⟨_, -, rfl⟩ := h
    rfl

theorem change_of_declare {d : Declaration} (h : t.declare d = .ok t') : t.Change t' := by
  obtain ⟨n, hn, hadd⟩ := bind_eq_ok_iff.mp h
  exact change_of_add (Failure.ofFault_eq_ok_iff.mp hadd) (inputs_of_declaration hn)

theorem change_of_registerInput {kind : NodeKind} (h : t.registerInput source dest kind = .ok t') :
    t.Change t' := by
  obtain ⟨m, hget, h⟩ := bind_eq_ok_iff.mp h
  obtain ⟨m', hfed, h⟩ := bind_eq_ok_iff.mp h
  cases h
  refine .feed ?_ hfed
  -- the node that is told of the input is the one under its name
  unfold get at hget
  split at hget
  · split at hget
    · cases hget
      assumption
    · cases hget
  · cases hget

/-- Registering connections is some changes in a row, also where it breaks off. -/
theorem changes_registerConnections (t : Topology) (ns : List Node) :
    ReflTransGen Change t (t.registerConnections ns).1 := by
  induction ns generalizing t with
  | nil => exact .refl
  | cons n rest ih =>
    cases hc : n.connectsTo? with
    | none =>
      rw [registerConnections_cons_of_no_connection hc]
      exact ih t
    | some dest =>
      rw [registerConnections]
      cases h : t.registerConnection n with
      | error f => exact .refl
      | ok t₁ =>
        obtain ⟨m, m', hm, hfed, rfl⟩ := (registerConnection_eq_ok_iff hc).mp h
        exact .head (.feed hm hfed) (ih _)

/-- A call that yields one change at best is one change or none. -/
theorem changes_after {result : Except Failure Topology}
    (h : ∀ t', result = .ok t' → t.Change t') : ReflTransGen Change t (t.after result).1 := by
  cases result with
  | ok t' => exact .single (h t' rfl)
  | error f => exact .refl

/-- A call is some changes in a row, or none. -/
theorem changes_call (t : Topology) (c : Call) : ReflTransGen Change t (t.call c).1 := by
  cases c with
  | declare => exact changes_after fun _ => change_of_declare
  | registerInput =>
    refine changes_after fun t' h => ?_
    obtain ⟨kind, -, h⟩ := bind_eq_ok_iff.mp (Failure.ofFault_eq_ok_iff.mp h)
    exact change_of_registerInput h
  | registerInputs => exact t.changes_registerConnections _

/-- A run of calls is some changes in a row, or none. -/
theorem changes_run (t : Topology) (calls : List Call) : ReflTransGen Change t (t.run calls) := by
  induction calls generalizing t with
  | nil => exact .refl
  | cons c rest ih => exact (t.changes_call c).trans (ih _)

theorem after_eq_self {result : Except Failure Topology} {f : Failure}
    (h : (t.after result).2 = some f) : (t.after result).1 = t := by
  cases result with
  | ok t' => cases h
  | error f' => rfl

/-- A call that fails leaves the topology as it was, unless it registers all inputs. -/
theorem call_eq_self {c : Call} {f : Failure} (hc : c ≠ .registerInputs)
    (h : (t.call c).2 = some f) :
    (t.call c).1 = t := by
  cases c with
  | declare | registerInput => exact after_eq_self h
  | registerInputs => exact absurd rfl hc

theorem sound_of_named {name : Option RawText} (h : named name = .ok t) : t.Sound := by
  unfold named at h
  split at h
  · cases h
    exact ⟨⟨List.nodup_nil, nofun⟩, nofun⟩
  · cases h

end Call

/-- Whatever calls are made on a new topology, failing ones included: names are distinct, each is
the name of its node, and no node names an input twice. Whatever calls follow, names are appended
only, and every node keeps its kind, its connection, its environment and the inputs that it has. A
single call that fails changes nothing, unless it is the one that registers all inputs. -/
theorem run_only_adds {name : Option RawText} (h : named name = .ok t) (calls later : List Call) :
    (t.run calls).Sound ∧ (t.run calls).Grows (t.run (calls ++ later)) ∧
      ∀ c f, c ≠ .registerInputs → ((t.run calls).call c).2 = some f →
        ((t.run calls).call c).1 = t.run calls := by
  refine ⟨sound_of_changes (t.changes_run calls) (sound_of_named h), ?_, fun c f => call_eq_self⟩
  rw [run_append]
  exact grows_of_changes (changes_run _ later)

/-- Calls some of which fail: two sources connect to one processor, and a name is a number. -/
def Call.contradictory : List Call := [
  .declare (.source (.str "first") (.str "count")),
  .declare (.processor (.str "count") (.str "out") (.map [(.str "LEVEL", .str "info")])),
  .registerInput "first" "out" (.str "sink"),
  .declare (.source (.str "second") (.str "count")),
  .declare (.sink (.int 1)),
  .declare (.sink (.str "out")),
  .registerInputs,
  .registerInput "" "out" (.str "sink"),
  .registerInput "count" "out" (.str "sink")]

theorem run_only_adds_contradictory :
    named (some (.whole "demo")) = .ok ⟨"demo", .empty⟩ ∧
    (run ⟨"demo", .empty⟩ Call.contradictory).Sound ∧
    (run ⟨"demo", .empty⟩ (Call.contradictory.take 6)).Grows
      (run ⟨"demo", .empty⟩ Call.contradictory) ∧
    ((run ⟨"demo", .empty⟩ Call.contradictory).call (.declare (.sink (.str "count")))).2 =
      some (.fault (.duplicateName "count" "processor")) ∧
    ((run ⟨"demo", .empty⟩ Call.contradictory).call (.declare (.sink (.str "count")))).1 =
      run ⟨"demo", .empty⟩ Call.contradictory := by
  have hnamed : named (some (.whole "demo")) = .ok ⟨"demo", .empty⟩ := rfl
  have hfails : ((run ⟨"demo", .empty⟩ Call.contradictory).call
      (.declare (.sink (.str "count")))).2 =
        some (.fault (.duplicateName "count" "processor")) := rfl
  obtain ⟨hsound, -, hsame⟩ := run_only_adds hnamed Call.contradictory []
  obtain ⟨-, hgrows, -⟩ := run_only_adds hnamed (Call.contradictory.take 6)
    (Call.contradictory.drop 6)
  exact ⟨hnamed, hsound, hgrows, hfails, hsame _ _ nofun hfails⟩

/-- The call that registers all inputs fails here at the second source, and leaves what it has
registered until then. -/
example : (run ⟨"demo", .empty⟩ Call.contradictory).find? "out" =
    some (.sink "out" ["count", ""]) := by rfl

end Topology

end StreamMesh
