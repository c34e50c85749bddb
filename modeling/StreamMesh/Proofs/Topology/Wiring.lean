import StreamMesh.Proofs.Failure
import StreamMesh.Proofs.Topology.Ingest

/-!
# Registering the connections of a topology

Connections are registered one after the other, but each node is told only of the nodes that
connect to it, in their order. So what becomes of a node depends on its feeders alone, and
registering succeeds exactly if it does for every node on its own: a processor takes any number of
registrations as long as they all name one node, a sink takes all, a source none.

## Main definitions

* `Topology.WellFormed` — distinct names, each the name of its node
* `Topology.feeders` — the nodes that connect to a name
* `Topology.fedByAll` — a node after some registrations

## Main results

* `Topology.fedByAll_processor_iff`, `Topology.fedByAll_sink` — registrations at one node
* `Topology.find?_registerConnections` — a node after all connections are registered
* `Topology.registerConnections_eq_none` — when registering succeeds
* `Topology.secondInput_of_registerConnections` — why it fails between legal kinds
-/

namespace StreamMesh.Topology

variable {t t' : Topology} {n m m' : Node} {ns : List Node} {dest : String} {f : Fault}

/-- The names are distinct, and each is the name of its node. -/
structure WellFormed (t : Topology) : Prop where
  nodup : t.names.Nodup
  name_eq : ∀ {a n}, t.find? a = some n → n.name = a

theorem WellFormed.mem_values_iff (ht : t.WellFormed) :
    n ∈ t.nodes.values ↔ t.find? n.name = some n := by
  constructor
  · intro h
    obtain ⟨⟨a, n'⟩, hmem, rfl⟩ := List.mem_map.mp h
    have hfind : t.find? a = some n' := (Assoc.find?_eq_some_iff ht.nodup).mpr hmem
    exact (ht.name_eq hfind).symm ▸ hfind
  · intro h
    exact List.mem_map_of_mem (Assoc.mem_entries_of_find? h)

theorem find?_ofNodes {name : RawText} {nodes : List Node} (hn : (nodes.map Node.name).Nodup)
    {a : String} : (ofNodes name nodes).find? a = some n ↔ n ∈ nodes ∧ n.name = a := by
  have hkeys : (ofNodes name nodes).names.Nodup := (names_ofNodes name nodes).symm ▸ hn
  rw [find?, Assoc.find?_eq_some_iff hkeys]
  simp only [ofNodes, List.mem_map, Prod.mk.injEq]
  constructor
  · rintro ⟨n', hmem, hname, rfl⟩
    exact ⟨hmem, hname⟩
  · rintro ⟨hmem, hname⟩
    exact ⟨n, hmem, hname, rfl⟩

theorem wellFormed_ofNodes {name : RawText} {nodes : List Node} (hn : (nodes.map Node.name).Nodup) :
    (ofNodes name nodes).WellFormed where
  nodup := (names_ofNodes name nodes).symm ▸ hn
  name_eq h := ((find?_ofNodes hn).mp h).2

theorem values_ofNodes (name : RawText) (nodes : List Node) :
    (ofNodes name nodes).nodes.values = nodes := by
  simp [ofNodes, Assoc.values, Function.comp_def]

theorem mem_names_iff {a : String} : a ∈ t.names ↔ ∃ n, t.find? a = some n := by
  rw [names, ← Assoc.contains_iff, Assoc.contains, Option.isSome_iff_exists]
  rfl

/-- The names of the nodes that connect to a name, in the order of the nodes. -/
def feeders (ns : List Node) (dest : String) : List String :=
  (ns.filter fun n => decide (n.connectsTo? = some dest)).map Node.name

@[simp] theorem feeders_nil : feeders [] dest = [] := rfl

theorem feeders_cons_of_connects (h : n.connectsTo? = some dest) :
    feeders (n :: ns) dest = n.name :: feeders ns dest := by
  simp [feeders, h]

theorem feeders_cons_of_not_connects (h : n.connectsTo? ≠ some dest) :
    feeders (n :: ns) dest = feeders ns dest := by
  simp [feeders, h]

theorem mem_feeders_iff {a : String} :
    a ∈ feeders ns dest ↔ ∃ n ∈ ns, n.connectsTo? = some dest ∧ n.name = a := by
  simp [feeders, and_assoc]

section Node

/-- A node after several registrations, one after the other. -/
def fedByAll (dest : String) : List String → Node → Except Fault Node
  | [], n => .ok n
  | source :: rest, n => do
    let n ← Node.fedBy source dest n
    fedByAll dest rest n

/-- A registration keeps all of a node but its inputs. -/
theorem eq_of_fedBy {source : String} (h : Node.fedBy source dest m = .ok m') :
    m'.name = m.name ∧ m'.kind = m.kind ∧ m'.connectsTo? = m.connectsTo? := by
  unfold Node.fedBy at h
  split at h
  · split at h
    · split at h <;> cases h
      exact ⟨rfl, rfl, rfl⟩
    · cases h
      exact ⟨rfl, rfl, rfl⟩
  · cases h
    exact ⟨rfl, rfl, rfl⟩
  · cases h

theorem eq_of_fedByAll {sources : List String} (h : fedByAll dest sources m = .ok m') :
    m'.name = m.name ∧ m'.kind = m.kind ∧ m'.connectsTo? = m.connectsTo? := by
  induction sources generalizing m with
  | nil =>
    cases h
    exact ⟨rfl, rfl, rfl⟩
  | cons source rest ih =>
    obtain ⟨m₁, hm₁, h⟩ := bind_eq_ok_iff.mp h
    obtain ⟨hname, hkind, hto⟩ := eq_of_fedBy hm₁
    obtain ⟨hname', hkind', hto'⟩ := ih h
    exact ⟨hname'.trans hname, hkind'.trans hkind, hto'.trans hto⟩

/-- A node that is not a source refuses an input only if it is a processor that has another. -/
theorem secondInput_of_fedBy {source : String} (h : Node.fedBy source dest m = .error f)
    (hm : m.kind ≠ .source) : ∃ known, f = .secondInput dest known source := by
  unfold Node.fedBy at h
  split at h
  · split at h
    · split at h <;> cases h
      exact ⟨_, rfl⟩
    · cases h
  · cases h
  · exact absurd rfl hm

theorem fedBy_processor_iff {name target source : String} {input : Option String}
    {env : Assoc RawText RawText} : Node.fedBy source dest (.processor name target input env) =
      .ok m' ↔
      (∀ known ∈ input, known = source) ∧ m' = .processor name target (some source) env := by
  unfold Node.fedBy
  cases input with
  | none => simp [eq_comm]
  | some known =>
    by_cases h : known = source
    · simp [h, eq_comm]
    · simp [h]

/-- A processor takes the registrations that all name its one input. -/
theorem fedByAll_processor_iff {name target : String} {input : Option String}
    {env : Assoc RawText RawText} {sources : List String} :
    fedByAll dest sources (.processor name target input env) = .ok m' ↔
      (∀ a ∈ input.toList ++ sources, ∀ b ∈ input.toList ++ sources, a = b) ∧
        m' = .processor name target (input.toList ++ sources).head? env := by
  -- after the first registration there is an input, which all others have to repeat
  induction sources generalizing input with
  | nil => cases input <;> simp [fedByAll, eq_comm]
  | cons source rest ih =>
    simp only [fedByAll, bind_eq_ok_iff, fedBy_processor_iff]
    constructor
    · rintro ⟨m₁, ⟨hknown, rfl⟩, h⟩
      obtain ⟨hall, rfl⟩ := ih.mp h
      cases input with
      | none => exact ⟨hall, rfl⟩
      | some known =>
        obtain rfl := hknown known rfl
        exact ⟨by simpa using hall, rfl⟩
    · rintro ⟨hall, rfl⟩
      cases input with
      | none => exact ⟨_, ⟨by simp, rfl⟩, ih.mpr ⟨hall, rfl⟩⟩
      | some known =>
        have hknown : known = source := hall known (by simp) source (by simp)
        subst hknown
        exact ⟨_, ⟨by simp, rfl⟩, ih.mpr ⟨by simpa using hall, rfl⟩⟩

/-- A sink takes all registrations. -/
theorem fedByAll_sink (dest name : String) (inputs sources : List String) :
    ∃ inputs', fedByAll dest sources (.sink name inputs) = .ok (.sink name inputs') := by
  induction sources generalizing inputs with
  | nil => exact ⟨inputs, rfl⟩
  | cons source rest ih => exact ih _

end Node

section Connection

theorem registerConnection_eq_ok_iff (hn : n.connectsTo? = some dest) :
    t.registerConnection n = .ok t' ↔ ∃ m m', t.find? dest = some m ∧
      Node.fedBy n.name dest m = .ok m' ∧ t' = { t with nodes := t.nodes.insert dest m' } := by
  unfold registerConnection
  rw [hn]
  cases hm : t.find? dest with
  | none => simp [kindOf?, hm]
  | some m =>
    have hget : t.get dest m.kind = .ok m := by simp [get, hm]
    simp only [kindOf?, hm, Option.map_some, registerInput, bind_eq_ok_iff, hget, pure, Except.pure,
      Except.ok.injEq, Option.some.injEq]
    constructor
    · rintro ⟨_, rfl, m', hfed, rfl⟩
      exact ⟨m, m', rfl, hfed, rfl⟩
    · rintro ⟨_, m', rfl, hfed, rfl⟩
      exact ⟨m, rfl, m', hfed, rfl⟩

theorem find?_insert (t : Topology) (dest : String) (m' : Node) (a : String) :
    find? { t with nodes := t.nodes.insert dest m' } a = if a = dest then some m'
      else t.find? a := by
  split
  · rename_i h
    exact h ▸ Assoc.find?_insert_self _ _ _
  · rename_i h
    exact Assoc.find?_insert_of_ne _ h _

/-- A node that is told of an input keeps its kind, and so do all others. -/
theorem kindOf?_insert {source : String} (hm : t.find? dest = some m)
    (h : Node.fedBy source dest m = .ok m') (a : String) :
    kindOf? { t with nodes := t.nodes.insert dest m' } a = t.kindOf? a := by
  rw [kindOf?, find?_insert]
  split
  · rename_i ha
    rw [ha, kindOf?, hm, Option.map_some, Option.map_some, (eq_of_fedBy h).2.1]
  · rfl

theorem names_insert (h : t.find? dest = some m) (m' : Node) :
    names { t with nodes := t.nodes.insert dest m' } = t.names :=
  Assoc.keys_insert_of_mem (Assoc.mem_keys_of_find? h) m'

theorem name_registerConnections (t : Topology) (ns : List Node) :
    (t.registerConnections ns).1.name = t.name := by
  induction ns generalizing t with
  | nil => rfl
  | cons n rest ih =>
    rw [registerConnections]
    cases hc : n.connectsTo? with
    | none =>
      rw [registerConnection, hc]
      exact ih t
    | some dest =>
      cases h : t.registerConnection n with
      | error f => rfl
      | ok t₁ =>
        obtain ⟨_, m', -, -, rfl⟩ := (registerConnection_eq_ok_iff hc).mp h
        exact ih _

/-- What a run of registrations does to the first node and what is left to the others. -/
theorem registerConnections_cons_eq_none_iff (hn : n.connectsTo? = some dest) :
    t.registerConnections (n :: ns) = (t', none) ↔ ∃ m m', t.find? dest = some m ∧
      Node.fedBy n.name dest m = .ok m' ∧
      registerConnections { t with nodes := t.nodes.insert dest m' } ns = (t', none) := by
  rw [registerConnections]
  cases h : t.registerConnection n with
  | error f =>
    constructor
    · intro h'
      cases h'
    · rintro ⟨m, m', hm, hfed, -⟩
      rw [(registerConnection_eq_ok_iff hn).mpr ⟨m, m', hm, hfed, rfl⟩] at h
      cases h
  | ok t₁ =>
    obtain ⟨m, m', hm, hfed, rfl⟩ := (registerConnection_eq_ok_iff hn).mp h
    constructor
    · intro h'
      exact ⟨m, m', hm, hfed, h'⟩
    · rintro ⟨m₁, m₁', hm₁, hfed₁, h'⟩
      rw [hm] at hm₁
      cases hm₁
      rw [hfed] at hfed₁
      cases hfed₁
      exact h'

theorem registerConnections_cons_of_no_connection (hn : n.connectsTo? = none) :
    t.registerConnections (n :: ns) = t.registerConnections ns := by
  rw [registerConnections, registerConnection, hn]

theorem names_registerConnections (h : t.registerConnections ns = (t', none)) :
    t'.names = t.names := by
  induction ns generalizing t with
  | nil =>
    cases h
    rfl
  | cons n rest ih =>
    cases hc : n.connectsTo? with
    | none => exact ih (registerConnections_cons_of_no_connection hc ▸ h)
    | some dest =>
      obtain ⟨m, m', hm, -, h⟩ := (registerConnections_cons_eq_none_iff hc).mp h
      exact (ih h).trans (names_insert hm m')

/-- After all connections are registered, each node has been told of its feeders, in their order. -/
theorem find?_registerConnections (h : t.registerConnections ns = (t', none)) {a : String}
    (hm : t.find? a = some m) :
    ∃ m', fedByAll a (feeders ns a) m = .ok m' ∧ t'.find? a = some m' := by
  induction ns generalizing t m with
  | nil =>
    cases h
    exact ⟨m, rfl, hm⟩
  | cons n rest ih =>
    cases hc : n.connectsTo? with
    | none =>
      rw [feeders_cons_of_not_connects (by rw [hc]; nofun)]
      exact ih (registerConnections_cons_of_no_connection hc ▸ h) hm
    | some dest =>
      obtain ⟨m₁, m₁', hm₁, hfed, h⟩ := (registerConnections_cons_eq_none_iff hc).mp h
      -- a registration concerns the node that the connection leads to, and no other
      rcases eq_or_ne a dest with rfl | hne
      · rw [hm] at hm₁
        cases hm₁
        obtain ⟨m', hm', hfind⟩ := ih h (m := m₁') (by rw [find?_insert, if_pos rfl])
        rw [feeders_cons_of_connects hc]
        exact ⟨m', bind_eq_ok_iff.mpr ⟨m₁', hfed, hm'⟩, hfind⟩
      · rw [feeders_cons_of_not_connects (by rw [hc]; exact fun e => hne (Option.some.inj e).symm)]
        exact ih h (by rw [find?_insert, if_neg hne, hm])

/-- Every node was there before it was told of its feeders. -/
theorem exists_of_find?_registerConnections (h : t.registerConnections ns = (t', none))
    {a : String} (hm' : t'.find? a = some m') :
    ∃ m, t.find? a = some m ∧ fedByAll a (feeders ns a) m = .ok m' := by
  obtain ⟨m, hm⟩ := mem_names_iff.mp (names_registerConnections h ▸ mem_names_iff.mpr ⟨m', hm'⟩)
  obtain ⟨m₁, hfed, hm₁⟩ := find?_registerConnections h hm
  rw [hm'] at hm₁
  cases hm₁
  exact ⟨m, hm, hfed⟩

theorem WellFormed.registerConnections (ht : t.WellFormed)
    (h : t.registerConnections ns = (t', none)) : t'.WellFormed where
  nodup := (names_registerConnections h).symm ▸ ht.nodup
  name_eq hm' := by
    obtain ⟨m, hm, hfed⟩ := exists_of_find?_registerConnections h hm'
    exact (eq_of_fedByAll hfed).1.trans (ht.name_eq hm)

/-- Registering succeeds if every connection leads to a node and every node takes its feeders. -/
theorem registerConnections_eq_none
    (declared : ∀ n ∈ ns, ∀ dest, n.connectsTo? = some dest → dest ∈ t.names)
    (taken : ∀ dest m, t.find? dest = some m → ∃ m', fedByAll dest (feeders ns dest) m = .ok m') :
    ∃ t', t.registerConnections ns = (t', none) := by
  induction ns generalizing t with
  | nil => exact ⟨t, rfl⟩
  | cons n rest ih =>
    have declared' : ∀ n ∈ rest, ∀ dest, n.connectsTo? = some dest → dest ∈ t.names :=
      fun n hn => declared n (List.mem_cons_of_mem _ hn)
    cases hc : n.connectsTo? with
    | none =>
      rw [registerConnections_cons_of_no_connection hc]
      refine ih declared' fun dest m hm => ?_
      rw [← feeders_cons_of_not_connects (n := n) (by rw [hc]; nofun)]
      exact taken dest m hm
    | some dest =>
      obtain ⟨m, hm⟩ := mem_names_iff.mp (declared n (List.mem_cons_self ..) dest hc)
      obtain ⟨m₂, h⟩ := taken dest m hm
      rw [feeders_cons_of_connects hc] at h
      obtain ⟨m₁, hfed, h⟩ := bind_eq_ok_iff.mp h
      have hnext : ∃ t', registerConnections { t with nodes := t.nodes.insert dest m₁ } rest
          = (t', none) := by
        refine ih (fun n hn d hd => names_insert hm m₁ ▸ declared' n hn d hd) fun a k hk => ?_
        -- the node that has just been told of one feeder takes the others, as it took all
        rw [find?_insert] at hk
        split at hk
        · rename_i ha
          cases hk
          exact ha ▸ ⟨m₂, h⟩
        · rename_i ha
          have hne : n.connectsTo? ≠ some a := by
            rw [hc]
            exact fun e => ha (Option.some.inj e).symm
          rw [← feeders_cons_of_not_connects hne]
          exact taken a k hk
      obtain ⟨t', ht'⟩ := hnext
      exact ⟨t', (registerConnections_cons_eq_none_iff hc).mpr ⟨m, m₁, hm, hfed, ht'⟩⟩

/-- Where no connection leads to a source or out of the topology, registering fails only for a
processor with two inputs. -/
theorem secondInput_of_registerConnections (h : (t.registerConnections ns).2 = some f)
    (legal : ∀ n ∈ ns, ∀ dest, n.connectsTo? = some dest →
      ∃ k, t.kindOf? dest = some k ∧ k ≠ .source) :
    ∃ processor known other, f = .secondInput processor known other := by
  induction ns generalizing t with
  | nil => cases h
  | cons n rest ih =>
    have legal' := fun n (hn : n ∈ rest) => legal n (List.mem_cons_of_mem _ hn)
    cases hc : n.connectsTo? with
    | none => exact ih (registerConnections_cons_of_no_connection (t := t) hc ▸ h) legal'
    | some dest =>
      obtain ⟨k, hk, hne⟩ := legal n (List.mem_cons_self ..) dest hc
      obtain ⟨m, hm, rfl⟩ := Option.map_eq_some_iff.mp hk
      have hreg : t.registerConnection n = (do
          let m' ← Node.fedBy n.name dest m
          return { t with nodes := t.nodes.insert dest m' }) := by
        simp [registerConnection, hc, kindOf?, hm, registerInput, get, bind, Except.bind]
      rw [registerConnections, hreg] at h
      cases hfed : Node.fedBy n.name dest m with
      | error e =>
        rw [hfed] at h
        cases h
        obtain ⟨known, rfl⟩ := secondInput_of_fedBy hfed hne
        exact ⟨dest, known, n.name, rfl⟩
      | ok m' =>
        rw [hfed] at h
        -- registrations change no kind, so the connections stay legal
        refine ih h fun n hn d hd => ?_
        rw [kindOf?_insert hm hfed]
        exact legal' n hn d hd

end Connection

end StreamMesh.Topology
