import Mathlib.Data.Set.Subsingleton
import StreamMesh.Proofs.Graph.Edges
import StreamMesh.Proofs.Topology.History

/-!
# Registering all inputs of any topology

All connections are registered one after the other, at nodes that may have inputs already. Whether
this succeeds is a matter of each node for itself, and what it adds to a node are the feeders that
the node does not name yet, in their order. So registering once more adds nothing. Where it fails,
it stops at the first connection that cannot be registered after those before it, and keeps these.

## Main definitions

* `Topology.Reached` — topologies that calls can lead to
* `Topology.Registrable` — topologies whose inputs can all be registered
* `Topology.Registered` — a topology after the connections of some nodes are registered
* `Topology.Refuses` — why a connection cannot be registered after others

## Main results

* `Topology.registered_of_registerConnections` — what registering connections leaves
* `Topology.registerInputs_isOk_iff` — when it succeeds
* `Topology.registerInputs_again` — it adds nothing the second time
* `Topology.registerConnections_eq_some_iff` — where it stops, and with what fault
* `Topology.registerInputs_exactly` — all of this for the topologies that calls can lead to
-/

namespace StreamMesh.Topology

variable {t t' : Topology} {n m m' : Node} {ns : List Node} {a b x source dest : String}
  {sources : List String} {f : Fault}

/-- A topology that some calls on a new one lead to, failing calls included. -/
def Reached (t : Topology) : Prop :=
  ∃ name t₀ calls, named name = .ok t₀ ∧ t = t₀.run calls

/-- Every connection leads to a declared node that is no source, and no processor gets two inputs:
the one that it has already and all that connect to it are one at most. -/
structure Registrable (t : Topology) : Prop where
  target : ∀ a b, t.Connects a b → ∃ k, t.kindOf? b = some k ∧ k ≠ .source
  single : ∀ b, t.kindOf? b = some .processor →
    {x | t.inputOf? b = some x ∨ t.Connects x b}.Subsingleton

/-- One topology is another after the connections of some nodes are registered. -/
structure Registered (t : Topology) (ns : List Node) (t' : Topology) : Prop where
  /-- Nothing but inputs has changed. -/
  unfed : t'.unfed = t.unfed
  /-- A node that nothing connects to is as it was. -/
  kept : ∀ b, feeders ns b = [] → t'.find? b = t.find? b
  /-- A processor has what connects to it as its input. -/
  processor : ∀ x b, t.kindOf? b = some .processor → x ∈ feeders ns b → t'.inputOf? b = some x
  /-- A sink has its inputs and after them what connects to it and is not among them. -/
  sink : ∀ b inputs, t.find? b = some (.sink b inputs) →
    t'.find? b = some (.sink b (inputs ++ (feeders ns b).filter fun x => decide (x ∉ inputs)))

/-- Why the connection of a node cannot be registered after those of the nodes before it. -/
inductive Refuses (t : Topology) (before : List Node) (n : Node) : Fault → Prop
  | undeclared {b : String} : n.connectsTo? = some b → b ∉ t.names →
      t.Refuses before n (.unknownComponent b "node")
  | source {b : String} : n.connectsTo? = some b → t.kindOf? b = some .source →
      t.Refuses before n (.invalidEdge n.name b "processor or sink")
  | processor {b known : String} : n.connectsTo? = some b → t.kindOf? b = some .processor →
      known ∈ (t.inputOf? b).toList ++ feeders before b → known ≠ n.name →
      t.Refuses before n (.secondInput b known n.name)

theorem Reached.sound (ht : t.Reached) : t.Sound := by
  obtain ⟨name, t₀, calls, h, rfl⟩ := ht
  exact sound_of_changes (t₀.changes_run calls) (sound_of_named h)

section Node

/-- A node that has an input already stays as it is. -/
theorem fedBy_of_mem (h : source ∈ m.inputs) : Node.fedBy source dest m = .ok m := by
  cases m with
  | source => cases h
  | processor name target input env =>
    obtain rfl : input = some source := Option.mem_toList.mp h
    simp [Node.fedBy]
  | sink name inputs =>
    have hknown : inputs.contains source = true := List.contains_iff_mem.mpr h
    simp only [Node.fedBy, hknown, if_true]

/-- A node refuses an input if it is a source, or a processor that has another. -/
theorem fedBy_eq_error_iff : Node.fedBy source dest m = .error f ↔
    (m.kind = .source ∧ f = .invalidEdge source dest "processor or sink") ∨
      m.kind = .processor ∧
        ∃ known ∈ m.inputs, known ≠ source ∧ f = .secondInput dest known source := by
  cases m with
  | source => simp [Node.fedBy, Node.kind, eq_comm]
  | sink => simp [Node.fedBy, Node.kind]
  | processor name target input env =>
    cases input with
    | none => simp [Node.fedBy, Node.kind, Node.inputs]
    | some known =>
      by_cases h : known = source
      · simp [Node.fedBy, Node.kind, Node.inputs, h]
      · have hne : source ≠ known := Ne.symm h
        simp [Node.fedBy, Node.kind, Node.inputs, h, hne, eq_comm]

/-- Registrations add what a node does not name yet, in their order. -/
theorem inputs_of_fedByAll_of_nodup (h : fedByAll dest sources m = .ok m') (hs : sources.Nodup) :
    m'.inputs = m.inputs ++ sources.filter fun x => decide (x ∉ m.inputs) := by
  induction sources generalizing m with
  | nil =>
    cases h
    simp
  | cons source rest ih =>
    obtain ⟨m₁, hfed, h⟩ := bind_eq_ok_iff.mp h
    obtain ⟨hfirst, hrest⟩ := List.nodup_cons.mp hs
    rw [ih h hrest]
    by_cases hmem : source ∈ m.inputs
    · rw [fedBy_of_mem hmem] at hfed
      cases hfed
      rw [List.filter_cons_of_neg (by simpa using hmem)]
    · rw [inputs_of_fedBy hfed hmem, List.filter_cons_of_pos (by simpa using hmem),
        Assoc.filter_new_append hfirst, List.append_assoc, List.singleton_append]

/-- A node takes some registrations if it is no source, and a processor if they name one input. -/
theorem fedByAll_isOk_iff : (∃ m', fedByAll dest sources m = .ok m') ↔
    (m.kind = .source → sources = []) ∧
      (m.kind = .processor → {x | x ∈ m.inputs ++ sources}.Subsingleton) := by
  cases m with
  | source =>
    cases sources with
    | nil => simp [fedByAll, Node.kind]
    | cons => simp [fedByAll, Node.fedBy, Node.kind, bind, Except.bind]
  | processor =>
    simp only [fedByAll_processor_iff, Node.kind, reduceCtorEq, false_imp_iff, true_and,
      true_imp_iff, Node.inputs, exists_and_left, exists_eq, and_true]
    rfl
  | sink name inputs =>
    obtain ⟨inputs', h⟩ := fedByAll_sink dest name inputs sources
    simp [h, Node.kind]

end Node

section Connection

/-- The connection of a node that is recorded already is passed over. -/
theorem registerConnection_of_records (hn : n.connectsTo? = some dest) (h : t.Records n.name dest) :
    t.registerConnection n = .ok t := by
  obtain ⟨m, hm, hmem⟩ := h
  rw [registerConnection_eq_ok_iff hn]
  refine ⟨m, m, hm, fedBy_of_mem hmem, ?_⟩
  rw [Assoc.insert_of_find? hm]

theorem registerConnection_eq_error_iff : t.registerConnection n = .error f ↔
    ∃ b, n.connectsTo? = some b ∧ ((t.find? b = none ∧ f = .unknownComponent b "node") ∨
      ∃ m, t.find? b = some m ∧ Node.fedBy n.name b m = .error f) := by
  unfold registerConnection
  cases hn : n.connectsTo? with
  | none => simp
  | some b =>
    cases hm : t.find? b with
    | none => simp [kindOf?, hm, eq_comm]
    | some m =>
      have hget : t.get b m.kind = .ok m := by simp [get, hm]
      simp only [kindOf?, hm, Option.map_some, registerInput, bind_eq_error_iff, hget, pure,
        Except.pure, Option.some.injEq]
      simp [hm]

/-- Connections that are registered lead to nodes that were there. -/
theorem target_mem_of_registerConnections (h : t.registerConnections ns = (t', none)) (hn : n ∈ ns)
    (hto : n.connectsTo? = some b) : b ∈ t.names := by
  induction ns generalizing t with
  | nil => cases hn
  | cons n' rest ih =>
    cases hc : n'.connectsTo? with
    | none =>
      rw [registerConnections_cons_of_no_connection hc] at h
      rcases List.mem_cons.mp hn with rfl | hn
      · exact nomatch hto.symm.trans hc
      · exact ih h hn
    | some dest =>
      obtain ⟨m, m', hm, -, h⟩ := (registerConnections_cons_eq_none_iff hc).mp h
      rcases List.mem_cons.mp hn with rfl | hn
      · obtain rfl := Option.some.inj (hto.symm.trans hc)
        exact mem_names_iff.mpr ⟨m, hm⟩
      · exact names_insert hm m' ▸ ih h hn

/-- Registering fails at the first connection that cannot be registered after those before it, and
leaves what these have come to. -/
theorem registerConnections_eq_some_iff : t.registerConnections ns = (t', some f) ↔
    ∃ before n after, ns = before ++ n :: after ∧ t.registerConnections before = (t', none) ∧
      t'.registerConnection n = .error f := by
  induction ns generalizing t with
  | nil => simp [registerConnections]
  | cons n rest ih =>
    rw [registerConnections]
    cases hn : t.registerConnection n with
    | error e =>
      constructor
      · intro h
        cases h
        exact ⟨[], n, rest, rfl, rfl, hn⟩
      · rintro ⟨before, n', after, hsplit, hbefore, hfail⟩
        -- nothing stands before the connection that fails
        cases before with
        | nil =>
          cases hsplit
          cases hbefore
          rw [hn] at hfail
          rw [Except.error.inj hfail]
        | cons _ before =>
          cases hsplit
          rw [registerConnections, hn] at hbefore
          cases hbefore
    | ok t₁ =>
      refine ih.trans ⟨?_, ?_⟩
      · rintro ⟨before, n', after, rfl, hbefore, hfail⟩
        refine ⟨n :: before, n', after, rfl, ?_, hfail⟩
        rw [registerConnections, hn]
        exact hbefore
      · rintro ⟨before, n', after, hsplit, hbefore, hfail⟩
        cases before with
        | nil =>
          cases hsplit
          cases hbefore
          rw [hn] at hfail
          cases hfail
        | cons _ before =>
          cases hsplit
          rw [registerConnections, hn] at hbefore
          exact ⟨before, n', after, rfl, hbefore, hfail⟩

/-- Connections that are recorded already are passed over. -/
theorem registerConnections_of_records
    (h : ∀ n ∈ ns, ∀ b, n.connectsTo? = some b → t.Records n.name b) :
    t.registerConnections ns = (t, none) := by
  induction ns with
  | nil => rfl
  | cons n rest ih =>
    have hrest := ih fun n' hn' => h n' (List.mem_cons_of_mem _ hn')
    cases hc : n.connectsTo? with
    | none => rw [registerConnections_cons_of_no_connection hc, hrest]
    | some b =>
      rw [registerConnections, registerConnection_of_records hc (h n (List.mem_cons_self ..) b hc)]
      exact hrest

end Connection

section Registered

/-- The inputs of a processor: the one that is registered, if there is one. -/
theorem inputs_eq_toList (hm : t.find? b = some m) (hk : m.kind = .processor) :
    (t.inputOf? b).toList = m.inputs := by
  rw [inputOf?, hm]
  cases m with
  | processor => rfl
  | source | sink => cases hk

theorem inputOf?_eq_some_iff_mem (hm : t.find? b = some m) (hk : m.kind = .processor) :
    t.inputOf? b = some x ↔ x ∈ m.inputs := by
  rw [← inputs_eq_toList hm hk]
  exact Option.mem_toList.symm

theorem mem_feeders_values_iff (ht : t.WellFormed) :
    x ∈ feeders t.nodes.values b ↔ t.Connects x b := by
  rw [mem_feeders_iff]
  constructor
  · rintro ⟨n, hn, hto, rfl⟩
    exact ⟨n, ht.mem_values_iff.mp hn, hto⟩
  · rintro ⟨n, hn, hto⟩
    have hname : n.name = x := ht.name_eq hn
    exact ⟨n, ht.mem_values_iff.mpr (hname.symm ▸ hn), hto, hname⟩

/-- The inputs of a node after registering: those it had, and the feeders that it did not name. -/
theorem exists_inputs_of_registerConnections (h : t.registerConnections ns = (t', none))
    (hns : (ns.map Node.name).Nodup) (hm : t.find? b = some m) :
    ∃ m', t'.find? b = some m' ∧ m'.name = m.name ∧ m'.kind = m.kind ∧
      m'.inputs = m.inputs ++ (feeders ns b).filter fun x => decide (x ∉ m.inputs) := by
  obtain ⟨m', hfed, hm'⟩ := find?_registerConnections h hm
  obtain ⟨hname, hkind, -⟩ := eq_of_fedByAll hfed
  exact ⟨m', hm', hname, hkind, inputs_of_fedByAll_of_nodup hfed (nodup_feeders hns b)⟩

/-- The inputs of a node after registering, in whatever order. -/
theorem exists_mem_inputs_iff (h : t.registerConnections ns = (t', none))
    (hns : (ns.map Node.name).Nodup) (hm : t.find? b = some m) :
    ∃ m', t'.find? b = some m' ∧ m'.kind = m.kind ∧
      ∀ x, x ∈ m'.inputs ↔ x ∈ m.inputs ++ feeders ns b := by
  obtain ⟨m', hm', -, hkind, hinputs⟩ := exists_inputs_of_registerConnections h hns hm
  refine ⟨m', hm', hkind, fun x => ?_⟩
  rw [hinputs, List.mem_append, List.mem_append, List.mem_filter, decide_eq_true_iff]
  constructor
  · rintro (hknown | ⟨hfeeds, -⟩)
    · exact .inl hknown
    · exact .inr hfeeds
  · rintro (hknown | hfeeds)
    · exact .inl hknown
    · exact (em (x ∈ m.inputs)).imp id fun hnew => ⟨hfeeds, hnew⟩

theorem find?_eq_none_of_registerConnections (h : t.registerConnections ns = (t', none)) :
    t'.find? b = none ↔ b ∉ t.names := by
  rw [← names_registerConnections h]
  exact Assoc.find?_eq_none_iff

/-- What registering leaves. -/
theorem registered_of_registerConnections (h : t.registerConnections ns = (t', none))
    (hns : (ns.map Node.name).Nodup) : t.Registered ns t' where
  unfed := unfed_registerConnections h
  kept b hb := by
    cases hm : t.find? b with
    | none => exact (find?_eq_none_of_registerConnections h).mpr (Assoc.find?_eq_none_iff.mp hm)
    | some m =>
      obtain ⟨m', hfed, hm'⟩ := find?_registerConnections h hm
      rw [hb] at hfed
      cases hfed
      exact hm'
  processor x b hk hx := by
    obtain ⟨m, hm, hk⟩ := kindOf?_eq_some_iff.mp hk
    obtain ⟨m', hm', hk', hinputs⟩ := exists_mem_inputs_iff h hns hm
    rw [inputOf?_eq_some_iff_mem hm' (hk'.trans hk), hinputs]
    exact List.mem_append_right _ hx
  sink b inputs hm := by
    obtain ⟨m', hm', hname, hk, hinputs⟩ := exists_inputs_of_registerConnections h hns hm
    cases m' with
    | sink b' inputs' =>
      obtain rfl : b' = b := hname
      obtain rfl : inputs' = _ := hinputs
      exact hm'
    | source | processor => cases hk

/-- A connection that is registered is recorded. -/
theorem records_of_registerConnections (h : t.registerConnections ns = (t', none))
    (hns : (ns.map Node.name).Nodup) (hn : n ∈ ns) (hto : n.connectsTo? = some b) :
    t'.Records n.name b := by
  obtain ⟨m, hm⟩ := mem_names_iff.mp (target_mem_of_registerConnections h hn hto)
  obtain ⟨m', hm', -, hinputs⟩ := exists_mem_inputs_iff h hns hm
  exact ⟨m', hm', (hinputs _).mpr
    (List.mem_append_right _ (mem_feeders_iff.mpr ⟨n, hn, hto, rfl⟩))⟩

/-- A connection is refused, after others are registered, for a reason that was there before. -/
theorem registerConnection_eq_error_iff_refuses (h : t.registerConnections ns = (t', none))
    (hns : (ns.map Node.name).Nodup) :
    t'.registerConnection n = .error f ↔ t.Refuses ns n f := by
  rw [registerConnection_eq_error_iff]
  constructor
  · rintro ⟨b, hto, ⟨hnone, rfl⟩ | ⟨m', hm', hfed⟩⟩
    · exact .undeclared hto ((find?_eq_none_of_registerConnections h).mp hnone)
    · obtain ⟨m, hm, -⟩ := exists_of_find?_registerConnections h hm'
      obtain ⟨m₁, hm₁, hk, hinputs⟩ := exists_mem_inputs_iff h hns hm
      obtain rfl := Option.some.inj (hm'.symm.trans hm₁)
      -- what is fed keeps its kind, and its inputs are those registered so far
      rcases fedBy_eq_error_iff.mp hfed with ⟨hsource, rfl⟩ | ⟨hprocessor, known, hknown, hne, rfl⟩
      · exact .source hto (kindOf?_eq_some_iff.mpr ⟨m, hm, hk.symm.trans hsource⟩)
      · have hm_kind : m.kind = .processor := hk.symm.trans hprocessor
        refine .processor hto (kindOf?_eq_some_iff.mpr ⟨m, hm, hm_kind⟩) ?_ hne
        rwa [hinputs, ← inputs_eq_toList hm hm_kind] at hknown
  · intro hrefuses
    cases hrefuses with
    | @undeclared b hto hnew =>
      exact ⟨b, hto, .inl ⟨(find?_eq_none_of_registerConnections h).mpr hnew, rfl⟩⟩
    | @source b hto hk =>
      obtain ⟨m, hm, hk⟩ := kindOf?_eq_some_iff.mp hk
      obtain ⟨m', hm', hk', -⟩ := exists_mem_inputs_iff h hns hm
      exact ⟨b, hto, .inr ⟨m', hm', fedBy_eq_error_iff.mpr (.inl ⟨hk'.trans hk, rfl⟩)⟩⟩
    | @processor b known hto hk hknown hne =>
      obtain ⟨m, hm, hk⟩ := kindOf?_eq_some_iff.mp hk
      obtain ⟨m', hm', hk', hinputs⟩ := exists_mem_inputs_iff h hns hm
      rw [inputs_eq_toList hm hk, ← hinputs] at hknown
      exact ⟨b, hto, .inr ⟨m', hm',
        fedBy_eq_error_iff.mpr (.inr ⟨hk'.trans hk, known, hknown, hne, rfl⟩)⟩⟩

end Registered

section Inputs

variable (ht : t.WellFormed)

include ht

/-- All inputs can be registered exactly if every connection leads to a node that takes inputs, and
no processor gets two of them. -/
theorem registerInputs_isOk_iff : (∃ t', t.registerInputs = (t', none)) ↔ t.Registrable := by
  have hset : ∀ {b : String} {m : Node}, t.find? b = some m → m.kind = .processor →
      {x | x ∈ m.inputs ++ feeders t.nodes.values b} =
        {x | t.inputOf? b = some x ∨ t.Connects x b} := by
    intro b m hm hk
    ext x
    change x ∈ m.inputs ++ feeders t.nodes.values b ↔ t.inputOf? b = some x ∨ t.Connects x b
    rw [List.mem_append, mem_feeders_values_iff ht, inputOf?_eq_some_iff_mem hm hk]
  constructor
  · rintro ⟨t', h⟩
    constructor
    · intro a b hab
      have hfeeds : a ∈ feeders t.nodes.values b := (mem_feeders_values_iff ht).mpr hab
      obtain ⟨n, hn, hto, -⟩ := mem_feeders_iff.mp hfeeds
      obtain ⟨m, hm⟩ := mem_names_iff.mp (target_mem_of_registerConnections h hn hto)
      obtain ⟨m', hfed, -⟩ := find?_registerConnections h hm
      refine ⟨m.kind, kindOf?_eq_some_iff.mpr ⟨m, hm, rfl⟩, fun hsource => ?_⟩
      -- a source would take no feeder
      rw [(fedByAll_isOk_iff.mp ⟨m', hfed⟩).1 hsource] at hfeeds
      cases hfeeds
    · intro b hk
      obtain ⟨m, hm, hk⟩ := kindOf?_eq_some_iff.mp hk
      obtain ⟨m', hfed, -⟩ := find?_registerConnections h hm
      rw [← hset hm hk]
      exact (fedByAll_isOk_iff.mp ⟨m', hfed⟩).2 hk
  · intro h
    apply registerConnections_eq_none
    · intro n hn b hto
      obtain ⟨k, hk, -⟩ := h.target n.name b ⟨n, ht.mem_values_iff.mp hn, hto⟩
      obtain ⟨m, hm, -⟩ := kindOf?_eq_some_iff.mp hk
      exact mem_names_iff.mpr ⟨m, hm⟩
    · intro b m hm
      rw [fedByAll_isOk_iff]
      constructor
      · intro hsource
        rw [List.eq_nil_iff_forall_not_mem]
        intro x hx
        obtain ⟨k, hk, hne⟩ := h.target x b ((mem_feeders_values_iff ht).mp hx)
        obtain ⟨m', hm', rfl⟩ := kindOf?_eq_some_iff.mp hk
        obtain rfl := Option.some.inj (hm.symm.trans hm')
        exact hne hsource
      · intro hk
        rw [hset hm hk]
        exact h.single b (kindOf?_eq_some_iff.mpr ⟨m, hm, hk⟩)

/-- Registering all inputs once more adds nothing. -/
theorem registerInputs_again (h : t.registerInputs = (t', none)) :
    t'.registerInputs = (t', none) := by
  refine registerConnections_of_records fun n' hn' b hto' => ?_
  -- the node is one of those whose connections were registered, with more inputs at best
  have hfind := (ht.registerConnections h).mem_values_iff.mp hn'
  obtain ⟨n, hn, hfed⟩ := exists_of_find?_registerConnections h hfind
  obtain ⟨hname, -, hto⟩ := eq_of_fedByAll hfed
  rw [hname] at hn ⊢
  exact records_of_registerConnections h (ht.map_name_values.symm ▸ ht.nodup)
    (ht.mem_values_iff.mpr hn) (hto.symm.trans hto')

/-- Registering all inputs stops at the first connection that is refused after those before it. -/
theorem registerInputs_eq_some_iff : t.registerInputs = (t', some f) ↔
    ∃ before n after, t.nodes.values = before ++ n :: after ∧
      t.registerConnections before = (t', none) ∧ t.Registered before t' ∧
      t.Refuses before n f := by
  have hbefore : ∀ {before n after}, t.nodes.values = before ++ n :: after →
      (before.map Node.name).Nodup := fun hsplit => by
    have hnames : (t.nodes.values.map Node.name).Nodup := ht.map_name_values.symm ▸ ht.nodup
    rw [hsplit, List.map_append] at hnames
    exact hnames.of_append_left
  rw [registerInputs, registerConnections_eq_some_iff]
  constructor
  · rintro ⟨before, n, after, hsplit, h, hfail⟩
    exact ⟨before, n, after, hsplit, h, registered_of_registerConnections h (hbefore hsplit),
      (registerConnection_eq_error_iff_refuses h (hbefore hsplit)).mp hfail⟩
  · rintro ⟨before, n, after, hsplit, h, -, hrefuses⟩
    exact ⟨before, n, after, hsplit, h,
      (registerConnection_eq_error_iff_refuses h (hbefore hsplit)).mpr hrefuses⟩

end Inputs

/-- Registering all inputs of a topology that calls have led to. It succeeds exactly if every
connection leads to a declared node that is no source, and every processor gets one input at most,
the one it has included; then processors have their feeders as inputs, sinks list theirs after the
inputs they had, and once more adds nothing. It fails exactly if there is a connection that is
refused after those before it, with the fault of the first of these, and these stay registered. -/
theorem registerInputs_exactly (ht : t.Reached) :
    ((∃ t', t.registerInputs = (t', none)) ↔ t.Registrable) ∧
    (∀ t', t.registerInputs = (t', none) →
      t.Registered t.nodes.values t' ∧ t'.registerInputs = (t', none)) ∧
    ∀ t' f, t.registerInputs = (t', some f) ↔
      ∃ before n after, t.nodes.values = before ++ n :: after ∧
        t.registerConnections before = (t', none) ∧ t.Registered before t' ∧
        t.Refuses before n f := by
  have hwell := ht.sound.toWellFormed
  refine ⟨registerInputs_isOk_iff hwell, fun t' h => ⟨?_, registerInputs_again hwell h⟩,
    fun t' f => registerInputs_eq_some_iff hwell⟩
  exact registered_of_registerConnections h (hwell.map_name_values.symm ▸ hwell.nodup)

/-- Calls that declare a pipeline and register some inputs, one of which is no declared node. -/
def Call.fedBefore : List Call := [
  .declare (.source (.str "first") (.str "count")),
  .declare (.processor (.str "count") (.str "out") .null),
  .declare (.sink (.str "out")),
  .registerInput "first" "count" (.str "processor"),
  .registerInput "other" "out" (.str "sink")]

/-- One more source, whose processor has an input already. -/
def Call.second : Call := .declare (.source (.str "second") (.str "count"))

/-- The inputs can be registered before the second source is declared, and not any more after it. -/
theorem registerInputs_exactly_second :
    (run ⟨"demo", .empty⟩ Call.fedBefore).Reached ∧
    (run ⟨"demo", .empty⟩ Call.fedBefore).Registrable ∧
    (∃ t', (run ⟨"demo", .empty⟩ Call.fedBefore).registerInputs = (t', none) ∧
      t'.find? "out" = some (.sink "out" ["other", "count"]) ∧ t'.registerInputs = (t', none)) ∧
    (run ⟨"demo", .empty⟩ (Call.fedBefore ++ [Call.second])).Reached ∧
    ¬ (run ⟨"demo", .empty⟩ (Call.fedBefore ++ [Call.second])).Registrable ∧
    ∃ t', (run ⟨"demo", .empty⟩ (Call.fedBefore ++ [Call.second])).registerInputs =
        (t', some (.secondInput "count" "first" "second")) ∧
      t'.find? "out" = some (.sink "out" ["other", "count"]) := by
  have hreached : ∀ calls, (run ⟨"demo", .empty⟩ calls).Reached :=
    fun calls => ⟨some (.whole "demo"), _, calls, rfl, rfl⟩
  obtain ⟨hok, hdone, -⟩ := registerInputs_exactly (hreached Call.fedBefore)
  obtain ⟨hok', -, -⟩ := registerInputs_exactly (hreached (Call.fedBefore ++ [Call.second]))
  refine ⟨hreached _, hok.mp ⟨_, rfl⟩, ⟨_, rfl, rfl, (hdone _ rfl).2⟩, hreached _, ?_, _, rfl, rfl⟩
  rw [← hok']
  rintro ⟨t', h⟩
  cases h

end StreamMesh.Topology
