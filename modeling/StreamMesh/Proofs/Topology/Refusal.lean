import StreamMesh.Proofs.Pairing
import StreamMesh.Proofs.Topology.BackReference

/-!
# What a specification is refused for

Steps are declared one after the other. Each has to meet seven demands, which are tested in a fixed
order, and the first step that does not meet them all ends the reading with what is said of the
first demand that it does not meet. A step that is no processor but has an environment is warned of
when its turn comes, also if it is refused.

## Main definitions

* `Step.Demand`, `Step.Demand.Holds` — what a step has to meet after other steps
* `Step.Demand.Says`, `Step.Refused` — the failure of a step that does not meet a demand
* `Step.Fit` — steps that meet all demands
* `Step.warning?` — what is logged about a step
* `Failure.OfDeclaration` — the failures of steps that are refused
* `Step.Becomes` — what a node has of the step that it was

## Main results

* `Step.declares_or_refused` — a step is a node, or refused whatever comes before it
* `Topology.ends_declareSteps` — how the declaration of steps ends
* `Topology.ofSpec_eq_ok_iff` — which topology a specification declares
* `Topology.ofDeclaration_of_ofSpec_eq_error` — what is said of a specification that is refused
* `Topology.ofSpec_exactly` — the outcome and the log of a specification with a name and steps
-/

namespace StreamMesh

/-- The failure of a node whose connection is a text that is no string. -/
def NodeKind.illFormedConnection : NodeKind → Failure
  | .source => .invalid "SourceNode" [⟨[.key "connects_to"], .illFormedText⟩]
  | _ => .invalid "ProcessorNode" [⟨[.key "connects_to"], .illFormedText⟩]

/-- The failures of steps that are refused. -/
inductive Failure.OfDeclaration : Failure → Prop
  | missingField (field node) : OfDeclaration (.fault (.missingField field node))
  | invalidKind (kind allowed) : OfDeclaration (.fault (.invalidKind kind allowed))
  | duplicateName (name kind) : OfDeclaration (.fault (.duplicateName name kind))
  | sinkConnects (sink target) : OfDeclaration (.fault (.sinkConnects sink target))
  | illFormedConnection (kind : NodeKind) : OfDeclaration kind.illFormedConnection

namespace Step

/-- A step of a kind that has a connection. -/
def Connects (s : Step) : Prop :=
  s.kind = some (.whole NodeKind.source.text) ∨ s.kind = some (.whole NodeKind.processor.text)

/-- What a step has to meet after other steps, in the order in which it is tested. -/
inductive Demand where
  | kindGiven
  | kindKnown
  | sinkEnds
  | nameGiven
  | connectionGiven
  | connectionWhole
  | nameNew
  deriving DecidableEq, Repr

namespace Demand

/-- All demands, in order. -/
def all : List Demand :=
  [kindGiven, kindKnown, sinkEnds, nameGiven, connectionGiven, connectionWhole, nameNew]

/-- What a demand asks of a step after others. -/
def Holds (before : List Step) (s : Step) : Demand → Prop
  | kindGiven => s.kind ≠ none
  | kindKnown => ∀ word, s.kind = some word → ∃ k : NodeKind, word = .whole k.text
  | sinkEnds => s.kind = some (.whole NodeKind.sink.text) → s.connectsTo = none
  | nameGiven => ∃ a, s.name = some a ∧ a ≠ ""
  | connectionGiven => s.Connects → ∃ b, s.connectsTo = some b ∧ b ≠ .whole ""
  | connectionWhole =>
    s.Connects → ∀ b, s.connectsTo = some b → ∃ target : String, b = .whole target
  | nameNew => ∀ e ∈ before, e.name ≠ s.name

/-- The failure of a step that does not meet a demand. -/
inductive Says (before : List Step) (s : Step) : Demand → Failure → Prop
  | kindGiven {node : Option RawText} : node = s.name.map .whole →
    Says before s .kindGiven (.fault (.missingField "kind" node))
  | kindKnown {word : RawText} : s.kind = some word →
    Says before s .kindKnown (.fault (.invalidKind (.ofRaw word) NodeKind.allowed))
  | sinkEnds {b : RawText} : s.connectsTo = some b →
    Says before s .sinkEnds (.fault (.sinkConnects s.name b))
  | nameGiven : Says before s .nameGiven (.fault (.missingField "name" none))
  | connectionGiven {a : String} : s.name = some a →
    Says before s .connectionGiven (.fault (.missingField "connectsTo" (some (.whole a))))
  | connectionWhole {k : NodeKind} : s.kind = some (.whole k.text) →
    Says before s .connectionWhole k.illFormedConnection
  /-- The kind is that of the earlier step. -/
  | nameNew {e : Step} {a word : String} : e ∈ before → e.name = some a → s.name = some a →
    e.kind = some (.whole word) → Says before s .nameNew (.fault (.duplicateName a word))

/-- A demand that a step does not meet, while it meets all before it. -/
def FirstUnmet (before : List Step) (s : Step) (d : Demand) : Prop :=
  ¬ d.Holds before s ∧ ∀ q ∈ all.takeWhile (· != d), q.Holds before s

end Demand

theorem Demand.Says.ofDeclaration {before : List Step} {s : Step} {f : Failure} {d : Demand}
    (h : d.Says before s f) : f.OfDeclaration := by
  cases h with
  | kindGiven | nameGiven | connectionGiven => exact .missingField _ _
  | kindKnown => exact .invalidKind _ _
  | sinkEnds => exact .sinkConnects _ _
  | connectionWhole => exact .illFormedConnection _
  | nameNew => exact .duplicateName _ _

/-- A step is refused after others with the failure of the first demand that it does not meet. -/
def Refused (before : List Step) (s : Step) (f : Failure) : Prop :=
  ∃ d : Demand, d.FirstUnmet before s ∧ d.Says before s f

/-- Steps each of which meets all demands after those before it. -/
def Fit (steps : List Step) : Prop :=
  ∀ before s after, steps = before ++ s :: after → ∀ d : Demand, d.Holds before s

/-- What is logged about a step: an environment where its kind, if it is known, has none. -/
def warning? (s : Step) : Option Event :=
  ((s.kind.bind RawText.string?).bind NodeKind.ofText?).bind fun k =>
    if k ≠ .processor ∧ s.env ≠ [] then some (.envIgnored s.name k) else none

/-- What a node has of the step that it was: the name, the kind, the connection and, if it is a
processor, the environment, in which each name is at its first place with its last value. -/
structure Becomes (s : Step) (n : Node) : Prop where
  kind : s.kind = some (.whole n.kind.text)
  name : s.name = some n.name
  connectsTo : s.connectsTo = n.connectsTo?.map .whole
  inputs : n.inputs = []
  names : ∀ {a target input env}, n = .processor a target input env →
    env.keys = (s.env.map fun e => RawText.whole e.name).eraseDups
  values : ∀ {a target input env}, n = .processor a target input env →
    ∀ (x : String) v, env.find? (.whole x) = some v ↔
      ∃ before after, s.env = before ++ ⟨x, v⟩ :: after ∧ x ∉ after.map EnvEntry.name

variable {before steps : List Step} {s : Step} {n : Node} {f f' : Failure}

theorem Declares.becomes (h : s.Declares n) : s.Becomes n where
  kind := h.kind
  name := h.name
  connectsTo := h.connectsTo
  inputs := h.unfed_eq ▸ n.inputs_unfed
  names hn := by
    subst hn
    cases h
    exact s.keys_envTable
  values hn x v := by
    subst hn
    cases h
    exact find?_envTable_eq_some_iff

section Demand

/-- A step that declares a node meets all demands but that for a new name. -/
theorem Declares.holds (h : s.Declares n) {d : Demand} (hd : d ≠ .nameNew) :
    d.Holds before s := by
  cases d with
  | kindGiven =>
    intro hk
    exact nomatch hk.symm.trans h.kind
  | kindKnown =>
    intro word hword
    exact ⟨n.kind, Option.some.inj (hword.symm.trans h.kind)⟩
  | sinkEnds =>
    intro hk
    cases h with
    | source hk' | processor hk' => exact nomatch hk.symm.trans hk'
    | sink _ _ _ hto => exact hto
  | nameGiven => exact ⟨_, h.name, h.name_ne⟩
  | connectionGiven =>
    intro hk
    cases h with
    | source _ _ _ hb hbne | processor _ _ _ hb hbne =>
      exact ⟨_, hb, fun heq => hbne (RawText.whole.inj heq)⟩
    | sink hk' => rcases hk with hk | hk <;> exact nomatch hk.symm.trans hk'
  | connectionWhole =>
    intro hk b hb
    have hto := hb.symm.trans h.connectsTo
    cases hn : n.connectsTo? with
    | none => simp [hn] at hto
    | some target => exact ⟨target, by simpa [hn] using hto⟩
  | nameNew => exact absurd rfl hd

/-- A step cannot fail two demands first. -/
theorem Demand.FirstUnmet.unique {d d' : Demand} (h : d.FirstUnmet before s)
    (h' : d'.FirstUnmet before s) : d = d' := by
  -- of two demands one is tested before the other
  have hearlier : d = d' ∨ d ∈ all.takeWhile (· != d') ∨ d' ∈ all.takeWhile (· != d) := by
    cases d <;> cases d' <;> decide
  rcases hearlier with heq | hd | hd'
  · exact heq
  · exact absurd (h'.2 d hd) h.1
  · exact absurd (h.2 d' hd') h'.1

/-- Only one thing is said of a demand after steps whose names are distinct. -/
theorem Demand.Says.unique (hdistinct : (before.map Step.name).Nodup) {d : Demand}
    (h : d.Says before s f) (h' : d.Says before s f') : f = f' := by
  cases h with
  | kindGiven hnode =>
    cases h' with
    | kindGiven hnode' => rw [hnode, hnode']
  | nameGiven =>
    cases h'
    rfl
  | kindKnown hword =>
    cases h' with
    | kindKnown hword' => rw [Option.some.inj (hword.symm.trans hword')]
  | sinkEnds hb =>
    cases h' with
    | sinkEnds hb' => rw [Option.some.inj (hb.symm.trans hb')]
  | connectionGiven ha =>
    cases h' with
    | connectionGiven ha' => rw [Option.some.inj (ha.symm.trans ha')]
  | connectionWhole hk =>
    cases h' with
    | connectionWhole hk' =>
      rw [NodeKind.text_injective (RawText.whole.inj (Option.some.inj (hk.symm.trans hk')))]
  | nameNew he hea ha hk =>
    cases h' with
    | nameNew he' hea' ha' hk' =>
      obtain rfl := Option.some.inj (ha.symm.trans ha')
      obtain rfl := List.inj_on_of_nodup_map hdistinct he he' (hea.trans hea'.symm)
      rw [RawText.whole.inj (Option.some.inj (hk.symm.trans hk'))]

theorem Refused.unique (hdistinct : (before.map Step.name).Nodup) (h : s.Refused before f)
    (h' : s.Refused before f') : f = f' := by
  obtain ⟨d, hd, hf⟩ := h
  obtain ⟨d', hd', hf'⟩ := h'
  obtain rfl := hd.unique hd'
  exact hf.unique hdistinct hf'

theorem fit_append_singleton_iff :
    Fit (steps ++ [s]) ↔ Fit steps ∧ ∀ d : Demand, d.Holds steps s := by
  constructor
  · intro h
    refine ⟨fun before e after hsplit => ?_, h steps s [] rfl⟩
    exact h before e (after ++ [s]) (by rw [hsplit, List.append_assoc, List.cons_append])
  · rintro ⟨hsteps, hs⟩ before e after hsplit
    rcases List.eq_nil_or_concat after with rfl | ⟨after, x, rfl⟩
    · obtain ⟨rfl, he⟩ := List.append_inj' hsplit rfl
      cases he
      exact hs
    · rw [List.concat_eq_append, ← List.cons_append, ← List.append_assoc] at hsplit
      obtain ⟨rfl, -⟩ := List.append_inj' hsplit rfl
      exact hsteps before e after rfl

theorem filterMap_warning?_append_singleton : (steps ++ [s]).filterMap warning? =
    steps.filterMap warning? ++ s.warning?.toList := by
  rw [List.filterMap_append]
  cases h : s.warning? <;> simp [h]

theorem fit_nil : Fit [] := by
  intro before s after h
  simp at h

/-- A step is not fit where it is refused. -/
theorem Refused.not_fit (h : s.Refused before f) (after : List Step) :
    ¬ Fit (before ++ s :: after) := by
  obtain ⟨d, hd, -⟩ := h
  intro hfit
  exact hd.1 (hfit before s after rfl d)

theorem Fit.nodup_names (h : Fit steps) : (steps.map Step.name).Nodup := by
  induction steps using List.reverseRecOn with
  | nil => exact List.nodup_nil
  | append_singleton steps s ih =>
    obtain ⟨hsteps, hs⟩ := fit_append_singleton_iff.mp h
    have hnew : s.name ∉ steps.map Step.name := by
      intro hmem
      obtain ⟨e, he, heq⟩ := List.mem_map.mp hmem
      exact hs .nameNew e he heq
    rw [List.map_append, List.map_singleton]
    exact (List.perm_append_singleton _ _).nodup_iff.mpr (List.nodup_cons.mpr ⟨hnew, ih hsteps⟩)

/-- Of two steps that are refused after fit ones, none comes before the other. -/
theorem Refused.first_unique {before' after after' : List Step} {s' : Step}
    (heq : before ++ s :: after = before' ++ s' :: after') (hbefore : Fit before)
    (hs : s.Refused before f) (hbefore' : Fit before') (hs' : s'.Refused before' f') :
    before = before' ∧ s = s' := by
  rcases append_eq_append_cons_iff.mp heq with ⟨between, rfl, hrest⟩ | ⟨between, rfl, -⟩
  · cases between with
    | nil => exact ⟨(List.append_nil _).symm, (List.cons.inj hrest).1⟩
    | cons x between =>
      obtain ⟨rfl, -⟩ := List.cons.inj hrest
      exact absurd hbefore' (hs.not_fit between)
  · exact absurd hbefore (hs'.not_fit between)

end Demand

section Kind

/-- A word is the word for a kind, or is refused. -/
theorem parse_ofRaw (word : RawText) :
    (∃ k : NodeKind, word = .whole k.text ∧ NodeKind.parse (.ofRaw word) = .ok k) ∨
      (word.string?.bind NodeKind.ofText? = none ∧
        NodeKind.parse (.ofRaw word) = .error (.invalidKind (.ofRaw word) NodeKind.allowed)) := by
  cases word with
  | broken t => exact .inr ⟨rfl, rfl⟩
  | whole text =>
    simp only [Value.ofRaw, NodeKind.parse, RawText.string?, Option.bind_some]
    cases htext : NodeKind.ofText? text with
    | none => exact .inr ⟨rfl, rfl⟩
    | some k => exact .inl ⟨k, by rw [NodeKind.ofText?_eq_some_iff.mp htext], rfl⟩

/-- A step of unknown kind is refused whatever comes before it, and not warned of. -/
theorem refused_of_kind?_eq_error {e : Fault} (before : List Step) (h : s.kind? = .error e) :
    s.Refused before (.fault e) ∧ s.warning? = none := by
  unfold kind? at h
  split at h
  · -- a step without a kind, then one with a word that is none
    rename_i hk
    cases h
    refine ⟨⟨.kindGiven, ⟨fun h => h hk, by simp [Demand.all]⟩, .kindGiven ?_⟩, ?_⟩
    · cases s.name <;> rfl
    · rw [warning?, hk]
      rfl
  · rename_i word hk
    rcases parse_ofRaw word with ⟨k, -, hparse⟩ | ⟨hword, hparse⟩
    · rw [hparse] at h
      cases h
    · rw [hparse] at h
      cases h
      refine ⟨⟨.kindKnown, ⟨fun h => ?_, fun q hq => ?_⟩, .kindKnown hk⟩, ?_⟩
      · obtain ⟨k, rfl⟩ := h word hk
        rw [RawText.string?, Option.bind_some, NodeKind.ofText?_eq_some_iff.mpr rfl] at hword
        cases hword
      · obtain rfl : q = .kindGiven := by simpa [Demand.all] using hq
        intro hnone
        rw [hk] at hnone
        cases hnone
      · rw [warning?, hk, Option.bind_some, hword]
        rfl

/-- The log of a step of a known kind. -/
theorem toList_warning? {k : NodeKind} (h : s.kind? = .ok k) :
    s.warning?.toList = s.warnings k := by
  rw [warning?, kind?_eq_ok_iff.mp h, Option.bind_some, RawText.string?, Option.bind_some,
    NodeKind.ofText?_eq_some_iff.mpr rfl, Option.bind_some, warnings]
  split <;> rfl

end Kind

section Declared

variable {k : NodeKind} (hk : s.kind = some (.whole k.text))

include hk

/-- A step of a known kind meets the demands for a kind. -/
theorem holds_of_kind {d : Demand} (hd : d = .kindGiven ∨ d = .kindKnown) : d.Holds before s := by
  rcases hd with rfl | rfl
  · intro hnone
    exact nomatch hk.symm.trans hnone
  · intro word hword
    exact ⟨k, Option.some.inj (hword.symm.trans hk)⟩

theorem holds_sinkEnds (hsink : k = .sink → s.connectsTo = none) :
    Demand.sinkEnds.Holds before s :=
  fun h => hsink (NodeKind.text_injective (RawText.whole.inj (Option.some.inj (hk.symm.trans h))))

theorem refused_of_sink {b : RawText} (hsink : k = .sink) (hb : s.connectsTo = some b) :
    s.Refused before (.fault (.sinkConnects s.name b)) := by
  subst hsink
  refine ⟨.sinkEnds, ⟨fun h => ?_, fun q hq => ?_⟩, .sinkEnds hb⟩
  · exact nomatch hb.symm.trans (h hk)
  · exact holds_of_kind hk (by simpa [Demand.all] using hq)

theorem refused_of_no_name (hsink : k = .sink → s.connectsTo = none)
    (hname : Topology.given? s.name = none) :
    s.Refused before (.fault (.missingField "name" none)) := by
  refine ⟨.nameGiven, ⟨?_, fun q hq => ?_⟩, .nameGiven⟩
  · rintro ⟨a, ha, hne⟩
    exact hne (Topology.given?_eq_none_iff.mp hname a ha)
  · obtain hq | hq | rfl : q = .kindGiven ∨ q = .kindKnown ∨ q = .sinkEnds := by
      simpa [Demand.all] using hq
    · exact holds_of_kind hk (.inl hq)
    · exact holds_of_kind hk (.inr hq)
    · exact holds_sinkEnds hk hsink

theorem connects_of_ne_sink (hsink : k ≠ .sink) : s.Connects := by
  cases k with
  | source => exact .inl hk
  | processor => exact .inr hk
  | sink => exact absurd rfl hsink

theorem refused_of_no_connection {a : String} (hsink : k ≠ .sink) (ha : s.name = some a ∧ a ≠ "")
    (hto : Topology.givenRaw? s.connectsTo = none) :
    s.Refused before (.fault (.missingField "connectsTo" (some (.whole a)))) := by
  refine ⟨.connectionGiven, ⟨fun h => ?_, fun q hq => ?_⟩, .connectionGiven ha.1⟩
  · obtain ⟨b, hb, hne⟩ := h (connects_of_ne_sink hk hsink)
    exact hne (Topology.givenRaw?_eq_none_iff.mp hto b hb)
  · obtain hq | hq | rfl | rfl :
        q = .kindGiven ∨ q = .kindKnown ∨ q = .sinkEnds ∨ q = .nameGiven := by
      simpa [Demand.all] using hq
    · exact holds_of_kind hk (.inl hq)
    · exact holds_of_kind hk (.inr hq)
    · exact holds_sinkEnds hk fun h => absurd h hsink
    · exact ⟨a, ha⟩

theorem refused_of_broken_connection {a : String} {t : BrokenText} (hsink : k ≠ .sink)
    (ha : s.name = some a ∧ a ≠ "") (hto : s.connectsTo = some (.broken t)) :
    s.Refused before k.illFormedConnection := by
  refine ⟨.connectionWhole, ⟨fun h => ?_, fun q hq => ?_⟩, .connectionWhole hk⟩
  · obtain ⟨target, htarget⟩ := h (connects_of_ne_sink hk hsink) _ hto
    cases htarget
  · obtain hq | hq | rfl | rfl | rfl : q = .kindGiven ∨ q = .kindKnown ∨ q = .sinkEnds ∨
        q = .nameGiven ∨ q = .connectionGiven := by
      simpa [Demand.all] using hq
    · exact holds_of_kind hk (.inl hq)
    · exact holds_of_kind hk (.inr hq)
    · exact holds_sinkEnds hk fun h => absurd h hsink
    · exact ⟨a, ha⟩
    · exact fun _ => ⟨_, hto, nofun⟩

/-- Where a name and a connection are asked for, they are given, or the step is refused. -/
theorem given_or_refused {record : String} (hsink : k ≠ .sink)
    (hrecord : k.illFormedConnection = .invalid record [⟨[.key "connects_to"], .illFormedText⟩]) :
    (∃ a b : String, (s.name = some a ∧ a ≠ "") ∧ (s.connectsTo = some (.whole b) ∧ b ≠ "") ∧
      Topology.endpoints record s.name s.connectsTo = .ok (a, b)) ∨
    ∃ f, (∀ before, s.Refused before f) ∧
      Topology.endpoints record s.name s.connectsTo = .error f := by
  unfold Topology.endpoints
  cases hname : Topology.given? s.name with
  | none =>
    exact .inr ⟨_, fun _ => refused_of_no_name hk (fun h => absurd h hsink) hname, rfl⟩
  | some a =>
    have ha := Topology.given?_eq_some_iff.mp hname
    cases hto : Topology.givenRaw? s.connectsTo with
    | none => exact .inr ⟨_, fun _ => refused_of_no_connection hk hsink ha hto, rfl⟩
    | some b =>
      obtain ⟨hb, hne⟩ := Topology.givenRaw?_eq_some_iff.mp hto
      cases b with
      | whole b => exact .inl ⟨a, b, ha, ⟨hb, fun heq => hne (congrArg _ heq)⟩, rfl⟩
      | broken t => exact .inr ⟨_, fun _ => refused_of_broken_connection hk hsink ha hb, by
          rw [hrecord]⟩

/-- A step of a known kind declares a node, which is then added, or is refused whatever comes before
it. -/
theorem declares_or_refused :
    (∃ n, s.Declares n ∧ ∀ t, s.declare k t = Failure.ofFault (t.add n)) ∨
    ∃ f, (∀ before, s.Refused before f) ∧ ∀ t, s.declare k t = .error f := by
  cases k with
  | source =>
    -- both a name and a target are asked for
    rcases given_or_refused hk (by decide) rfl with ⟨a, b, ha, hb, hgiven⟩ | ⟨f, hf, herror⟩
    · refine .inl ⟨_, .source hk ha.1 ha.2 hb.1 hb.2, fun t => ?_⟩
      rw [declare, Topology.declareSource, hgiven]
      rfl
    · refine .inr ⟨f, hf, fun t => ?_⟩
      rw [declare, Topology.declareSource, herror]
      rfl
  | processor =>
    rcases given_or_refused hk (by decide) rfl with ⟨a, b, ha, hb, hgiven⟩ | ⟨f, hf, herror⟩
    · refine .inl ⟨_, .processor hk ha.1 ha.2 hb.1 hb.2, fun t => ?_⟩
      rw [declare, Topology.declareProcessor, hgiven]
      rfl
    · refine .inr ⟨f, hf, fun t => ?_⟩
      rw [declare, Topology.declareProcessor, herror]
      rfl
  | sink =>
    cases hto : s.connectsTo with
    | some b =>
      refine .inr ⟨_, fun _ => refused_of_sink hk rfl hto, fun t => ?_⟩
      rw [declare, hto]
    | none =>
      cases hname : Topology.given? s.name with
      | none =>
        refine .inr ⟨_, fun _ => refused_of_no_name hk (fun _ => hto) hname, fun t => ?_⟩
        simp only [declare, hto, Topology.declareSink, hname, Failure.ofFault]
      | some a =>
        have ha := Topology.given?_eq_some_iff.mp hname
        refine .inl ⟨_, .sink hk ha.1 ha.2 hto, fun t => ?_⟩
        simp only [declare, hto, Topology.declareSink, hname]

end Declared

end Step

namespace Topology

variable {before steps : List Step} {nodes : List Node} {s : Step} {n : Node} {name : RawText}
  {t : Topology} {f : Failure}

/-- The node of a step is added after those of the steps before it, if the step's name is new; it is
refused otherwise. -/
theorem add_ofNodes (name : RawText) (hnodes : List.Forall₂ Step.Declares before nodes)
    (hdistinct : (nodes.map Node.name).Nodup) (hn : s.Declares n) :
    (Step.Demand.nameNew.Holds before s ∧
      (ofNodes name nodes).add n = .ok (ofNodes name (nodes ++ [n]))) ∨
    ∃ f, s.Refused before (.fault f) ∧ (ofNodes name nodes).add n = .error f := by
  cases hfind : (ofNodes name nodes).find? n.name with
  | none =>
    have hnew : n.name ∉ (ofNodes name nodes).names := Assoc.find?_eq_none_iff.mp hfind
    refine .inl ⟨fun e he heq => hnew ?_, add_eq_ok_iff.mpr ⟨hnew, by simp [ofNodes]⟩⟩
    obtain ⟨m, hm, hem⟩ := exists_right_of_forall₂ hnodes he
    have hname : m.name = n.name := Option.some.inj (hem.name.symm.trans (heq.trans hn.name))
    rw [names_ofNodes, ← hname]
    exact List.mem_map_of_mem hm
  | some known =>
    obtain ⟨hmem, hname⟩ := (find?_ofNodes hdistinct).mp hfind
    obtain ⟨e, he, hknown⟩ := exists_left_of_forall₂ hnodes hmem
    have hsame : e.name = s.name := by rw [hknown.name, hn.name, hname]
    have hunmet : Step.Demand.nameNew.FirstUnmet before s := by
      refine ⟨fun h => h e he hsame, fun q hq => hn.holds ?_⟩
      rintro rfl
      simp [Step.Demand.all] at hq
    refine .inr ⟨.duplicateName n.name known.kind.text, ⟨.nameNew, hunmet, ?_⟩, ?_⟩
    · exact .nameNew he (hsame.trans hn.name) hn.name hknown.kind
    · simp only [add, hfind]

section Steps

variable {more : List Step} {events : List Event}

/-- Steps after a fault are not read. -/
theorem declareSteps_append_of_error (h : t.declareSteps steps = (events, .error f)) :
    t.declareSteps (steps ++ more) = (events, .error f) := by
  induction steps generalizing t events with
  | nil => cases h
  | cons s rest ih =>
    rw [List.cons_append]
    unfold declareSteps at h ⊢
    cases hk : s.kind? with
    | error f' => simpa [hk] using h
    | ok k =>
      simp only [hk] at h ⊢
      cases hd : s.declare k t with
      | error f' => simpa [hd] using h
      | ok t₁ =>
        simp only [hd, Prod.mk.injEq] at h ⊢
        have hrest := ih (Prod.ext rfl h.2)
        rw [hrest]
        exact ⟨h.1, rfl⟩

/-- Steps after others are read where the others end. -/
theorem declareSteps_append_of_ok {t' : Topology} (h : t.declareSteps steps = (events, .ok t')) :
    t.declareSteps (steps ++ more) =
      (events ++ (t'.declareSteps more).1, (t'.declareSteps more).2) := by
  induction steps generalizing t events with
  | nil =>
    cases h
    rfl
  | cons s rest ih =>
    rw [List.cons_append]
    unfold declareSteps at h
    conv_lhs => unfold declareSteps
    cases hk : s.kind? with
    | error f' => simp [hk] at h
    | ok k =>
      simp only [hk] at h ⊢
      cases hd : s.declare k t with
      | error f' => simp [hd] at h
      | ok t₁ =>
        simp only [hd, Prod.mk.injEq] at h ⊢
        obtain ⟨rfl, h⟩ := h
        rw [ih (Prod.ext rfl h), List.append_assoc]
        exact ⟨rfl, rfl⟩

/-- One step after others is their next node, or refused. -/
theorem declareSteps_singleton (name : RawText) (s : Step)
    (hnodes : List.Forall₂ Step.Declares before nodes)
    (hdistinct : (nodes.map Node.name).Nodup) :
    (∃ n, s.Declares n ∧ Step.Demand.nameNew.Holds before s ∧
      (ofNodes name nodes).declareSteps [s] =
        (s.warning?.toList, .ok (ofNodes name (nodes ++ [n])))) ∨
    ∃ f, s.Refused before f ∧
      (ofNodes name nodes).declareSteps [s] = (s.warning?.toList, .error f) := by
  unfold declareSteps
  cases hk : s.kind? with
  | error f =>
    obtain ⟨hf, hwarning⟩ := Step.refused_of_kind?_eq_error before hk
    exact .inr ⟨.fault f, hf, by rw [hwarning]; rfl⟩
  | ok k =>
    simp only [Step.toList_warning? hk]
    rcases Step.declares_or_refused (Step.kind?_eq_ok_iff.mp hk) with
      ⟨n, hn, hdeclare⟩ | ⟨f, hf, hdeclare⟩
    · rw [hdeclare]
      rcases add_ofNodes name hnodes hdistinct hn with ⟨hnew, hadd⟩ | ⟨f, hf, hadd⟩
      · refine .inl ⟨n, hn, hnew, ?_⟩
        simp [hadd, declareSteps, Failure.ofFault]
      · exact .inr ⟨.fault f, hf, by rw [hadd, Failure.ofFault]⟩
    · exact .inr ⟨f, hf before, by rw [hdeclare]⟩

theorem map_name_of_declares (hnodes : List.Forall₂ Step.Declares steps nodes) :
    steps.map Step.name = (nodes.map Node.name).map some := by
  rw [List.map_map]
  exact (map_eq_map_of_forall₂ hnodes fun _ _ h => h.name.symm).symm

theorem nodup_names (hsteps : Step.Fit steps) (hnodes : List.Forall₂ Step.Declares steps nodes) :
    (nodes.map Node.name).Nodup := by
  refine List.Nodup.of_map some ?_
  rw [← map_name_of_declares hnodes]
  exact hsteps.nodup_names

/-- Steps that declare nodes of distinct names meet all demands. -/
theorem fit_of_declares (hnodes : List.Forall₂ Step.Declares steps nodes)
    (hdistinct : (nodes.map Node.name).Nodup) : Step.Fit steps := by
  have hnames : (steps.map Step.name).Nodup := by
    rw [map_name_of_declares hnodes]
    exact hdistinct.map fun _ _ => Option.some.inj
  rintro before s after rfl d
  obtain ⟨n, -, hn⟩ := exists_right_of_forall₂ hnodes
    (List.mem_append_right before (List.mem_cons_self ..))
  by_cases hd : d = .nameNew
  · subst hd
    intro e he heq
    rw [List.map_append, List.map_cons] at hnames
    exact List.disjoint_of_nodup_append hnames (List.mem_map_of_mem he)
      (heq ▸ List.mem_cons_self ..)
  · exact hn.holds hd

/-- How the declaration of steps ends, and what it logs: all steps are nodes, or the first that does
not meet all demands is refused. -/
inductive Ends (name : RawText) (steps : List Step) :
    List Event × Except Failure Topology → Prop
  | declared {nodes : List Node} : Step.Fit steps → List.Forall₂ Step.Declares steps nodes →
    Ends name steps (steps.filterMap Step.warning?, .ok (ofNodes name nodes))
  | refused {before after : List Step} {s : Step} {f : Failure} : steps = before ++ s :: after →
    Step.Fit before → s.Refused before f →
    Ends name steps ((before ++ [s]).filterMap Step.warning?, .error f)

theorem ends_declareSteps (name : RawText) (steps : List Step) :
    Ends name steps ((ofNodes name []).declareSteps steps) := by
  -- the last step is read where the others end
  induction steps using List.reverseRecOn with
  | nil => exact .declared Step.fit_nil .nil
  | append_singleton steps s ih =>
    rcases hend : (ofNodes name []).declareSteps steps with ⟨events, f | t⟩
    · rw [hend] at ih
      rw [declareSteps_append_of_error hend]
      cases ih with
      | @refused before after e _ hsplit hfit he =>
        have hsplit' : steps ++ [s] = before ++ e :: (after ++ [s]) := by
          rw [hsplit, List.append_assoc, List.cons_append]
        exact .refused hsplit' hfit he
    · rw [hend] at ih
      rw [declareSteps_append_of_ok hend]
      cases ih with
      | @declared nodes hfit hnodes =>
        rcases declareSteps_singleton name s hnodes (nodup_names hfit hnodes) with
          ⟨n, hn, hnew, hrun⟩ | ⟨f, hf, hrun⟩
        · have hs : ∀ d : Step.Demand, d.Holds steps s := by
            intro d
            by_cases hd : d = .nameNew
            · exact hd ▸ hnew
            · exact hn.holds hd
          have hall : Ends name (steps ++ [s]) _ :=
            .declared (Step.fit_append_singleton_iff.mpr ⟨hfit, hs⟩)
              (List.rel_append hnodes (.cons hn .nil))
          rwa [hrun, ← Step.filterMap_warning?_append_singleton]
        · have hlast : Ends name (steps ++ [s]) _ := .refused rfl hfit hf
          rwa [hrun, ← Step.filterMap_warning?_append_singleton]

theorem declareSteps_eq_error_iff (name : RawText) :
    (ofNodes name []).declareSteps steps = (events, .error f) ↔
      ∃ before s after, steps = before ++ s :: after ∧ Step.Fit before ∧ s.Refused before f ∧
        events = (before ++ [s]).filterMap Step.warning? := by
  have hends := ends_declareSteps name steps
  constructor
  · intro h
    rw [h] at hends
    cases hends with
    | refused hsplit hfit hs => exact ⟨_, _, _, hsplit, hfit, hs, rfl⟩
  · rintro ⟨before, s, after, rfl, hfit, hs, rfl⟩
    generalize (ofNodes name []).declareSteps (before ++ s :: after) = outcome at hends ⊢
    cases hends with
    | declared hall => exact absurd hall (hs.not_fit after)
    | refused hsplit hfit' hs' =>
      obtain ⟨rfl, rfl⟩ := Step.Refused.first_unique hsplit hfit hs hfit' hs'
      rw [hs.unique hfit.nodup_names hs']

theorem exists_of_declareSteps_eq_ok (h : (ofNodes name []).declareSteps steps = (events, .ok t)) :
    Step.Fit steps ∧ (∃ nodes, List.Forall₂ Step.Declares steps nodes ∧ t = ofNodes name nodes) ∧
      events = steps.filterMap Step.warning? := by
  have hends := ends_declareSteps name steps
  rw [h] at hends
  cases hends with
  | declared hfit hnodes => exact ⟨hfit, ⟨_, hnodes, rfl⟩, rfl⟩

theorem exists_declareSteps_eq_ok (name : RawText) (h : Step.Fit steps) :
    ∃ nodes, List.Forall₂ Step.Declares steps nodes ∧ (ofNodes name []).declareSteps steps =
      (steps.filterMap Step.warning?, .ok (ofNodes name nodes)) := by
  have hends := ends_declareSteps name steps
  generalize (ofNodes name []).declareSteps steps = outcome at hends ⊢
  cases hends with
  | declared _ hnodes => exact ⟨_, hnodes, rfl⟩
  | refused hsplit _ hs => exact absurd (hsplit ▸ h) (hs.not_fit _)

end Steps

section Spec

variable {spec : Spec} {events : List Event}

/-- A specification with a name and steps is read as its steps are declared. -/
theorem ofSpec_of_steps (hname : spec.name = some name) (hne : name ≠ .whole "")
    (hsteps : spec.steps = some steps) :
    ofSpec spec = match (ofNodes name []).declareSteps steps with
      | (events, .ok t) => (events ++ [t.ingestedEvent], .ok t)
      | (events, .error f) => (events, .error f) := by
  have hgiven : givenRaw? spec.name = some name := givenRaw?_eq_some_iff.mpr ⟨hname, hne⟩
  simp only [ofSpec, named, hgiven, hsteps]
  rfl

/-- A specification without a name or steps is refused for this. -/
theorem exists_steps_or_missing (spec : Spec) :
    (∃ name steps, spec.name = some name ∧ name ≠ .whole "" ∧ spec.steps = some steps) ∨
      ∃ field node, ofSpec spec = ([], .error (.fault (.missingField field node))) := by
  cases hgiven : givenRaw? spec.name with
  | none => exact .inr ⟨"name", none, by simp only [ofSpec, named, hgiven]⟩
  | some name =>
    obtain ⟨hname, hne⟩ := givenRaw?_eq_some_iff.mp hgiven
    cases hsteps : spec.steps with
    | none => exact .inr ⟨"steps", spec.name, by simp only [ofSpec, named, hgiven, hsteps]⟩
    | some steps => exact .inl ⟨name, steps, hname, hne, rfl⟩

/-- A specification that declares no topology is refused for what its steps lack or repeat. -/
theorem ofDeclaration_of_ofSpec_eq_error (h : (ofSpec spec).2 = .error f) : f.OfDeclaration := by
  rcases exists_steps_or_missing spec with ⟨name, steps, hname, hne, hsteps⟩ | ⟨_, _, hmissing⟩
  · rw [ofSpec_of_steps hname hne hsteps] at h
    split at h
    · cases h
    · rename_i hrun
      cases h
      obtain ⟨_, _, _, -, -, ⟨_, -, hs⟩, -⟩ := (declareSteps_eq_error_iff _).mp hrun
      exact hs.ofDeclaration
  · rw [hmissing] at h
    cases h
    exact .missingField _ _

/-- A specification declares a topology exactly if it has a name and steps, each step declares a
node, and the names of the nodes are distinct. -/
theorem ofSpec_eq_ok_iff : (ofSpec spec).2 = .ok t ↔
    ∃ name steps nodes, spec.name = some name ∧ name ≠ .whole "" ∧ spec.steps = some steps ∧
      List.Forall₂ Step.Declares steps nodes ∧ (nodes.map Node.name).Nodup ∧
      t = ofNodes name nodes := by
  constructor
  · intro h
    rcases exists_steps_or_missing spec with ⟨name, steps, hname, hne, hsteps⟩ | ⟨_, _, hmissing⟩
    · rw [ofSpec_of_steps hname hne hsteps] at h
      split at h
      · rename_i hrun
        cases h
        obtain ⟨hfit, ⟨nodes, hnodes, rfl⟩, -⟩ := exists_of_declareSteps_eq_ok hrun
        exact ⟨name, steps, nodes, hname, hne, hsteps, hnodes, nodup_names hfit hnodes, rfl⟩
      · cases h
    · rw [hmissing] at h
      cases h
  · rintro ⟨name, steps, nodes, hname, hne, hsteps, hnodes, hdistinct, rfl⟩
    obtain ⟨nodes', hnodes', hrun⟩ :=
      exists_declareSteps_eq_ok name (fit_of_declares hnodes hdistinct)
    -- no other nodes are declared than the given ones
    have hunique : Relator.RightUnique Step.Declares := fun _ _ _ => Step.Declares.unique
    obtain rfl : nodes' = nodes := List.right_unique_forall₂' hunique hnodes' hnodes
    rw [ofSpec_of_steps hname hne hsteps, hrun]

/-- A specification with a name and steps declares a topology exactly if its steps are fit. The
nodes are then what the steps become, in their order. Otherwise the first step that does not meet
all demands is refused. Environments are warned of up to there. -/
theorem ofSpec_exactly (hname : spec.name = some name) (hne : name ≠ .whole "")
    (hsteps : spec.steps = some steps) :
    ((∃ events t, ofSpec spec = (events, .ok t)) ↔ Step.Fit steps) ∧
    (∀ events t, ofSpec spec = (events, .ok t) →
      t.name = name ∧ List.Forall₂ Step.Becomes steps t.nodes.values ∧
      t.names = t.nodes.values.map Node.name ∧ t.names.Nodup ∧
      events = steps.filterMap Step.warning? ++ [t.ingestedEvent]) ∧
    ∀ events f, ofSpec spec = (events, .error f) ↔
      ∃ before s after, steps = before ++ s :: after ∧ Step.Fit before ∧ s.Refused before f ∧
        events = (before ++ [s]).filterMap Step.warning? := by
  rw [ofSpec_of_steps hname hne hsteps]
  refine ⟨⟨?_, fun hfit => ?_⟩, fun events t h => ?_, fun events f => ?_⟩
  · -- the steps are declared one after the other, which ends in one of two ways
    rintro ⟨events, t, h⟩
    split at h
    · rename_i hrun
      exact (exists_of_declareSteps_eq_ok hrun).1
    · cases h
  · obtain ⟨nodes, -, hrun⟩ := exists_declareSteps_eq_ok name hfit
    exact ⟨_, _, by rw [hrun]⟩
  · split at h
    · rename_i hrun
      cases h
      obtain ⟨hfit, ⟨nodes, hnodes, rfl⟩, rfl⟩ := exists_of_declareSteps_eq_ok hrun
      have hvalues : (ofNodes name nodes).nodes.values = nodes := values_ofNodes name nodes
      refine ⟨rfl, ?_, ?_, ?_, rfl⟩
      · rw [hvalues]
        exact hnodes.imp fun _ _ hn => hn.becomes
      · rw [names_ofNodes, hvalues]
      · rw [names_ofNodes]
        exact nodup_names hfit hnodes
    · cases h
  · rw [← declareSteps_eq_error_iff name]
    split
    · rename_i hrun
      simp [hrun]
    · rename_i hrun
      rw [hrun]

/-- Steps of a pipeline in which a variable is set twice and a sink has an environment. -/
def doubled : List Step := [
  ⟨some "read", some "source", some "count", []⟩,
  ⟨some "count", some "processor", some "out", [⟨"LEVEL", "1"⟩, ⟨"MODE", "fast"⟩, ⟨"LEVEL", "2"⟩]⟩,
  ⟨some "out", some "sink", none, [⟨"LEVEL", "3"⟩]⟩]

/-- A source under the name of the sink, and a step without a kind. Both have environments. -/
def unfit : List Step := [
  ⟨some "out", some "source", some "count", [⟨"LEVEL", "4"⟩]⟩,
  ⟨some "late", none, none, [⟨"LEVEL", "5"⟩]⟩]

/-- The steps declare a topology, and not any more with the others after them, of which the first is
refused and the second not read. -/
theorem ofSpec_exactly_doubled :
    Step.Fit doubled ∧
    (∃ t, ofSpec ⟨some "demo", some doubled⟩ =
        ([.envIgnored (some "out") .sink, t.ingestedEvent], .ok t) ∧
      List.Forall₂ Step.Becomes doubled t.nodes.values) ∧
    ¬ Step.Fit (doubled ++ unfit) ∧
    ofSpec ⟨some "demo", some (doubled ++ unfit)⟩ =
      ([.envIgnored (some "out") .sink, .envIgnored (some "out") .source],
        .error (.fault (.duplicateName "out" "sink"))) ∧
    ∃ before s after, doubled ++ unfit = before ++ s :: after ∧ Step.Fit before ∧
      s.Refused before (.fault (.duplicateName "out" "sink")) := by
  obtain ⟨hok, hdone, -⟩ := ofSpec_exactly
    (rfl : Spec.name ⟨some "demo", some doubled⟩ = some "demo") (by decide) rfl
  obtain ⟨hok', -, hfail⟩ := ofSpec_exactly
    (rfl : Spec.name ⟨some "demo", some (doubled ++ unfit)⟩ = some "demo") (by decide) rfl
  obtain ⟨before, s, after, hsplit, hfit, hs, -⟩ := (hfail _ _).mp rfl
  refine ⟨hok.mp ⟨_, _, rfl⟩, ⟨_, rfl, (hdone _ _ rfl).2.1⟩, ?_, rfl,
    before, s, after, hsplit, hfit, hs⟩
  rw [← hok']
  rintro ⟨events, t, h⟩
  cases h

/-- A source whose connection is a text that is no string. -/
def halfConnected : Step := ⟨some "in", some "source", some (.broken .half), []⟩

/-- The source meets all demands but that its connection is a string, and is refused for this. A
specification with it passes its check. -/
theorem halfConnected_refused :
    (∃ v, Spec.check v = .accepted ⟨some "demo", some [halfConnected]⟩) ∧
    (∀ d : Step.Demand, d ≠ .connectionWhole → d.Holds [] halfConnected) ∧
    ¬ Step.Fit [halfConnected] ∧
    ofSpec ⟨some "demo", some [halfConnected]⟩ =
      ([], .error (.invalid "SourceNode" [⟨[.key "connects_to"], .illFormedText⟩])) := by
  refine ⟨⟨.map [(.str "name", .str "demo"), (.str "steps", .list [.map [(.str "name", .str "in"),
    (.str "kind", .str "source"), (.str "connects_to", .brokenStr .half)]])], rfl⟩, ?_, ?_, rfl⟩
  · intro d hd
    cases d with
    | kindGiven => exact nofun
    | kindKnown =>
      rintro _ ⟨⟩
      exact ⟨.source, rfl⟩
    | sinkEnds => exact nofun
    | nameGiven => exact ⟨"in", rfl, by decide⟩
    | connectionGiven => exact fun _ => ⟨_, rfl, nofun⟩
    | connectionWhole => exact absurd rfl hd
    | nameNew => exact List.forall_mem_nil _
  · intro hfit
    obtain ⟨target, htarget⟩ := hfit [] halfConnected [] rfl .connectionWhole (.inl rfl) _ rfl
    cases htarget

end Spec

end Topology

end StreamMesh
