import Mathlib.Logic.Relation
import StreamMesh.Proofs.Label
import StreamMesh.Proofs.Schema.Stable
import StreamMesh.Proofs.Topology.Ingest

/-!
# Pipelines as they are declared

What a specification says of its nodes and connections, in terms of its steps alone. A step's place
in the list plays no part in any of this.

## Main definitions

* `Spec.Has`, `Spec.Connects` — the nodes and the connections that a specification declares
* `Spec.Declared`, `Spec.Legal`, `Spec.Acyclic`, `Spec.SingleInput` — the conditions for a plan
* `Spec.Validated`, `Spec.Named` — specifications that come from a document, and what this says of
  the names of their steps
-/

namespace StreamMesh

open Relation

namespace Spec

/-- The steps of a specification; none if it has no list of them. -/
def stepList (spec : Spec) : List Step := spec.steps.getD []

/-- A step declares a node of a kind under a name. -/
def Has (spec : Spec) (k : NodeKind) (a : String) : Prop :=
  ∃ s ∈ spec.stepList, s.kind = some (.whole k.text) ∧ s.name = some a

/-- The step of one name connects to another name. -/
def Connects (spec : Spec) (a b : String) : Prop :=
  ∃ s ∈ spec.stepList, s.name = some a ∧ s.connectsTo = some (.whole b)

end Spec

/-- A step has a kind, a name, and a connection if and only if it is no sink. -/
structure Step.Complete (s : Step) : Prop where
  kind : ∃ k : NodeKind, s.kind = some (.whole k.text)
  name : ∃ a, s.name = some a ∧ a ≠ ""
  sink : s.kind = some (.whole NodeKind.sink.text) → s.connectsTo = none
  origin : s.kind ≠ some (.whole NodeKind.sink.text) →
    ∃ b : String, s.connectsTo = some (.whole b) ∧ b ≠ ""

namespace Spec

/-- The pipeline has a name and steps, every step is complete, and their names are distinct. -/
structure Declared (spec : Spec) : Prop where
  name : ∃ name : RawText, spec.name = some name ∧ name ≠ .whole ""
  steps : spec.steps ≠ none
  complete : ∀ s ∈ spec.stepList, s.Complete
  distinct : (spec.stepList.map Step.name).Nodup

/-- Sources connect to processors, and processors to processors or sinks. -/
def Legal (spec : Spec) : Prop :=
  ∀ a b, spec.Connects a b → (spec.Has .source a → spec.Has .processor b) ∧
    (spec.Has .processor a → spec.Has .processor b ∨ spec.Has .sink b)

/-- The connections do not run in a circle. -/
def Acyclic (spec : Spec) : Prop := ∀ a, ¬ TransGen spec.Connects a a

/-- No processor is named by two different steps. -/
def SingleInput (spec : Spec) : Prop :=
  ∀ s ∈ spec.stepList, ∀ s' ∈ spec.stepList, ∀ b, spec.Has .processor b →
    s.connectsTo = some (.whole b) → s'.connectsTo = some (.whole b) → s = s'

end Spec

/-- A text names one kind. -/
theorem NodeKind.eq_of_text {raw : Option RawText} {j k : NodeKind}
    (hj : raw = some (.whole j.text)) (hk : raw = some (.whole k.text)) : j = k :=
  text_injective (RawText.whole.inj (Option.some.inj (hj.symm.trans hk)))

namespace Spec

variable {spec : Spec} {a b : String} {k : NodeKind}

theorem Declared.name_ne (h : spec.Declared) {s : Step} (hs : s ∈ spec.stepList)
    (ha : s.name = some a) : a ≠ "" := by
  obtain ⟨a', ha', hne⟩ := (h.complete s hs).name
  exact Option.some.inj (ha'.symm.trans ha) ▸ hne

/-- Steps of one name are one step. -/
theorem Declared.eq_of_name (h : spec.Declared) {s s' : Step} (hs : s ∈ spec.stepList)
    (hs' : s' ∈ spec.stepList) (hname : s.name = s'.name) : s = s' :=
  List.inj_on_of_nodup_map h.distinct hs hs' hname

theorem Declared.kind_unique (h : spec.Declared) {j : NodeKind} (hj : spec.Has j a)
    (hk : spec.Has k a) : j = k := by
  obtain ⟨s, hs, hsk, hsa⟩ := hj
  obtain ⟨s', hs', hsk', hsa'⟩ := hk
  obtain rfl := h.eq_of_name hs hs' (hsa.trans hsa'.symm)
  exact NodeKind.eq_of_text hsk hsk'

/-- A step has one connection. -/
theorem Declared.connects_unique (h : spec.Declared) {x y : String} (hx : spec.Connects a x)
    (hy : spec.Connects a y) : x = y := by
  obtain ⟨s, hs, hsa, hsx⟩ := hx
  obtain ⟨s', hs', hsa', hsy⟩ := hy
  obtain rfl := h.eq_of_name hs hs' (hsa.trans hsa'.symm)
  exact RawText.whole.inj (Option.some.inj (hsx.symm.trans hsy))

/-- Where a connection starts there is a source or a processor. -/
theorem Declared.has_of_connects (h : spec.Declared) (hab : spec.Connects a b) :
    spec.Has .source a ∨ spec.Has .processor a := by
  obtain ⟨s, hs, ha, hb⟩ := hab
  obtain ⟨k, hk⟩ := (h.complete s hs).kind
  cases k with
  | source => exact .inl ⟨s, hs, hk, ha⟩
  | processor => exact .inr ⟨s, hs, hk, ha⟩
  | sink =>
    rw [(h.complete s hs).sink hk] at hb
    cases hb

/-- A connection leads to a processor or a sink. -/
theorem Legal.has_of_connects (h : spec.Legal) (hdeclared : spec.Declared)
    (hab : spec.Connects a b) : spec.Has .processor b ∨ spec.Has .sink b := by
  obtain ⟨hsource, hprocessor⟩ := h a b hab
  rcases hdeclared.has_of_connects hab with ha | ha
  · exact .inl (hsource ha)
  · exact hprocessor ha

/-- A processor has one feeder at most. -/
theorem SingleInput.unique (h : spec.SingleInput) {x y : String} (hb : spec.Has .processor b)
    (hx : spec.Connects x b) (hy : spec.Connects y b) : x = y := by
  obtain ⟨s, hs, hsx, hsb⟩ := hx
  obtain ⟨s', hs', hsy, hsb'⟩ := hy
  obtain rfl := h s hs s' hs' b hb hsb hsb'
  exact Option.some.inj (hsx.symm.trans hsy)

/-- Connections that lead upwards in some rank do not run in a circle. -/
theorem acyclic_of_lt (rank : String → Nat) (h : ∀ a b, spec.Connects a b → rank a < rank b) :
    spec.Acyclic := by
  have hlt : ∀ {a b}, TransGen spec.Connects a b → rank a < rank b := fun hab => by
    induction hab with
    | single hab => exact h _ _ hab
    | tail _ hbc ih => exact Nat.lt_trans ih (h _ _ hbc)
  exact fun a ha => Nat.lt_irrefl _ (hlt ha)

end Spec

section Validated

open Schema Schema.Checked

/-- A specification that comes from a document. -/
def Spec.Validated (spec : Spec) : Prop := ∃ v, Spec.check v = .accepted spec

/-- The names of steps, unless they are empty, are labels. -/
def Spec.Named (spec : Spec) : Prop :=
  ∀ s ∈ spec.stepList, ∀ a, s.name = some a → a ≠ "" → Label.isStepName a = true

/-- An accepted name has no defect. -/
theorem Step.nameDefect?_of_checkName {v : Value} {a : String}
    (h : Step.checkName v = .accepted a) : Step.nameDefect? a = none := by
  obtain ⟨text, -, h⟩ := bind_eq_accepted_iff.mp h
  cases text with
  | broken t => cases h
  | whole s =>
    dsimp only at h
    split at h
    · rename_i hrule
      cases h
      exact hrule
    · cases h

theorem Step.isStepName_of_check {v : Value} {s : Step} {a : String}
    (h : Step.check v = .accepted s)
    (ha : s.name = some a) (hne : a ≠ "") : Label.isStepName a = true := by
  obtain ⟨m, -, -, h⟩ := record_eq_accepted_iff.mp h
  simp only [seqLeft_eq_accepted_iff, seq_eq_accepted_iff, map_eq_accepted_iff] at h
  obtain ⟨⟨_, _, ⟨_, _, ⟨_, _, ⟨name, hname, rfl⟩, -, rfl⟩, -, rfl⟩, -, rfl⟩, -⟩ := h
  have hname' : name = some a := ha
  rcases absent_or_exists_of_optional hname with rfl | ⟨_, hv⟩
  · cases hname'
  · rcases none_or_exists_of_nullable hv with rfl | ⟨_, b, rfl, hb⟩
    · cases hname'
    · cases hname'
      have hrule : Step.nameDefect? a = none := Step.nameDefect?_of_checkName hb
      unfold Step.nameDefect? at hrule
      split at hrule
      · rename_i hok
        rcases Bool.or_eq_true_iff.mp hok with hempty | hlabel
        · exact absurd (String.isEmpty_iff.mp hempty) hne
        · exact hlabel
      · cases hrule

theorem Spec.Validated.named {spec : Spec} (h : spec.Validated) : spec.Named := by
  obtain ⟨v, h⟩ := h
  obtain ⟨m, -, -, h⟩ := record_eq_accepted_iff.mp h
  simp only [seqLeft_eq_accepted_iff, seq_eq_accepted_iff, map_eq_accepted_iff] at h
  obtain ⟨⟨_, steps, ⟨name, -, rfl⟩, hsteps, rfl⟩, -⟩ := h
  intro s hs a ha hne
  rcases absent_or_exists_of_optional hsteps with rfl | ⟨_, hv⟩
  · cases hs
  · rcases none_or_exists_of_nullable hv with rfl | ⟨_, list, rfl, hlist⟩
    · cases hs
    · obtain ⟨_, hstep⟩ := exists_of_mem_items hlist hs
      exact Step.isStepName_of_check hstep ha hne

/-- Names of declared steps are labels. -/
theorem Spec.Named.spelled {spec : Spec} (h : spec.Named) (hdeclared : spec.Declared) {s : Step}
    {a : String} (hs : s ∈ spec.stepList) (ha : s.name = some a) : Label.Spelled a :=
  Label.spelled_of_isStepName (h s hs a ha (hdeclared.name_ne hs ha))

theorem Spec.Named.spelled_of_has {spec : Spec} (h : spec.Named) (hdeclared : spec.Declared)
    {k : NodeKind} {a : String} (ha : spec.Has k a) : Label.Spelled a := by
  obtain ⟨s, hs, -, hname⟩ := ha
  exact h.spelled hdeclared hs hname

/-- Names of declared steps hold no separator of paths. -/
theorem Spec.Named.fileSafe {spec : Spec} (h : spec.Named) (hdeclared : spec.Declared) {s : Step}
    {a : String} (hs : s ∈ spec.stepList) (ha : s.name = some a) : FileSafe a :=
  (h.spelled hdeclared hs ha).fileSafe

theorem Spec.Named.fileSafe_of_has {spec : Spec} (h : spec.Named) (hdeclared : spec.Declared)
    {k : NodeKind} {a : String} (ha : spec.Has k a) : FileSafe a :=
  (h.spelled_of_has hdeclared ha).fileSafe

end Validated

end StreamMesh
