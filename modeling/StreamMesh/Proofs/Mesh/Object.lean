import StreamMesh.Proofs.Compile.Stages
import StreamMesh.Proofs.Mesh.Reading

/-!
# The generated objects

Every generated file holds one object. An object is told by what it is for: a source and its
subscriber, a processor, a consumer and what feeds it. The name of its file and its identity in the
cluster are put together from these names.

## Main definitions

* `Spec.Subscribes`, `Spec.Streams` — connections from sources, and between processors
* `Manifest.Identity` — what tells two objects of a cluster apart
* `Mesh.Object` — the objects, with their files and identities
* `Mesh.Object.Of` — the objects of a pipeline
* `Mesh.Object.Realised` — the file of an object

## Main results

* `Mesh.Object.of_source_iff`, `Mesh.Object.of_sink_iff`, `Mesh.Object.of_processor_iff` — the
  objects that are made for a step
* `Mesh.Object.Of.spelled_stem` — what the names of files are made of
-/

namespace StreamMesh

variable {spec : Spec} {d : Deployment} {m : Manifest} {a b p q : String}

/-- A source feeds a subscriber. -/
structure Spec.Subscribes (spec : Spec) (a p : String) : Prop where
  source : spec.Has .source a
  connects : spec.Connects a p

/-- A processor feeds another. -/
structure Spec.Streams (spec : Spec) (p q : String) : Prop where
  producer : spec.Has .processor p
  connects : spec.Connects p q
  consumer : spec.Has .processor q

/-- What tells two objects of a cluster apart. -/
structure Manifest.Identity where
  kind : Option RawText
  ns : Option RawText
  name : Option RawText
  deriving DecidableEq, Repr

/-- The identity of an object. -/
def Manifest.identity (m : Manifest) : Identity := ⟨m.kind?, m.ns?, m.name?⟩

@[simp] theorem Deployment.text?_nsManifest (d : Deployment) :
    d.nsManifest.text? = d.ns.map .whole := by
  unfold Deployment.nsManifest
  cases d.ns <;> rfl

namespace Mesh

/-- A generated object, told by the nodes that it is for. -/
inductive Object where
  | ingress (source subscriber : String)
  | egress (sink : String)
  | service (processor : String)
  | deployment (processor : String)
  | scaler (processor : String)
  | broker (consumer : String)
  | subscription (producer consumer : String)
  | topic (producer consumer : String)
  | tracing
  deriving DecidableEq, Repr

namespace Object

variable {o : Object}

/-- The directory of an object's file. -/
def category : Object → Category
  | ingress .. | egress _ => .bindings
  | service _ | deployment _ => .deployments
  | scaler _ => .scaling
  | broker _ | subscription .. => .streams
  | topic .. => .topics
  | tracing => .monitoring

/-- The kind of an object. -/
def kind : Object → String
  | ingress .. | egress _ | broker _ => "Component"
  | service _ => "Service"
  | deployment _ => "Deployment"
  | scaler _ => "ScaledObject"
  | subscription .. => "Subscription"
  | topic .. => "KafkaTopic"
  | tracing => "Configuration"

/-- The namespace of an object. A topic lives where the brokers do. -/
def ns (d : Deployment) : Object → Option String
  | topic .. => some d.topics.ns
  | _ => d.ns

/-- The name of an object. -/
def name (d : Deployment) : Object → String
  | ingress a p => ingressBinding a p
  | egress k => egressBinding k
  | service p => p
  | deployment p => p
  | scaler p => d.nsText ++ "-" ++ p ++ "-scaler"
  | broker q => brokerName q
  | subscription p q => streamTopic d.nsText p ++ "-" ++ q ++ "-subscription"
  | topic p _ => streamTopic d.nsText p
  | tracing => d.tracing.configName

/-- The name of an object's file, up to its ending. -/
def stem (d : Deployment) : Object → String
  | service p => p ++ "-service"
  | deployment p => p ++ "-deploy"
  | scaler p => p ++ "-scaler"
  | o => o.name d

/-- The identity of an object. -/
def identity (d : Deployment) (o : Object) : Manifest.Identity :=
  ⟨some (.whole o.kind), (o.ns d).map .whole, some (.whole (o.name d))⟩

/-- The step that an object is made for. -/
def owner : Object → Option String
  | ingress a _ => some a
  | egress k => some k
  | service p | deployment p | scaler p => some p
  | broker q | subscription _ q | topic _ q => some q
  | tracing => none

/-- The objects of a pipeline. -/
def Of (spec : Spec) : Object → Prop
  | ingress a p => spec.Subscribes a p
  | egress k => spec.Has .sink k
  | service p | deployment p | scaler p => spec.Has .processor p
  | broker q => ∃ p, spec.Streams p q
  | subscription p q | topic p q => spec.Streams p q
  | tracing => True

/-- A file that holds an object. -/
structure Realised (d : Deployment) (o : Object) (r : Rendering) : Prop where
  category : r.category = o.category
  fileName : r.fileName = o.stem d ++ ".yaml"
  identity : r.manifest.identity = o.identity d

theorem realised_file (hkind : m.kind? = some (.whole o.kind)) (hns : m.ns? = (o.ns d).map .whole)
    (hname : m.name? = some (.whole (o.name d))) :
    o.Realised d (file o.category (o.stem d) m) where
  category := rfl
  fileName := rfl
  identity := by
    rw [identity, ← hkind, ← hns, ← hname]
    rfl

theorem kind_eq_configuration_iff : o.kind = "Configuration" ↔ o = .tracing := by
  cases o <;> simp [kind]

section Realised

variable {r : Rendering} (h : o.Realised d r)

include h

theorem Realised.kind_eq : r.manifest.kind? = some (.whole o.kind) :=
  congrArg Manifest.Identity.kind h.identity

theorem Realised.name_eq : r.manifest.name? = some (.whole (o.name d)) :=
  congrArg Manifest.Identity.name h.identity

/-- The kind of a manifest tells the namespace that it is in. -/
theorem Realised.ns_eq : r.manifest.ns? =
    if r.manifest.kind? = some (.whole "KafkaTopic") then some (.whole d.topics.ns)
    else d.ns.map .whole := by
  have hns : r.manifest.ns? = (o.ns d).map .whole := congrArg Manifest.Identity.ns h.identity
  rw [hns, h.kind_eq]
  cases o <;> rfl

end Realised

section Owner

variable (hdeclared : spec.Declared)

include hdeclared

/-- A source has one object. -/
theorem of_source_iff (ha : spec.Has .source a) (hab : spec.Connects a b) :
    o.Of spec ∧ o.owner = some a ↔ o = .ingress a b := by
  -- all other objects are made for a sink or a processor, which `a` is not
  have hnoProcessor : ¬ spec.Has .processor a := fun h => nomatch hdeclared.kind_unique ha h
  constructor
  · intro ⟨hof, howner⟩
    cases o with
    | ingress x p =>
      cases howner
      rw [hdeclared.connects_unique hof.connects hab]
    | egress =>
      cases howner
      exact nomatch hdeclared.kind_unique ha hof
    | service | deployment | scaler =>
      cases howner
      exact absurd hof hnoProcessor
    | broker =>
      cases howner
      obtain ⟨p, hof⟩ := hof
      exact absurd hof.consumer hnoProcessor
    | subscription | topic =>
      cases howner
      exact absurd hof.consumer hnoProcessor
    | tracing => cases howner
  · intro h
    subst h
    exact ⟨⟨ha, hab⟩, rfl⟩

/-- A sink has one object. -/
theorem of_sink_iff (ha : spec.Has .sink a) :
    o.Of spec ∧ o.owner = some a ↔ o = .egress a := by
  -- as for a source, with the kinds exchanged
  have hnoProcessor : ¬ spec.Has .processor a := fun h => nomatch hdeclared.kind_unique ha h
  constructor
  · intro ⟨hof, howner⟩
    cases o with
    | ingress =>
      cases howner
      exact nomatch hdeclared.kind_unique ha hof.source
    | egress =>
      cases howner
      rfl
    | service | deployment | scaler =>
      cases howner
      exact absurd hof hnoProcessor
    | broker =>
      cases howner
      obtain ⟨p, hof⟩ := hof
      exact absurd hof.consumer hnoProcessor
    | subscription | topic =>
      cases howner
      exact absurd hof.consumer hnoProcessor
    | tracing => cases howner
  · intro h
    subst h
    exact ⟨ha, rfl⟩

/-- A processor has three objects, and three more for each processor that feeds it. -/
theorem of_processor_iff (ha : spec.Has .processor a) : o.Of spec ∧ o.owner = some a ↔
    o ∈ [service a, deployment a, scaler a] ∨
      ∃ p, spec.Streams p a ∧ o ∈ [broker a, subscription p a, topic p a] := by
  constructor
  · intro ⟨hof, howner⟩
    -- what an object belongs to is told by its form
    cases o with
    | ingress =>
      cases howner
      exact nomatch hdeclared.kind_unique ha hof.source
    | egress =>
      cases howner
      exact nomatch hdeclared.kind_unique ha hof
    | service | deployment | scaler =>
      cases howner
      simp
    | broker =>
      cases howner
      obtain ⟨p, hof⟩ := hof
      exact .inr ⟨p, hof, by simp⟩
    | subscription p | topic p =>
      cases howner
      exact .inr ⟨p, hof, by simp⟩
    | tracing => cases howner
  · simp only [List.mem_cons, List.not_mem_nil, or_false]
    rintro ((rfl | rfl | rfl) | ⟨p, hp, rfl | rfl | rfl⟩)
    · exact ⟨ha, rfl⟩
    · exact ⟨ha, rfl⟩
    · exact ⟨ha, rfl⟩
    · exact ⟨⟨p, hp⟩, rfl⟩
    · exact ⟨hp, rfl⟩
    · exact ⟨hp, rfl⟩

end Owner

/-- Every object but that of tracing is made for a step. -/
theorem Of.owner_mem (h : o.Of spec) : o = .tracing ∨ o.owner ∈ spec.stepList.map Step.name := by
  have hstep : ∀ {k : NodeKind} {x : String}, spec.Has k x →
      some x ∈ spec.stepList.map Step.name := by
    rintro k x ⟨s, hs, -, hname⟩
    exact hname ▸ List.mem_map_of_mem hs
  cases o with
  | ingress => exact .inr (hstep h.source)
  | egress | service | deployment | scaler => exact .inr (hstep h)
  | broker =>
    obtain ⟨p, h⟩ := h
    exact .inr (hstep h.consumer)
  | subscription | topic => exact .inr (hstep h.consumer)
  | tracing => exact .inl rfl

/-- The names of all files but that of tracing are put together from labels. -/
theorem Of.spelled_stem (hnamed : spec.Named) (hdeclared : spec.Declared) (hlegal : spec.Legal)
    (hns : Label.Spelled d.nsText) (h : o.Of spec) (hne : o ≠ .tracing) :
    Label.Spelled (o.stem d) := by
  have hname : ∀ {k x}, spec.Has k x → Label.Spelled x := fun hx =>
    hnamed.spelled_of_has hdeclared hx
  have hglue : Label.Spelled "-" := by decide
  cases o with
  | ingress a p =>
    have hp : Label.Spelled p := (hlegal.has_of_connects hdeclared h.connects).elim hname hname
    simp only [stem, name, ingressBinding, Label.spelled_append_iff]
    exact ⟨⟨⟨hname h.source, hglue⟩, hp⟩, by decide⟩
  | egress | service | deployment | scaler =>
    exact Label.spelled_append_iff.mpr ⟨hname h, by decide⟩
  | broker q =>
    obtain ⟨p, h⟩ := h
    exact Label.spelled_append_iff.mpr ⟨by decide, hname h.consumer⟩
  | subscription p q =>
    simp only [stem, name, streamTopic, Label.spelled_append_iff]
    exact ⟨⟨⟨⟨⟨⟨hns, hglue⟩, hname h.producer⟩, by decide⟩, hglue⟩, hname h.consumer⟩, by decide⟩
  | topic p q =>
    simp only [stem, name, streamTopic, Label.spelled_append_iff]
    exact ⟨⟨⟨hns, hglue⟩, hname h.producer⟩, by decide⟩
  | tracing => exact absurd rfl hne

end Object

end Mesh

end StreamMesh
