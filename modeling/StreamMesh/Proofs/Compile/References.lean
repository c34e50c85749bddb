import StreamMesh.Proofs.Compile.Objects
import StreamMesh.Proofs.Mesh.Addressing

/-!
# References between manifests resolve

Objects of a cluster refer to each other by name or by labels. Each manifest spells its references
out on its own, and nothing checks them when they are made. In the result of a compilation every one
of them leads to an object that is there, and to no other: a scaler to a deployment, a service to
the pods of a deployment, a deployment to the tracing configuration, a subscription to a broker and
to the application that it is meant for.

## Main definitions

* `OwnReferences`, `StreamReferences` — the references of a processor's own objects, and those of
  the objects of a connection
* `ReferencesOf` — the references of a processor of a pipeline

## Main results

* `Compilation.filter_manifests` — a choice that is met for one object only finds one manifest
* `references_resolve` — all references of a result resolve, and its namespaces are settled
-/

namespace StreamMesh

open Mesh Mesh.Object

variable {spec : Spec} {config d : Deployment} {c : Compiled} {a x : String} {o : Object}
  {r : Rendering} {rs : List Rendering} {s : Step}

/-- The references of the objects that every processor has. -/
structure OwnReferences (rs : List Rendering) (service deployment scaler : Manifest) : Prop where
  /-- The scaler's target is the one deployment of its name. -/
  target : ∃ name : String,
    scaler.textAt? ["spec", "scaleTargetRef", "kind"] = some (.whole "Deployment") ∧
    scaler.textAt? ["spec", "scaleTargetRef", "name"] = some (.whole name) ∧
    objectsNamed "Deployment" name rs = [deployment]
  /-- Service and deployment select the pods by the labels that these have. -/
  labels : ∃ labels, service.at? ["spec", "selector"] = some labels ∧
    deployment.at? ["spec", "selector", "matchLabels"] = some labels ∧
    deployment.at? ["spec", "template", "metadata", "labels"] = some labels
  /-- There is one port, and all places give it. -/
  port : ∃ port : Int, service.targetPorts = [some (.int port)] ∧
    deployment.containerPorts = [some (.int port)] ∧
    deployment.annotation? "dapr.io/app-port" = some (.whole (toString port))
  /-- The tracing configuration is the only configuration. -/
  tracing : ∃ configuration name, ofKind "Configuration" rs = [configuration] ∧
    configuration.name? = some name ∧ deployment.annotation? "dapr.io/config" = some name

/-- The references of the objects of a connection from another processor. -/
structure StreamReferences (rs : List Rendering) (deployment broker subscription : Manifest) :
    Prop where
  /-- The subscription reads from the one broker of its name. -/
  broker : ∃ name : String, subscription.textAt? ["spec", "pubsubname"] = some (.whole name) ∧
    componentsNamed "pubsub.kafka" name rs = [broker]
  /-- The subscription is for the application of the deployment, and for no other. -/
  scopes : ∃ app, deployment.annotation? "dapr.io/app-id" = some app ∧
    (subscription.itemsAt ["scopes"]).map Manifest.text? = [some app]

/-- The references of a processor of a pipeline. -/
structure ReferencesOf (spec : Spec) (config : Deployment) (rs : List Rendering) (a : String) :
    Prop where
  emitted : ∀ r ∈ blockOf spec config a, r ∈ rs
  own : ∃ service deployment scaler, ofKind "Service" (blockOf spec config a) = [service] ∧
    ofKind "Deployment" (blockOf spec config a) = [deployment] ∧
    ofKind "ScaledObject" (blockOf spec config a) = [scaler] ∧
    OwnReferences rs service deployment scaler
  stream : ∀ x, spec.Streams x a → ∃ deployment broker subscription,
    ofKind "Deployment" (blockOf spec config a) = [deployment] ∧
    ofKind "Component" (blockOf spec config a) = [broker] ∧
    ofKind "Subscription" (blockOf spec config a) = [subscription] ∧
    StreamReferences rs deployment broker subscription

namespace Mesh.Processor

variable {p : Processor}

theorem ownReferences (hdeployment : objectsNamed "Deployment" p.name rs = [p.deployment d])
    (hconfiguration : ofKind "Configuration" rs = [tracingManifest d]) :
    OwnReferences rs (p.service d) (p.deployment d) (p.scaler d) where
  target := ⟨p.name, rfl, rfl, hdeployment⟩
  labels := ⟨.object [("app", .str p.name)], rfl, rfl, rfl⟩
  port := ⟨d.workload.appPort, rfl, rfl, rfl⟩
  tracing := ⟨tracingManifest d, .whole d.tracing.configName, hconfiguration, rfl, rfl⟩

theorem streamReferences
    (hbroker : componentsNamed "pubsub.kafka" (brokerName p.name) rs = [p.broker d]) :
    StreamReferences rs (p.deployment d) (p.broker d) (p.subscription d) where
  broker := ⟨brokerName p.name, rfl, hbroker⟩
  scopes := ⟨.whole p.name, rfl, rfl⟩

end Mesh.Processor

namespace Mesh.Object

theorem Realised.isDeployment_iff (h : o.Realised d r) :
    (r.manifest.name? == some (.whole a) && r.manifest.kind? == some (.whole "Deployment")) = true ↔
      o = .deployment a := by
  rw [Bool.and_eq_true, beq_iff_eq, beq_iff_eq, h.kind_eq, h.name_eq]
  cases o <;> simp [kind, Object.name]

theorem Realised.isConfiguration_iff (h : o.Realised d r) :
    (r.manifest.kind? == some (.whole "Configuration")) = true ↔ o = .tracing := by
  rw [beq_iff_eq, h.kind_eq, Option.some.injEq, RawText.whole.injEq, kind_eq_configuration_iff]

/-- Bindings are components as well, so a broker is told by its type. -/
theorem Configured.isBroker_iff (h : o.Configured d r) :
    (r.manifest.componentType? == some (.whole "pubsub.kafka") &&
      r.manifest.name? == some (.whole (brokerName a)) &&
      r.manifest.kind? == some (.whole "Component")) = true ↔ o = .broker a := by
  rw [Bool.and_eq_true, Bool.and_eq_true, beq_iff_eq, beq_iff_eq, beq_iff_eq, h.kind_eq, h.name_eq]
  have hpurpose := h.purpose
  cases o with
  | ingress | egress => simp [hpurpose.1]
  | broker q =>
    rw [hpurpose.1]
    simp [kind, Object.name, brokerName]
  | service | deployment | scaler | subscription | topic | tracing => simp [kind]

end Mesh.Object

section References

variable (hc : Compilation spec config c)

include hc

/-- A choice that is met for one object of the pipeline only finds one manifest. -/
theorem Compilation.filter_manifests {g : Manifest → Bool} (ho : o.Of spec)
    (hg : ∀ o' r, o'.Configured (config.settled c.pipeline) r → (g r.manifest = true ↔ o' = o))
    (hr : r ∈ c.renderings) (hgr : g r.manifest = true) :
    (c.renderings.map Rendering.manifest).filter g = [r.manifest] := by
  obtain ⟨os, hos, hnodup, hof⟩ := hc.exists_objects
  obtain ⟨r', hfilter, -⟩ := exists_filter_eq_singleton hos hnodup ((hof o).mpr ho) hg
  rw [List.filter_map]
  -- the manifest at hand meets the choice, so it is the one that is found
  have hmem : r ∈ c.renderings.filter (g ∘ Rendering.manifest) := List.mem_filter.mpr ⟨hr, hgr⟩
  have hfilter' : c.renderings.filter (g ∘ Rendering.manifest) = [r'] := hfilter
  rw [hfilter', List.mem_singleton] at hmem
  rw [hfilter', hmem]
  rfl

/-- The one deployment under the name of a processor. -/
theorem Compilation.objectsNamed_deployment (ha : spec.Has .processor a) (hr : r ∈ c.renderings)
    (hkind : r.manifest.kind? = some (.whole "Deployment"))
    (hname : r.manifest.name? = some (.whole a)) :
    objectsNamed "Deployment" a c.renderings = [r.manifest] := by
  rw [objectsNamed, ofKind, List.filter_filter]
  apply hc.filter_manifests (o := .deployment a) ha _ hr
  · rw [hkind, hname]
    simp
  · intro o' r' ho'
    exact ho'.toRealised.isDeployment_iff

/-- The deployment among the files of a processor is the one under its name. -/
theorem Compilation.objectsNamed_deployment_of_files {p : Processor}
    (hp : spec.Has .processor p.name)
    (hmem : ∀ r ∈ p.files d, r ∈ c.renderings) :
    objectsNamed "Deployment" p.name c.renderings = [p.deployment d] := by
  refine hc.objectsNamed_deployment (r := file .deployments (p.name ++ "-deploy") (p.deployment d))
    hp (hmem _ ?_) rfl rfl
  rw [Processor.files, Processor.ownFiles]
  exact List.mem_append_left _ (List.mem_cons_of_mem _ (List.mem_cons_self ..))

/-- The one broker under the name of a processor. -/
theorem Compilation.componentsNamed_broker (hx : spec.Streams x a) (hr : r ∈ c.renderings)
    (htype : r.manifest.componentType? = some (.whole "pubsub.kafka"))
    (hname : r.manifest.name? = some (.whole (brokerName a)))
    (hkind : r.manifest.kind? = some (.whole "Component")) :
    componentsNamed "pubsub.kafka" (brokerName a) c.renderings = [r.manifest] := by
  rw [componentsNamed, objectsNamed, ofKind, List.filter_filter, List.filter_filter]
  apply hc.filter_manifests (o := .broker a) ⟨x, hx⟩ _ hr
  · rw [htype, hname, hkind]
    simp
  · intro o' r' ho'
    exact ho'.isBroker_iff

/-- The one configuration. -/
theorem Compilation.ofKind_configuration : ofKind "Configuration" c.renderings =
    [tracingManifest (config.settled c.pipeline)] := by
  obtain ⟨steps, bs, -, -, -, hrs⟩ := hc.blocks
  have hmem : tracingFile (config.settled c.pipeline) ∈ c.renderings := by
    rw [hrs]
    exact List.mem_append_right _ (List.mem_singleton_self _)
  exact hc.filter_manifests (o := .tracing) trivial
    (fun o' r' ho' => ho'.toRealised.isConfiguration_iff) hmem rfl

/-- The namespaces of a result: that of the result, and for topics that of the brokers. -/
theorem Compilation.ns_eq (hr : r ∈ c.renderings) : r.manifest.ns? =
    some (.whole (if r.manifest.kind? = some (.whole "KafkaTopic") then config.topics.ns
      else c.ns)) := by
  obtain ⟨os, hos, -, -⟩ := hc.exists_objects
  obtain ⟨o, -, ho⟩ := exists_left_of_forall₂ hos hr
  have hns : (config.settled c.pipeline).ns = some c.ns := by
    rw [hc.ns]
    rfl
  rw [ho.toRealised.ns_eq, hns]
  split <;> rfl

variable (hs : s ∈ spec.stepList) (hk : s.kind = some NodeKind.processor.text)
  (ha : s.name = some a)
  (hblock : spec.Block (config.settled c.pipeline) s (blockOf spec config a))
  (hmem : ∀ r ∈ blockOf spec config a, r ∈ c.renderings)

include hs hk ha hblock hmem

theorem Compilation.own_references : ∃ service deployment scaler,
    ofKind "Service" (blockOf spec config a) = [service] ∧
    ofKind "Deployment" (blockOf spec config a) = [deployment] ∧
    ofKind "ScaledObject" (blockOf spec config a) = [scaler] ∧
    OwnReferences c.renderings service deployment scaler := by
  obtain ⟨b, hb, -⟩ := (hc.declared.complete s hs).origin (by rw [hk]; decide)
  obtain ⟨feed, drain, -, -, hfiles⟩ := hblock.of_processor hk ha hb
  rw [hfiles] at hmem ⊢
  exact ⟨_, _, _, Processor.ofKind_service, Processor.ofKind_deployment, Processor.ofKind_scaler,
    Processor.ownReferences (hc.objectsNamed_deployment_of_files ⟨s, hs, hk, ha⟩ hmem)
      hc.ofKind_configuration⟩

theorem Compilation.stream_references (hx : spec.Streams x a) : ∃ deployment broker subscription,
    ofKind "Deployment" (blockOf spec config a) = [deployment] ∧
    ofKind "Component" (blockOf spec config a) = [broker] ∧
    ofKind "Subscription" (blockOf spec config a) = [subscription] ∧
    StreamReferences c.renderings deployment broker subscription := by
  obtain ⟨feed, drain, hfeed, hfiles⟩ := hc.wired_of_connects hs hk ha hblock hx.connects
  cases hfeed with
  | source h => exact nomatch hc.declared.kind_unique hx.producer h.2
  | processor h =>
    obtain ⟨rfl, -⟩ := h
    rw [hfiles] at hmem ⊢
    refine ⟨_, _, _, Processor.ofKind_deployment, Processor.ofKind_broker rfl,
      Processor.ofKind_subscription rfl, Processor.streamReferences ?_⟩
    have hbroker := hmem (file .streams (brokerName a) _)
      (List.mem_append_right _ (List.mem_cons_self ..))
    exact hc.componentsNamed_broker hx hbroker rfl rfl rfl

end References

/-- All references of a result resolve: for every processor those of its scaler, its service, its
deployment and, where another processor feeds it, its subscription. All manifests are in the
namespace that is settled for the pipeline, but for the topics, which are where the brokers are. -/
theorem references_resolve (hconfig : config.Validated) (h : compile spec config = .ok c) :
    (∀ a, spec.Has .processor a → ReferencesOf spec config c.renderings a) ∧
    (∃ d, config.resolve c.pipeline = .accepted d ∧ d.ns = some c.ns) ∧
    ∀ r ∈ c.renderings, r.manifest.ns? =
      some (.whole (if r.manifest.kind? = some (.whole "KafkaTopic") then config.topics.ns
      else c.ns)) := by
  have hc := compilation_of_compile_eq_ok hconfig h
  refine ⟨?_, ⟨config.settled c.pipeline, ?_, ?_⟩, fun r hr => hc.ns_eq hr⟩
  · intro a ha
    obtain ⟨s, hs, hk, hname⟩ := ha
    obtain ⟨hblock, hmem⟩ := blockOf_spec hconfig h hs hname
    exact ⟨hmem, hc.own_references hs hk hname hblock hmem,
      fun x hx => hc.stream_references hs hk hname hblock hmem hx⟩
  · exact (Deployment.resolve_eq_accepted_iff hconfig).mpr ⟨hc.namespaced, rfl⟩
  · rw [hc.ns]
    rfl

/-- In the sample the references of both processors resolve, and one of them subscribes to the
other. -/
theorem references_resolve_sample : ∃ c, compile Spec.sample Deployment.sample = .ok c ∧
    ReferencesOf Spec.sample Deployment.sample c.renderings "clean" ∧
    ReferencesOf Spec.sample Deployment.sample c.renderings "count" ∧
    Spec.sample.Streams "clean" "count" ∧
    ∀ r ∈ c.renderings, r.manifest.ns? = some (.whole
      (if r.manifest.kind? = some (.whole "KafkaTopic") then "kafka" else "demo")) := by
  obtain ⟨c, hc⟩ := exists_compile_sample
  have hclean : Spec.sample.Has .processor "clean" := Spec.has_sample.mpr (by decide)
  have hcount : Spec.sample.Has .processor "count" := Spec.has_sample.mpr (by decide)
  obtain ⟨hreferences, -, hns⟩ :=
    references_resolve Deployment.validated_sample hc
  have hname : c.ns = "demo" := by
    have hcompilation := compilation_of_compile_eq_ok
      Deployment.validated_sample hc
    rw [hcompilation.ns, ← RawText.whole.inj (Option.some.inj hcompilation.name)]
    rfl
  refine ⟨c, hc, hreferences _ hclean, hreferences _ hcount,
    ⟨hclean, Spec.connects_sample.mpr (by decide), hcount⟩, ?_⟩
  rw [hname] at hns
  exact hns

end StreamMesh
