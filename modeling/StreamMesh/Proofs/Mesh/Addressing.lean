import StreamMesh.Proofs.Compile.Acceptance
import StreamMesh.Proofs.Mesh.Reading

/-!
# Both ends of a connection agree

The address of a connection is written down several times: by the node that sends and by the node
that receives, in their components, their environments and their scalers. In the manifests of a
pipeline that compiles, all these places say the same.

## Main definitions

* `Mesh.IngressAgrees`, `Mesh.StreamAgrees`, `Mesh.EgressAgrees` — the places that say the same, for
  a connection from a source, between processors, and to a sink
* `EndsAgree` — the same for the manifests of two connected nodes

## Main results

* `ends_agree` — the two ends of every connection agree
-/

namespace StreamMesh

variable {spec : Spec} {config d : Deployment} {c : Compiled} {a b : String}

namespace Mesh

/-- A source's binding, and the deployment and the scaler of the processor that it feeds. -/
structure IngressAgrees (topic : Option RawText) (binding deployment scaler : Manifest) : Prop where
  type : binding.textAt? ["spec", "type"] = some (.whole "bindings.kafka")
  route : ∃ name, binding.name? = some name ∧
    deployment.environment "INPUT_ROUTE" = [some ("/" ++ name)]
  topic : ∃ t, topic = some t ∧ binding.settings "topics" = [some t] ∧
    scaler.triggers "topic" = [some t]
  group : ∃ g, binding.settings "consumerGroup" = [some g] ∧
    scaler.triggers "consumerGroup" = [some g]

/-- A processor's deployment, and the objects of the processor that it feeds. -/
structure StreamAgrees (producer broker subscription topic scaler consumer : Manifest) : Prop where
  type : broker.textAt? ["spec", "type"] = some (.whole "pubsub.kafka")
  address : ∃ name t, broker.name? = some name ∧
    subscription.textAt? ["spec", "pubsubname"] = some name ∧
    subscription.textAt? ["spec", "topic"] = some t ∧ topic.name? = some t ∧
    scaler.triggers "topic" = [some t] ∧
    producer.environment "OUTPUT_ROUTE" =
      [some ("http://localhost:3500/v1.0/publish/" ++ name ++ "/" ++ t)]
  route : ∃ r, subscription.textAt? ["spec", "route"] = some r ∧
    consumer.environment "INPUT_ROUTE" = [some r]
  group : ∃ g, broker.settings "consumerID" = [some g] ∧
    scaler.triggers "consumerGroup" = [some g]

/-- A processor's deployment, and the binding of the sink that it feeds. -/
structure EgressAgrees (topic : Option RawText) (deployment binding : Manifest) : Prop where
  type : binding.textAt? ["spec", "type"] = some (.whole "bindings.kafka")
  address : ∃ name, binding.name? = some name ∧
    deployment.environment "OUTPUT_ROUTE" =
      [some ("http://localhost:3500/v1.0/bindings/" ++ name)]
  topic : ∃ t, topic = some t ∧ binding.settings "publishTopic" = [some t]

namespace Processor

variable {env : Assoc RawText RawText} {feed : Feed} {drain : Drain} {p : Processor}

theorem find?_outputRoute :
    (wired d a env feed drain).env.find? "OUTPUT_ROUTE" = some (drain.route d a) := by
  simp [wired, withFeed, withDrain, withRoute, fresh, Assoc.find?_insert_of_ne]

theorem find?_inputRoute :
    (wired d a env feed drain).env.find? "INPUT_ROUTE" = some (feed.route a) := by
  simp [wired, withFeed, withDrain, withRoute, fresh]

theorem nodup_keys_wired (henv : env.keys.Nodup) : (wired d a env feed drain).env.keys.Nodup :=
  Assoc.nodup_keys_insert (Assoc.nodup_keys_insert
    (Assoc.nodup_keys_insert (Assoc.nodup_keys_insert henv _ _) _ _) _ _) _ _

theorem ofKind_service : ofKind "Service" (p.files d) = [p.service d] := by
  unfold files
  cases p.fedByProcessor <;> rfl

theorem ofKind_deployment : ofKind "Deployment" (p.files d) = [p.deployment d] := by
  unfold files
  cases p.fedByProcessor <;> rfl

theorem ofKind_scaler : ofKind "ScaledObject" (p.files d) = [p.scaler d] := by
  unfold files
  cases p.fedByProcessor <;> rfl

theorem ofKind_broker (hp : p.fedByProcessor = true) :
    ofKind "Component" (p.files d) = [p.broker d] := by
  rw [files, hp]
  rfl

theorem ofKind_subscription (hp : p.fedByProcessor = true) :
    ofKind "Subscription" (p.files d) = [p.subscription d] := by
  rw [files, hp]
  rfl

theorem ofKind_topic (hp : p.fedByProcessor = true) :
    ofKind "KafkaTopic" (p.files d) = [p.topic d] := by
  rw [files, hp]
  rfl

end Processor

section Agreement

variable {env env' : Assoc RawText RawText} {feed : Feed} {drain : Drain} {topic : RawText}

theorem ingressAgrees (henv : env.keys.Nodup) : IngressAgrees (some topic)
    (sourceManifest d a b topic) ((Processor.wired d b env (.source a topic) drain).deployment d)
    ((Processor.wired d b env (.source a topic) drain).scaler d) where
  type := rfl
  route := ⟨ingressBinding a b, rfl, Processor.environment_deployment
    (Processor.nodup_keys_wired henv) Processor.find?_inputRoute⟩
  topic := ⟨topic, rfl, rfl, rfl⟩
  group := ⟨consumerGroup d.nsText b, rfl, rfl⟩

theorem streamAgrees (henv : env.keys.Nodup) (henv' : env'.keys.Nodup) : StreamAgrees
    ((Processor.wired d a env feed (.processor b)).deployment d)
    ((Processor.wired d b env' (.processor a) drain).broker d)
    ((Processor.wired d b env' (.processor a) drain).subscription d)
    ((Processor.wired d b env' (.processor a) drain).topic d)
    ((Processor.wired d b env' (.processor a) drain).scaler d)
    ((Processor.wired d b env' (.processor a) drain).deployment d) where
  type := rfl
  address := ⟨brokerName b, streamTopic d.nsText a, rfl, rfl, rfl, rfl, rfl,
    Processor.environment_deployment (Processor.nodup_keys_wired henv) Processor.find?_outputRoute⟩
  route := ⟨"/" ++ b, rfl, Processor.environment_deployment
    (Processor.nodup_keys_wired henv') Processor.find?_inputRoute⟩
  group := ⟨consumerGroup d.nsText b, rfl, rfl⟩

theorem egressAgrees (henv : env.keys.Nodup) : EgressAgrees (some topic)
    ((Processor.wired d a env feed (.sink b)).deployment d) (sinkManifest d b topic) where
  type := rfl
  address := ⟨egressBinding b, rfl, Processor.environment_deployment
    (Processor.nodup_keys_wired henv) Processor.find?_outputRoute⟩
  topic := ⟨topic, rfl, rfl⟩

end Agreement

end Mesh

/-- The manifests of two connected nodes agree on everything that the connection needs. -/
inductive EndsAgree (spec : Spec) (config : Deployment) (a b : String) : Prop
  | ingress {binding deployment scaler : Manifest} :
      spec.Has .source a → spec.Has .processor b →
      ofKind "Component" (blockOf spec config a) = [binding] →
      ofKind "Deployment" (blockOf spec config b) = [deployment] →
      ofKind "ScaledObject" (blockOf spec config b) = [scaler] →
      Mesh.IngressAgrees (config.sourceTopics.find? a) binding deployment scaler →
      EndsAgree spec config a b
  | stream {producer broker subscription topic scaler consumer : Manifest} :
      spec.Has .processor a → spec.Has .processor b →
      ofKind "Deployment" (blockOf spec config a) = [producer] →
      ofKind "Component" (blockOf spec config b) = [broker] →
      ofKind "Subscription" (blockOf spec config b) = [subscription] →
      ofKind "KafkaTopic" (blockOf spec config b) = [topic] →
      ofKind "ScaledObject" (blockOf spec config b) = [scaler] →
      ofKind "Deployment" (blockOf spec config b) = [consumer] →
      Mesh.StreamAgrees producer broker subscription topic scaler consumer →
      EndsAgree spec config a b
  | egress {deployment binding : Manifest} :
      spec.Has .processor a → spec.Has .sink b →
      ofKind "Deployment" (blockOf spec config a) = [deployment] →
      ofKind "Component" (blockOf spec config b) = [binding] →
      Mesh.EgressAgrees (config.sinkTopics.find? b) deployment binding →
      EndsAgree spec config a b

section Ends

open Mesh

variable {name : String} {s s' : Step} {rs rs' : List Rendering}

variable (hc : Compilation spec config c)

include hc

/-- The files of a processor that something connects to are those of a processor fed by it. -/
theorem Compilation.wired_of_connects (hs' : s' ∈ spec.stepList)
    (hk : s'.kind = some NodeKind.processor.text) (hb : s'.name = some b)
    (hblock : spec.Block d s' rs) (hab : spec.Connects a b) :
    ∃ feed drain, Feed.Of d (fun k x => x = a ∧ spec.Has k a) feed ∧
      rs = (Processor.wired d b s'.envTable feed drain).files d := by
  have hprocessor : spec.Has .processor b := ⟨s', hs', hk, hb⟩
  obtain ⟨target, hto, -⟩ := (hc.declared.complete s' hs').origin (by rw [hk]; decide)
  obtain ⟨feed, drain, hfeed, -, rfl⟩ := hblock.of_processor hk hb hto
  -- whatever feeds it is `a`, since it has a single input
  refine ⟨feed, drain, hfeed.imp fun k x hx => ?_, rfl⟩
  obtain rfl := hc.singleInput.unique hprocessor hx.1 hab
  exact ⟨rfl, hx.2⟩

theorem Compilation.ingress_ends (hs : s ∈ spec.stepList)
    (hk : s.kind = some NodeKind.source.text) (ha : s.name = some a) (hto : s.connectsTo = some b)
    (hs' : s' ∈ spec.stepList) (hk' : s'.kind = some NodeKind.processor.text)
      (hb : s'.name = some b)
    (hA : spec.Block (config.settled name) s (blockOf spec config a))
    (hB : spec.Block (config.settled name) s' (blockOf spec config b)) :
    EndsAgree spec config a b := by
  obtain ⟨topic, htopic, hfiles⟩ := hA.of_source hk ha hto
  obtain ⟨feed, drain, hfeed, hfiles'⟩ := hc.wired_of_connects hs' hk' hb hB ⟨s, hs, ha, hto⟩
  have hsource : spec.Has .source a := ⟨s, hs, hk, ha⟩
  -- a name has one kind, so the processor is fed as by a source
  cases hfeed with
  | processor h => exact nomatch hc.declared.kind_unique hsource h.2
  | source h htopic' =>
    obtain ⟨rfl, -⟩ := h
    obtain rfl := Except.ok.inj (htopic.symm.trans htopic')
    have hfound : config.sourceTopics.find? _ = some topic := (sourceTopic_eq_ok_iff.mp htopic).1
    refine .ingress hsource ⟨s', hs', hk', hb⟩ (by rw [hfiles]; rfl)
      (hfiles' ▸ Processor.ofKind_deployment) (hfiles' ▸ Processor.ofKind_scaler) ?_
    rw [hfound]
    exact ingressAgrees s'.nodup_keys_envTable

theorem Compilation.stream_ends (hs : s ∈ spec.stepList)
    (hk : s.kind = some NodeKind.processor.text) (ha : s.name = some a)
      (hto : s.connectsTo = some b)
    (hs' : s' ∈ spec.stepList) (hk' : s'.kind = some NodeKind.processor.text)
      (hb : s'.name = some b)
    (hA : spec.Block (config.settled name) s (blockOf spec config a))
    (hB : spec.Block (config.settled name) s' (blockOf spec config b)) :
    EndsAgree spec config a b := by
  obtain ⟨_, drain, -, hdrain, hfiles⟩ := hA.of_processor hk ha hto
  obtain ⟨feed', drain', hfeed', hfiles'⟩ := hc.wired_of_connects hs' hk' hb hB ⟨s, hs, ha, hto⟩
  have hproducer : spec.Has .processor a := ⟨s, hs, hk, ha⟩
  have hconsumer : spec.Has .processor b := ⟨s', hs', hk', hb⟩
  -- a name has one kind, so both ends know each other as processors
  cases hfeed' with
  | source h => exact nomatch hc.declared.kind_unique hproducer h.2
  | processor h =>
    obtain ⟨rfl, -⟩ := h
    cases hdrain with
    | sink h => exact nomatch hc.declared.kind_unique hconsumer h
    | processor =>
      exact .stream hproducer hconsumer (hfiles ▸ Processor.ofKind_deployment)
        (hfiles' ▸ Processor.ofKind_broker rfl) (hfiles' ▸ Processor.ofKind_subscription rfl)
        (hfiles' ▸ Processor.ofKind_topic rfl) (hfiles' ▸ Processor.ofKind_scaler)
        (hfiles' ▸ Processor.ofKind_deployment)
        (streamAgrees s.nodup_keys_envTable s'.nodup_keys_envTable)

theorem Compilation.egress_ends (hs : s ∈ spec.stepList)
    (hk : s.kind = some NodeKind.processor.text) (ha : s.name = some a)
      (hto : s.connectsTo = some b)
    (hs' : s' ∈ spec.stepList) (hk' : s'.kind = some NodeKind.sink.text) (hb : s'.name = some b)
    (hA : spec.Block (config.settled name) s (blockOf spec config a))
    (hB : spec.Block (config.settled name) s' (blockOf spec config b)) :
    EndsAgree spec config a b := by
  obtain ⟨_, drain, -, hdrain, hfiles⟩ := hA.of_processor hk ha hto
  obtain ⟨topic, htopic, hfiles'⟩ := hB.of_sink hk' hb
  have hsink : spec.Has .sink b := ⟨s', hs', hk', hb⟩
  cases hdrain with
  | processor h => exact nomatch hc.declared.kind_unique hsink h
  | sink =>
    have hfound : config.sinkTopics.find? b = some topic := (sinkTopic_eq_ok_iff.mp htopic).1
    refine .egress ⟨s, hs, hk, ha⟩ hsink (hfiles ▸ Processor.ofKind_deployment)
      (by rw [hfiles']; rfl) ?_
    rw [hfound]
    exact egressAgrees s.nodup_keys_envTable

end Ends

/-- The two ends of every connection of a pipeline that compiles agree, and all manifests that say
so are among those of the result. -/
theorem ends_agree (hconfig : config.Validated) (h : compile spec config = .ok c)
    (hab : spec.Connects a b) : EndsAgree spec config a b ∧
      ∀ r, r ∈ blockOf spec config a ∨ r ∈ blockOf spec config b → r ∈ c.renderings := by
  have hc := compilation_of_compile_eq_ok hconfig h
  obtain ⟨s, hs, ha, hto⟩ := id hab
  obtain ⟨hA, hmemA⟩ := blockOf_spec hconfig h hs ha
  obtain ⟨k, hk⟩ := (hc.declared.complete s hs).kind
  -- the kind of the origin leaves one kind of target to a source and two to a processor
  cases k with
  | source =>
    obtain ⟨s', hs', hk', hb⟩ := (hc.legal a b hab).1 ⟨s, hs, hk, ha⟩
    obtain ⟨hB, hmemB⟩ := blockOf_spec hconfig h hs' hb
    exact ⟨hc.ingress_ends hs hk ha hto hs' hk' hb hA hB, fun r hr => hr.elim (hmemA r) (hmemB r)⟩
  | processor =>
    rcases (hc.legal a b hab).2 ⟨s, hs, hk, ha⟩ with ⟨s', hs', hk', hb⟩ | ⟨s', hs', hk', hb⟩
    · obtain ⟨hB, hmemB⟩ := blockOf_spec hconfig h hs' hb
      exact ⟨hc.stream_ends hs hk ha hto hs' hk' hb hA hB, fun r hr => hr.elim (hmemA r) (hmemB r)⟩
    · obtain ⟨hB, hmemB⟩ := blockOf_spec hconfig h hs' hb
      exact ⟨hc.egress_ends hs hk ha hto hs' hk' hb hA hB, fun r hr => hr.elim (hmemA r) (hmemB r)⟩
  | sink =>
    rw [(hc.declared.complete s hs).sink hk] at hto
    cases hto

/-- In the sample the three kinds of connections occur, one of them against a variable of the
user's. -/
theorem ends_agree_sample : ∃ c, compile Spec.sample Deployment.sample = .ok c ∧
    EndsAgree Spec.sample Deployment.sample "in" "clean" ∧
    EndsAgree Spec.sample Deployment.sample "clean" "count" ∧
    EndsAgree Spec.sample Deployment.sample "count" "out" := by
  obtain ⟨c, hc⟩ := exists_compile_sample
  have hends : ∀ a b, Spec.sample.Connects a b → EndsAgree Spec.sample Deployment.sample a b :=
    fun a b hab => (ends_agree Deployment.validated_sample hc hab).1
  refine ⟨c, hc, hends _ _ ?_, hends _ _ ?_, hends _ _ ?_⟩ <;> simp [Spec.connects_sample]

end StreamMesh
