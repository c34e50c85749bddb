import StreamMesh.Mesh.Synthesis
import StreamMesh.Proofs.Failure
import StreamMesh.Proofs.Mesh.Rendering

/-!
# The manifests of a node

A node's manifests are written down in closed form: which files there are and what they hold. A
processor's depend on the two ends that it is wired to, what feeds it and what it feeds. Making the
manifests succeeds exactly if these ends are there, and gives the files of the closed form.

## Main definitions

* `Mesh.Feed`, `Mesh.Drain` — what feeds a processor, and what it feeds
* `Mesh.Processor.wired` — a processor with its two ends
* `Mesh.Processor.files` — the files of a processor
* `Mesh.Block` — the files of a node among others

## Main results

* `Mesh.Processor.renderings_eq_ok` — the manifests of a processor are its files
* `Mesh.nodeRenderings_eq_of_block` — the manifests of a node with a block are the block
* `Mesh.block_of_nodeRenderings` — manifests of a node are always its block
* `Mesh.ofSupply_of_nodeRenderings` — what stops the manifests of a node
-/

namespace StreamMesh

/-- The faults of nodes that lack what their manifests need. -/
inductive Fault.OfSupply : Fault → Prop
  | invalidInputKind (processor input kind) : OfSupply (.invalidInputKind processor input kind)
  | unmappedTopic (node mapping names) : OfSupply (.unmappedTopic node mapping names)

namespace Mesh

variable {d : Deployment} {t : Topology} {a b name : String} {rs : List Rendering} {f : Failure}

section Topics

variable {topic : RawText}

theorem topicIn_eq_ok_iff {mapping : String} {topics : Assoc RawText RawText} :
    topicIn mapping topics name = .ok topic ↔
      topics.find? name = some topic ∧ topic ≠ .whole "" := by
  unfold topicIn
  cases topics.find? name with
  | none => simp
  | some found =>
    by_cases hempty : found.isEmpty = true
    · have hfound : found = .whole "" := RawText.isEmpty_iff.mp hempty
      simp only [hempty, if_true, Option.some.injEq, reduceCtorEq, false_iff, not_and, not_not]
      rintro rfl
      exact hfound
    · have hfound : found ≠ .whole "" := fun h => hempty (RawText.isEmpty_iff.mpr h)
      rw [Option.some.injEq]
      simp only [hempty, Bool.false_eq_true, if_false, Except.ok.injEq]
      exact ⟨fun h => ⟨h, h ▸ hfound⟩, fun h => h.1⟩

theorem topicIn_eq_error {mapping : String} {topics : Assoc RawText RawText} {e : Fault}
    (h : topicIn mapping topics name = .error e) : e = .unmapped name mapping topics.keys := by
  unfold topicIn at h
  split at h
  · split at h
    · exact (Except.error.inj h).symm
    · cases h
  · exact (Except.error.inj h).symm

theorem ofSupply_of_topicIn_eq_error {mapping : String} {topics : Assoc RawText RawText}
    {e : Fault} (h : topicIn mapping topics name = .error e) : e.OfSupply := by
  rw [topicIn_eq_error h]
  exact .unmappedTopic _ _ _

theorem sourceTopic_eq_ok_iff :
    d.sourceTopic name = .ok topic ↔ d.sourceTopics.find? name = some topic ∧ topic ≠ .whole "" :=
  topicIn_eq_ok_iff

theorem sinkTopic_eq_ok_iff :
    d.sinkTopic name = .ok topic ↔ d.sinkTopics.find? name = some topic ∧ topic ≠ .whole "" :=
  topicIn_eq_ok_iff

end Topics

section Bindings

/-- The binding of a source is stopped by a missing topic only. -/
theorem sourceBinding_eq (ha : FileSafe a) (hb : FileSafe b) : sourceBinding d a b =
    (Failure.ofFault (d.sourceTopic a)).map fun topic =>
      file .bindings (ingressBinding a b) (sourceManifest d a b topic) := by
  have hname : FileSafe (ingressBinding a b) := by
    simp only [ingressBinding, fileSafe_append_iff]
    exact ⟨⟨⟨ha, by decide⟩, hb⟩, by decide⟩
  unfold sourceBinding
  cases d.sourceTopic a with
  | error e => rfl
  | ok topic => exact rendering_eq_ok_iff.mpr ⟨isWritable_sourceManifest, ⟨_, rfl, hname⟩, rfl⟩

/-- The binding of a sink is stopped by a missing topic only. -/
theorem sinkBinding_eq (ha : FileSafe a) : sinkBinding d a =
    (Failure.ofFault (d.sinkTopic a)).map fun topic =>
      file .bindings (egressBinding a) (sinkManifest d a topic) := by
  have hname : FileSafe (egressBinding a) := by
    simp only [egressBinding, fileSafe_append_iff]
    exact ⟨ha, by decide⟩
  unfold sinkBinding
  cases d.sinkTopic a with
  | error e => rfl
  | ok topic => exact rendering_eq_ok_iff.mpr ⟨isWritable_sinkManifest, ⟨_, rfl, hname⟩, rfl⟩

/-- A single file that is made from a topic is there exactly if the topic is. -/
theorem singleton_eq_ok_iff {found : Except Fault RawText} {make : RawText → Rendering} :
    (do return [← (Failure.ofFault found).map make] : Except Failure (List Rendering)) = .ok rs ↔
      ∃ topic, found = .ok topic ∧ rs = [make topic] := by
  cases found with
  | error e => simp [Failure.ofFault, Except.map, bind, Except.bind]
  | ok topic =>
    simp only [Failure.ofFault, Except.map, bind, Except.bind, pure, Except.pure, Except.ok.injEq,
      exists_eq_left']
    exact eq_comm

/-- The fault of a binding is that of its topic. -/
theorem topic_eq_error {found : Except Fault RawText} {category : Category} {name : RawText}
    {manifest : RawText → Manifest} {e : Fault}
    (h : (do
      let topic ← Failure.ofFault found
      rendering category name (manifest topic) : Except Failure Rendering) = .error (.fault e)) :
    found = .error e := by
  rcases bind_eq_error_iff.mp h with h | ⟨topic, -, h⟩
  · obtain ⟨_, hfound, he⟩ := Failure.ofFault_eq_error_iff.mp h
    cases he
    exact hfound
  · exact absurd h rendering_ne_fault

end Bindings

/-- What feeds a processor. -/
inductive Feed where
  | source (name : String) (topic : RawText)
  | processor (producer : String)

/-- What a processor feeds. -/
inductive Drain where
  | sink (name : String)
  | processor (consumer : String)

namespace Feed

/-- The topic that is read. -/
def topic (d : Deployment) : Feed → RawText
  | source _ topic => topic
  | processor producer => streamTopic d.nsText producer

/-- Whether the topic comes from outside the pipeline. -/
def isSource : Feed → Bool
  | source .. => true
  | processor _ => false

/-- Where a processor takes its input. -/
def route (name : String) : Feed → String
  | source origin _ => "/" ++ ingressBinding origin name
  | processor _ => "/" ++ name

/-- The feed of a processor that is fed by a node of a kind and a name. -/
inductive Of (d : Deployment) (fedBy : NodeKind → String → Prop) : Feed → Prop
  | source {origin : String} {topic : RawText} : fedBy .source origin →
      d.sourceTopic origin = .ok topic → Of d fedBy (.source origin topic)
  | processor {producer : String} : fedBy .processor producer → Of d fedBy (.processor producer)

theorem Of.imp {fedBy fedBy' : NodeKind → String → Prop} {feed : Feed} (h : Of d fedBy feed)
    (himp : ∀ k x, fedBy k x → fedBy' k x) : Of d fedBy' feed := by
  cases h with
  | source hfed htopic => exact .source (himp _ _ hfed) htopic
  | processor hfed => exact .processor (himp _ _ hfed)

end Feed

namespace Drain

/-- Whether the output leaves the pipeline. -/
def isSink : Drain → Bool
  | sink _ => true
  | processor _ => false

/-- Where a processor sends its output. -/
def route (d : Deployment) (name : String) : Drain → String
  | sink target => Processor.bindingRoute target
  | processor consumer => Processor.publishRoute consumer (streamTopic d.nsText name)

/-- The drain of a processor that feeds a node of a name and a kind. -/
inductive Of (d : Deployment) (target : String) (isOf : NodeKind → Prop) : Drain → Prop
  | sink {topic : RawText} : isOf .sink → d.sinkTopic target = .ok topic →
      Of d target isOf (.sink target)
  | processor : isOf .processor → Of d target isOf (.processor target)

theorem Of.imp {target : String} {isOf isOf' : NodeKind → Prop} {drain : Drain}
    (h : Of d target isOf drain) (himp : ∀ k, isOf k → isOf' k) : Of d target isOf' drain := by
  cases h with
  | sink hk htopic => exact .sink (himp _ hk) htopic
  | processor hk => exact .processor (himp _ hk)

end Drain

/-- What feeds a processor is settled if one name of one kind does. -/
theorem Feed.Of.unique {fedBy : NodeKind → String → Prop} {feed feed' : Feed}
    (h : Feed.Of d fedBy feed) (h' : Feed.Of d fedBy feed')
    (hone : ∀ {j k x y}, fedBy j x → fedBy k y → j = k ∧ x = y) : feed = feed' := by
  cases h with
  | source hx htopic =>
    cases h' with
    | source hy htopic' =>
      obtain ⟨-, rfl⟩ := hone hx hy
      rw [Except.ok.inj (htopic.symm.trans htopic')]
    | processor hy => exact nomatch (hone hx hy).1
  | processor hx =>
    cases h' with
    | source hy => exact nomatch (hone hx hy).1
    | processor hy => rw [(hone hx hy).2]

/-- What a processor feeds is settled if its target has one kind. -/
theorem Drain.Of.unique {target : String} {isOf : NodeKind → Prop} {drain drain' : Drain}
    (h : Drain.Of d target isOf drain) (h' : Drain.Of d target isOf drain')
    (hone : ∀ {j k}, isOf j → isOf k → j = k) : drain = drain' := by
  cases h with
  | sink hk =>
    cases h' with
    | sink => rfl
    | processor hk' => exact nomatch hone hk hk'
  | processor hk =>
    cases h' with
    | sink hk' => exact nomatch hone hk hk'
    | processor => rfl

namespace Processor

/-- A processor that knows what it feeds. -/
def withDrain (d : Deployment) (drain : Drain) (p : Processor) : Processor :=
  p.withRoute "IS_SINK" (flag drain.isSink) "OUTPUT_ROUTE" (drain.route d p.name)

/-- A processor that knows what feeds it. -/
def withFeed (d : Deployment) (feed : Feed) (p : Processor) : Processor :=
  { p.withRoute "IS_SOURCE" (flag feed.isSource) "INPUT_ROUTE" (feed.route p.name) with
    inputTopic := some (feed.topic d)
    fedByProcessor := p.fedByProcessor || !feed.isSource }

/-- A processor with its two ends. -/
def wired (d : Deployment) (name : String) (env : Assoc RawText RawText) (feed : Feed)
    (drain : Drain) : Processor :=
  ((fresh name env).withDrain d drain).withFeed d feed

variable {p p' : Processor} {input : Option String} {kind : Option NodeKind}

/-- Registering what a processor feeds succeeds exactly if it is a processor, or a sink with a
topic. -/
theorem registerOutput_eq_ok_iff : p.registerOutput d b kind = (p', .ok ()) ↔
    ∃ drain, Drain.Of d b (fun k => kind = some k) drain ∧ p' = p.withDrain d drain := by
  -- the cases are those of the target: a sink, a processor, and what cannot be fed
  constructor
  · intro h
    unfold registerOutput at h
    split at h
    · split at h
      · rename_i htopic
        cases h
        exact ⟨_, .sink rfl htopic, rfl⟩
      · cases h
    · cases h
      exact ⟨_, .processor rfl, rfl⟩
    · cases h
  · rintro ⟨_, hdrain, rfl⟩
    cases hdrain with
    | sink hk htopic =>
      subst hk
      simp [registerOutput, htopic, withDrain, Drain.isSink, Drain.route, flag]
    | processor hk =>
      subst hk
      simp [registerOutput, withDrain, Drain.isSink, Drain.route, flag]

/-- Registering what feeds a processor succeeds exactly if it is a processor, or a source with a
topic. -/
theorem registerInput_eq_ok_iff : p.registerInput d input kind = (p', .ok ()) ↔
    ∃ feed, Feed.Of d (fun k x => input = some x ∧ kind = some k) feed ∧
      p' = p.withFeed d feed := by
  -- the cases are those of the origin: a source, a processor, and what cannot feed
  constructor
  · intro h
    unfold registerInput at h
    split at h
    · dsimp only at h
      split at h
      · rename_i htopic
        cases h
        refine ⟨_, .source ⟨rfl, rfl⟩ htopic, ?_⟩
        simp [withFeed, withRoute, Feed.isSource, Feed.topic, Feed.route, flag]
      · cases h
    · cases h
      refine ⟨_, .processor ⟨rfl, rfl⟩, ?_⟩
      simp [withFeed, withRoute, Feed.isSource, Feed.topic, Feed.route, flag]
    · cases h
  · rintro ⟨_, hfeed, rfl⟩
    cases hfeed with
    | source hfed htopic =>
      obtain ⟨rfl, rfl⟩ := hfed
      simp [registerInput, htopic, withFeed, withRoute, Feed.isSource, Feed.topic, Feed.route, flag]
    | processor hfed =>
      obtain ⟨rfl, rfl⟩ := hfed
      simp [registerInput, withFeed, withRoute, Feed.isSource, Feed.topic, Feed.route, flag]

/-- Registering what a processor feeds fails for a sink without a topic, and for what cannot be
fed. -/
theorem registerOutput_eq_error {e : Fault} (h : p.registerOutput d b kind = (p', .error e)) :
    kind = some .sink ∧ d.sinkTopic b = .error e ∨
      kind ≠ some .processor ∧ kind ≠ some .sink ∧
        e = .invalidOutputKind p.name b (kind.map NodeKind.text) := by
  unfold registerOutput at h
  split at h
  · split at h
    · cases h
    · rename_i htopic
      cases h
      exact .inl ⟨rfl, htopic⟩
  · cases h
  · rename_i hsink hprocessor
    cases h
    exact .inr ⟨hprocessor, hsink, rfl⟩

/-- Registering what feeds a processor fails for a source without a topic, and for what cannot
feed. -/
theorem registerInput_eq_error {e : Fault} (h : p.registerInput d input kind = (p', .error e)) :
    (∃ x, input = some x ∧ kind = some .source ∧ d.sourceTopic x = .error e) ∨
      (∀ x, input = some x → kind ≠ some .source ∧ kind ≠ some .processor) ∧
        e = .invalidInputKind p.name input (kind.map NodeKind.text) := by
  unfold registerInput at h
  split at h
  · dsimp only at h
    split at h
    · cases h
    · rename_i htopic
      cases h
      exact .inl ⟨_, rfl, rfl, htopic⟩
  · cases h
  · rename_i hsource hprocessor
    cases h
    refine .inr ⟨fun x hx => ⟨?_, ?_⟩, rfl⟩
    · exact fun hk => hsource x hx hk
    · exact fun hk => hprocessor x hx hk

theorem ofSupply_of_registerOutput {e : Fault} (h : p.registerOutput d b kind = (p', .error e))
    (hkind : kind = some .processor ∨ kind = some .sink) : e.OfSupply := by
  rcases registerOutput_eq_error h with ⟨-, htopic⟩ | ⟨hprocessor, hsink, -⟩
  · exact ofSupply_of_topicIn_eq_error htopic
  · exact (hkind.elim hprocessor hsink).elim

theorem ofSupply_of_registerInput {e : Fault} (h : p.registerInput d input kind = (p', .error e)) :
    e.OfSupply := by
  rcases registerInput_eq_error h with ⟨x, -, -, htopic⟩ | ⟨-, rfl⟩
  · exact ofSupply_of_topicIn_eq_error htopic
  · exact .invalidInputKind _ _ _

/-- The files that every processor has. -/
def ownFiles (d : Deployment) (p : Processor) : List Rendering :=
  [file .deployments (p.name ++ "-service") (p.service d),
    file .deployments (p.name ++ "-deploy") (p.deployment d),
    file .scaling (p.name ++ "-scaler") (p.scaler d)]

/-- The files of the connection to a processor that feeds this one. -/
def streamFiles (d : Deployment) (p : Processor) : List Rendering :=
  [file .streams (brokerName p.name) (p.broker d),
    file .streams p.subscriptionName.lossy (p.subscription d),
    file .topics p.inputText.lossy (p.topic d)]

/-- The files of a processor. -/
def files (d : Deployment) (p : Processor) : List Rendering :=
  p.ownFiles d ++ if p.fedByProcessor then p.streamFiles d else []

/-- What is written into the manifests of a processor can be written out. -/
structure Writable (d : Deployment) (p : Processor) : Prop where
  manifest : ∀ r ∈ p.files d, r.manifest.isWritable = true
  threshold : Decimal.isWritable d.scaling.lagThreshold = true

/-- The manifests of a processor can be written out if the numbers of the configuration can that
stand there. -/
theorem writable_iff {p : Processor} : p.Writable d ↔
    (∀ n ∈ d.ownNumbers, Decimal.isWritable n = true) ∧
    (p.fedByProcessor = true → ∀ n ∈ d.streamNumbers, Decimal.isWritable n = true) := by
  -- the threshold of the scaler counts among the own numbers
  have hown : (∀ r ∈ p.ownFiles d, r.manifest.isWritable = true) ∧
      Decimal.isWritable d.scaling.lagThreshold = true ↔
        ∀ n ∈ d.ownNumbers, Decimal.isWritable n = true := by
    simp [ownFiles, file, Manifest.isWritable, numbers_service, numbers_deployment, numbers_scaler,
      Deployment.ownNumbers]
    tauto
  have hstream : (∀ r ∈ p.streamFiles d, r.manifest.isWritable = true) ↔
      ∀ n ∈ d.streamNumbers, Decimal.isWritable n = true := by
    simp [streamFiles, file, Manifest.isWritable, numbers_broker, numbers_subscription,
      numbers_topic, Deployment.streamNumbers]
  rw [← hown, ← hstream]
  constructor
  · intro h
    refine ⟨⟨fun r hr => h.manifest r (List.mem_append_left _ hr), h.threshold⟩,
      fun hfed r hr => ?_⟩
    refine h.manifest r (List.mem_append_right _ ?_)
    rwa [if_pos hfed]
  · rintro ⟨⟨hown, hthreshold⟩, hstream⟩
    refine ⟨fun r hr => ?_, hthreshold⟩
    rcases List.mem_append.mp hr with hr | hr
    · exact hown r hr
    · split at hr
      · exact hstream ‹_› r hr
      · cases hr

section Renderings

variable {p : Processor}

/-- The scaler's file is made if its numbers can be written out, the threshold among them. -/
theorem scalerRendering_eq (hname : FileSafe p.name) : p.scalerRendering d =
    if Decimal.isWritable d.scaling.lagThreshold = true ∧ (p.scaler d).isWritable = true then
      .ok (file .scaling (p.name ++ "-scaler") (p.scaler d))
    else .error .tooLong := by
  have hscaler : FileSafe (p.name ++ "-scaler") := fileSafe_append_iff.mpr ⟨hname, by decide⟩
  rw [scalerRendering, rendering_eq_of_fileSafe hscaler]
  split <;> simp [*]

/-- The manifests that every processor has can be made if their numbers can be written out. -/
theorem ownRenderings_eq (hname : FileSafe p.name) : p.ownRenderings d =
    if (p.service d).isWritable = true ∧ (p.deployment d).isWritable = true ∧
      Decimal.isWritable d.scaling.lagThreshold = true ∧ (p.scaler d).isWritable = true then
      .ok (p.ownFiles d)
    else .error .tooLong := by
  have hservice : FileSafe (p.name ++ "-service") := fileSafe_append_iff.mpr ⟨hname, by decide⟩
  have hdeploy : FileSafe (p.name ++ "-deploy") := fileSafe_append_iff.mpr ⟨hname, by decide⟩
  simp only [ownRenderings, RawText.whole_append, rendering_eq_of_fileSafe hservice,
    rendering_eq_of_fileSafe hdeploy, scalerRendering_eq hname, bind, Except.bind, pure,
    Except.pure]
  by_cases hscaler : Decimal.isWritable d.scaling.lagThreshold = true ∧
      (p.scaler d).isWritable = true
  · cases (p.service d).isWritable <;> cases (p.deployment d).isWritable <;>
      simp [hscaler, ownFiles]
  · cases (p.service d).isWritable <;> cases (p.deployment d).isWritable <;> simp [hscaler]

/-- The manifests of a connection can be made if their numbers can be written out. -/
theorem streamRenderings_eq (hname : FileSafe p.name) (htopic : p.inputText.InFileName) :
    p.streamRenderings d =
      if (p.broker d).isWritable = true ∧ (p.subscription d).isWritable = true ∧
        (p.topic d).isWritable = true then .ok (p.streamFiles d)
      else .error .tooLong := by
  obtain ⟨topic, htext, htopic⟩ := htopic
  have hbroker : FileSafe (brokerName p.name) := fileSafe_append_iff.mpr ⟨by decide, hname⟩
  have hsubscription : FileSafe (topic ++ "-" ++ p.name ++ "-subscription") := by
    simp only [fileSafe_append_iff]
    exact ⟨⟨⟨htopic, by decide⟩, hname⟩, by decide⟩
  have hsubscribed : p.subscriptionName = .whole (topic ++ "-" ++ p.name ++ "-subscription") := by
    rw [subscriptionName, htext]
    rfl
  simp only [streamRenderings, streamFiles, hsubscribed, htext, rendering_eq_of_fileSafe hbroker,
    rendering_eq_of_fileSafe hsubscription, rendering_eq_of_fileSafe htopic, bind, Except.bind,
    pure, Except.pure]
  cases (p.broker d).isWritable <;> cases (p.subscription d).isWritable <;>
    cases (p.topic d).isWritable <;> rfl

theorem writable_iff_of_files : p.Writable d ↔
    ((p.service d).isWritable = true ∧ (p.deployment d).isWritable = true ∧
      Decimal.isWritable d.scaling.lagThreshold = true ∧ (p.scaler d).isWritable = true) ∧
    (p.fedByProcessor = true → (p.broker d).isWritable = true ∧
      (p.subscription d).isWritable = true ∧ (p.topic d).isWritable = true) := by
  constructor
  · intro h
    have hmanifest := h.manifest
    cases hfed : p.fedByProcessor <;>
      simp_all [files, ownFiles, streamFiles, file, h.threshold]
  · rintro ⟨⟨hservice, hdeploy, hthreshold, hscaler⟩, hstream⟩
    refine ⟨?_, hthreshold⟩
    cases hfed : p.fedByProcessor <;> simp_all [files, ownFiles, streamFiles, file]

/-- Under names that can be those of files, a processor has its files if its numbers can be written
out. -/
theorem renderings_eq_ok (hname : FileSafe p.name)
    (htopic : p.fedByProcessor = true → p.inputText.InFileName) (h : p.Writable d) :
    p.renderings d = .ok (p.files d) := by
  obtain ⟨hown, hstream⟩ := writable_iff_of_files.mp h
  rw [renderings, ownRenderings_eq hname, if_pos hown, files]
  cases hfed : p.fedByProcessor with
  | false =>
    rw [if_neg Bool.false_ne_true, List.append_nil]
    rfl
  | true =>
    rw [if_pos rfl]
    simp only [streamRenderings_eq hname (htopic hfed), if_pos (hstream hfed)]
    rfl

/-- Under such names, only its numbers can stop a processor's files. -/
theorem renderings_eq_tooLong (hname : FileSafe p.name)
    (htopic : p.fedByProcessor = true → p.inputText.InFileName) (h : ¬ p.Writable d) :
    p.renderings d = .error .tooLong := by
  rw [writable_iff_of_files, not_and_or] at h
  rw [renderings, ownRenderings_eq hname]
  split
  · rename_i hown
    obtain ⟨hfed, hstream⟩ := Classical.not_imp.mp (h.resolve_left (not_not.mpr hown))
    simp only [hfed, if_true, streamRenderings_eq hname (htopic hfed), if_neg hstream]
    rfl
  · rfl

/-- Whatever its names are, a processor whose manifests can be made has its files. -/
theorem eq_files_of_renderings (h : p.renderings d = .ok rs) :
    rs = p.files d ∧ p.Writable d ∧ (p.fedByProcessor = true → p.inputText.InFileName) := by
  -- what was made was writable and had a name, manifest by manifest
  have hown : ∀ {own}, p.ownRenderings d = .ok own → own = p.ownFiles d ∧
      (p.service d).isWritable = true ∧ (p.deployment d).isWritable = true ∧
      Decimal.isWritable d.scaling.lagThreshold = true ∧ (p.scaler d).isWritable = true := by
    intro own hown
    simp only [ownRenderings, scalerRendering, bind_eq_ok_iff, rendering_eq_ok_iff, pure,
      Except.pure, Except.ok.injEq] at hown
    obtain ⟨_, ⟨hservice, -, rfl⟩, _, ⟨hdeploy, -, rfl⟩, _, hscaler, rfl⟩ := hown
    split at hscaler
    · rename_i hthreshold
      obtain ⟨hwritable, -, rfl⟩ := rendering_eq_ok_iff.mp hscaler
      exact ⟨rfl, hservice, hdeploy, hthreshold, hwritable⟩
    · cases hscaler
  have hstream : ∀ {stream}, p.streamRenderings d = .ok stream → stream = p.streamFiles d ∧
      ((p.broker d).isWritable = true ∧ (p.subscription d).isWritable = true ∧
      (p.topic d).isWritable = true) ∧ p.inputText.InFileName := by
    intro stream hstream
    simp only [streamRenderings, bind_eq_ok_iff, rendering_eq_ok_iff, pure, Except.pure,
      Except.ok.injEq] at hstream
    obtain ⟨_, ⟨hbroker, -, rfl⟩, _, ⟨hsubscription, -, rfl⟩, _, ⟨htopic, hname, rfl⟩, rfl⟩ :=
      hstream
    exact ⟨rfl, ⟨hbroker, hsubscription, htopic⟩, hname⟩
  obtain ⟨own, hmade, h⟩ := bind_eq_ok_iff.mp h
  obtain ⟨rfl, hown⟩ := hown hmade
  rw [writable_iff_of_files]
  cases hfed : p.fedByProcessor with
  | false =>
    rw [hfed] at h
    cases h
    simp [files, hfed, hown]
  | true =>
    rw [hfed] at h
    obtain ⟨stream, hmade', h⟩ := bind_eq_ok_iff.mp h
    obtain ⟨rfl, hstream, hname⟩ := hstream hmade'
    cases h
    simp [files, hfed, hown, hstream, hname]

/-- No fault of a node stops a processor's files. -/
theorem renderings_ne_fault {e : Fault} : p.renderings d ≠ .error (.fault e) := by
  have hscaler : p.scalerRendering d ≠ .error (.fault e) := by
    unfold scalerRendering
    split
    · exact rendering_ne_fault
    · nofun
  -- every step but the last of each row makes one file
  have hown : p.ownRenderings d ≠ .error (.fault e) :=
    bind_ne_error rendering_ne_fault fun _ => bind_ne_error rendering_ne_fault fun _ =>
      bind_ne_error hscaler fun _ => nofun
  have hstream : p.streamRenderings d ≠ .error (.fault e) :=
    bind_ne_error rendering_ne_fault fun _ => bind_ne_error rendering_ne_fault fun _ =>
      bind_ne_error rendering_ne_fault fun _ => nofun
  refine bind_ne_error hown fun own => ?_
  split
  · exact bind_ne_error hstream fun _ => nofun
  · nofun

end Renderings

/-- The topic of a processor between nodes with safe names can be part of a file name. -/
theorem inFileName_inputText_wired {env : Assoc RawText RawText} {feed : Feed} {drain : Drain}
    (hns : FileSafe d.nsText)
    (hfeed : ∀ producer, feed = .processor producer → FileSafe producer)
    (hfed : (wired d a env feed drain).fedByProcessor = true) :
    (wired d a env feed drain).inputText.InFileName := by
  cases feed with
  | source origin topic => cases hfed
  | processor producer =>
    refine ⟨streamTopic d.nsText producer, rfl, ?_⟩
    simp only [streamTopic, fileSafe_append_iff]
    exact ⟨⟨⟨hns, by decide⟩, hfeed producer rfl⟩, by decide⟩

end Processor

section Neighbours

variable {env : Assoc RawText RawText}

/-- Making a processor's manifests means registering its output, then its input. -/
theorem processorRenderings_eq_ok_iff_registered : processorRenderings d t a b env = .ok rs ↔
    ∃ p p', (Processor.fresh a env).registerOutput d b (t.kindOf? b) = (p, .ok ()) ∧
      p.registerInput d (t.inputOf? a) ((t.inputOf? a).bind t.kindOf?) = (p', .ok ()) ∧
      p'.renderings d = .ok rs := by
  unfold processorRenderings
  rcases (Processor.fresh a env).registerOutput d b (t.kindOf? b) with ⟨p, f | ⟨⟩⟩
  · simp [Failure.ofFault, bind, Except.bind]
  · rcases hin : p.registerInput d (t.inputOf? a) ((t.inputOf? a).bind t.kindOf?) with ⟨p', f | ⟨⟩⟩
      <;>
      simp [hin, Failure.ofFault, bind, Except.bind]

/-- What stops a processor's manifests: its output, its input, or the name of a file. The output is
registered first, so its fault hides that of the input. -/
theorem processorRenderings_eq_error (h : processorRenderings d t a b env = .error f) :
    (∃ p e, (Processor.fresh a env).registerOutput d b (t.kindOf? b) = (p, .error e) ∧
      f = .fault e) ∨
    ∃ p, (Processor.fresh a env).registerOutput d b (t.kindOf? b) = (p, .ok ()) ∧
      ((∃ p' e, p.registerInput d (t.inputOf? a) ((t.inputOf? a).bind t.kindOf?) = (p', .error e) ∧
        f = .fault e) ∨
      ∃ p', p.registerInput d (t.inputOf? a) ((t.inputOf? a).bind t.kindOf?) = (p', .ok ()) ∧
        p'.renderings d = .error f) := by
  unfold processorRenderings at h
  rcases hout : (Processor.fresh a env).registerOutput d b (t.kindOf? b) with ⟨p, e | ⟨⟩⟩
  · rw [hout] at h
    cases h
    exact .inl ⟨p, e, rfl, rfl⟩
  · refine .inr ⟨p, rfl, ?_⟩
    rcases hin : p.registerInput d (t.inputOf? a) ((t.inputOf? a).bind t.kindOf?) with ⟨p', e | ⟨⟩⟩
    · simp only [hout, hin] at h
      cases h
      exact .inl ⟨p', e, rfl, rfl⟩
    · simp only [hout, hin, Failure.ofFault, bind, Except.bind] at h
      exact .inr ⟨p', rfl, h⟩

theorem fedBy_eq : (fun k x => t.inputOf? a = some x ∧ (t.inputOf? a).bind t.kindOf? = some k) =
    fun k x => t.inputOf? a = some x ∧ t.kindOf? x = some k := by
  funext k x
  refine propext (and_congr_right fun h => ?_)
  rw [h, Option.bind_some]

/-- With both its ends there, only its numbers can stop a processor's manifests. -/
theorem processorRenderings_eq_of_ends {drain : Drain} {feed : Feed}
    (hname : FileSafe a) (hns : FileSafe d.nsText) (hfed : ∀ x, t.inputOf? a = some x → FileSafe x)
    (hdrain : Drain.Of d b (fun k => t.kindOf? b = some k) drain)
    (hfeed : Feed.Of d (fun k x => t.inputOf? a = some x ∧ t.kindOf? x = some k) feed) :
    ((Processor.wired d a env feed drain).Writable d → processorRenderings d t a b env =
      .ok ((Processor.wired d a env feed drain).files d)) ∧
    (¬ (Processor.wired d a env feed drain).Writable d →
      processorRenderings d t a b env = .error .tooLong) := by
  have hregistered : processorRenderings d t a b env =
      (Processor.wired d a env feed drain).renderings d := by
    have hout := Processor.registerOutput_eq_ok_iff.mpr
      ⟨drain, hdrain, (rfl : (Processor.fresh a env).withDrain d drain = _)⟩
    have hin := Processor.registerInput_eq_ok_iff.mpr
      ⟨feed, fedBy_eq ▸ hfeed, (rfl : Processor.wired d a env feed drain = _)⟩
    unfold processorRenderings
    rw [hout]
    simp only [Failure.ofFault, bind, Except.bind, hin]
  have hproducer : ∀ producer, feed = .processor producer → FileSafe producer := by
    rintro producer rfl
    cases hfeed with
    | processor h => exact hfed _ h.1
  have htopic : (Processor.wired d a env feed drain).fedByProcessor = true →
      (Processor.wired d a env feed drain).inputText.InFileName :=
    Processor.inFileName_inputText_wired hns hproducer
  rw [hregistered]
  exact ⟨Processor.renderings_eq_ok hname htopic, Processor.renderings_eq_tooLong hname htopic⟩

/-- Without one of its ends, a processor that feeds a processor or a sink is stopped because nothing
feeds it or a topic is missing. -/
theorem ofSupply_of_processorRenderings
    (hends : ¬ ∃ drain feed, Drain.Of d b (fun k => t.kindOf? b = some k) drain ∧
      Feed.Of d (fun k x => t.inputOf? a = some x ∧ t.kindOf? x = some k) feed)
    (hb : t.kindOf? b = some .processor ∨ t.kindOf? b = some .sink) :
    ∃ e, processorRenderings d t a b env = .error (.fault e) ∧ e.OfSupply := by
  cases h : processorRenderings d t a b env with
  | ok rs =>
    obtain ⟨_, _, hout, hin, -⟩ := processorRenderings_eq_ok_iff_registered.mp h
    obtain ⟨drain, hdrain, rfl⟩ := Processor.registerOutput_eq_ok_iff.mp hout
    obtain ⟨feed, hfeed, rfl⟩ := Processor.registerInput_eq_ok_iff.mp hin
    exact absurd ⟨drain, feed, hdrain, fedBy_eq ▸ hfeed⟩ hends
  | error f =>
    rcases processorRenderings_eq_error h with
      ⟨p, e, hout, rfl⟩ | ⟨p, hout, ⟨p', e, hin, rfl⟩ | ⟨p', hin, -⟩⟩
    · exact ⟨e, rfl, Processor.ofSupply_of_registerOutput hout hb⟩
    · exact ⟨e, rfl, Processor.ofSupply_of_registerInput hin⟩
    · obtain ⟨drain, hdrain, rfl⟩ := Processor.registerOutput_eq_ok_iff.mp hout
      obtain ⟨feed, hfeed, rfl⟩ := Processor.registerInput_eq_ok_iff.mp hin
      exact absurd ⟨drain, feed, hdrain, fedBy_eq ▸ hfeed⟩ hends

end Neighbours

/-- The files of a node, where it is known which nodes there are and which feeds which. -/
inductive Block (d : Deployment) (has : NodeKind → String → Prop)
    (connects : String → String → Prop) : Node → List Rendering → Prop
  | source {name target : String} {topic : RawText} : d.sourceTopic name = .ok topic →
      Block d has connects (.source name target)
        [file .bindings (ingressBinding name target) (sourceManifest d name target topic)]
  | processor {name target : String} {input : Option String} {env : Assoc RawText RawText}
      {feed : Feed} {drain : Drain} : Feed.Of d (fun k x => connects x name ∧ has k x) feed →
      Drain.Of d target (fun k => has k target) drain →
      Block d has connects (.processor name target input env)
        ((Processor.wired d name env feed drain).files d)
  | sink {name : String} {topic : RawText} {inputs : List String} : d.sinkTopic name = .ok topic →
      Block d has connects (.sink name inputs)
        [file .bindings (egressBinding name) (sinkManifest d name topic)]

section Node

variable {n : Node}

/-- A block only needs to know what connects to the node, and only where that is a processor. -/
theorem Block.imp {has : NodeKind → String → Prop} {connects connects' : String → String → Prop}
    (h : Block d has connects n rs)
    (himp : n.kind = .processor → ∀ x, connects x n.name → connects' x n.name) :
    Block d has connects' n rs := by
  cases h with
  | source htopic => exact .source htopic
  | processor hfeed hdrain =>
    exact .processor (hfeed.imp fun _ _ hfed => ⟨himp rfl _ hfed.1, hfed.2⟩) hdrain
  | sink htopic => exact .sink htopic

/-- The names around a node hold no separator. -/
structure SafeAround (d : Deployment) (t : Topology) (n : Node) : Prop where
  ns : FileSafe d.nsText
  name : FileSafe n.name
  target : ∀ x, n.connectsTo? = some x → FileSafe x
  input : ∀ x, t.inputOf? n.name = some x → FileSafe x

/-- What is written into the files of a node can be written out. -/
structure WritableBlock (d : Deployment) (n : Node) (rs : List Rendering) : Prop where
  manifest : ∀ r ∈ rs, r.manifest.isWritable = true
  threshold : n.kind = .processor → Decimal.isWritable d.scaling.lagThreshold = true

/-- The binding of a source holds no numbers. -/
theorem writableBlock_source {topic : RawText} : WritableBlock d (.source a b)
    [file .bindings (ingressBinding a b) (sourceManifest d a b topic)] where
  manifest := by simp [file, isWritable_sourceManifest]
  threshold h := by cases h

/-- The binding of a sink holds no numbers. -/
theorem writableBlock_sink {inputs : List String} {topic : RawText} : WritableBlock d
    (.sink a inputs) [file .bindings (egressBinding a) (sinkManifest d a topic)] where
  manifest := by simp [file, isWritable_sinkManifest]
  threshold h := by cases h

theorem writableBlock_processor_iff {input : Option String} {env : Assoc RawText RawText}
    {p : Processor} : WritableBlock d (.processor a b input env) (p.files d) ↔ p.Writable d :=
  ⟨fun h => ⟨h.manifest, h.threshold rfl⟩, fun h => ⟨h.manifest, fun _ => h.threshold⟩⟩

/-- A node with a block has the manifests of this block, unless its numbers cannot be written
out. -/
theorem nodeRenderings_eq_of_block (hsafe : SafeAround d t n)
    (h : Block d (fun k x => t.kindOf? x = some k) (fun x y => t.inputOf? y = some x) n rs) :
    (WritableBlock d n rs → nodeRenderings d t n = .ok rs) ∧
    (¬ WritableBlock d n rs → nodeRenderings d t n = .error .tooLong) := by
  cases h with
  | @source a b topic htopic =>
    have hname : FileSafe a := hsafe.name
    refine ⟨fun _ => ?_, fun h => absurd writableBlock_source h⟩
    rw [nodeRenderings, sourceBinding_eq hname (hsafe.target b rfl)]
    exact singleton_eq_ok_iff.mpr ⟨topic, htopic, rfl⟩
  | @processor a b input env feed drain hfeed hdrain =>
    rw [writableBlock_processor_iff, nodeRenderings]
    exact processorRenderings_eq_of_ends hsafe.name hsafe.ns hsafe.input hdrain hfeed
  | @sink a topic inputs htopic =>
    have hname : FileSafe a := hsafe.name
    refine ⟨fun _ => ?_, fun h => absurd writableBlock_sink h⟩
    rw [nodeRenderings, sinkBinding_eq hname]
    exact singleton_eq_ok_iff.mpr ⟨topic, htopic, rfl⟩

/-- Manifests that can be made are the node's block, whatever the names around it are. -/
theorem block_of_nodeRenderings (h : nodeRenderings d t n = .ok rs) :
    Block d (fun k x => t.kindOf? x = some k) (fun x y => t.inputOf? y = some x) n rs ∧
      WritableBlock d n rs := by
  cases n with
  | source a b =>
    simp only [nodeRenderings, sourceBinding, bind_eq_ok_iff, Failure.ofFault_eq_ok_iff,
      rendering_eq_ok_iff, pure, Except.pure, Except.ok.injEq] at h
    obtain ⟨_, ⟨topic, htopic, -, -, rfl⟩, rfl⟩ := h
    exact ⟨.source htopic, writableBlock_source⟩
  | processor a b input env =>
    obtain ⟨p, p', hout, hin, hfiles⟩ := processorRenderings_eq_ok_iff_registered.mp h
    obtain ⟨drain, hdrain, rfl⟩ := Processor.registerOutput_eq_ok_iff.mp hout
    obtain ⟨feed, hfeed, rfl⟩ := Processor.registerInput_eq_ok_iff.mp hin
    rw [fedBy_eq] at hfeed
    obtain ⟨rfl, hwritable, -⟩ := Processor.eq_files_of_renderings hfiles
    exact ⟨.processor hfeed hdrain, writableBlock_processor_iff.mpr hwritable⟩
  | sink a inputs =>
    simp only [nodeRenderings, sinkBinding, bind_eq_ok_iff, Failure.ofFault_eq_ok_iff,
      rendering_eq_ok_iff, pure, Except.pure, Except.ok.injEq] at h
    obtain ⟨_, ⟨topic, htopic, -, -, rfl⟩, rfl⟩ := h
    exact ⟨.sink htopic, writableBlock_sink⟩

theorem sourceTopic_eq_error_of_nodeRenderings {e : Fault}
    (h : nodeRenderings d t (.source a b) = .error (.fault e)) : d.sourceTopic a = .error e := by
  rcases bind_eq_error_iff.mp h with h | ⟨_, -, h⟩
  · exact topic_eq_error h
  · cases h

theorem sinkTopic_eq_error_of_nodeRenderings {inputs : List String} {e : Fault}
    (h : nodeRenderings d t (.sink a inputs) = .error (.fault e)) : d.sinkTopic a = .error e := by
  rcases bind_eq_error_iff.mp h with h | ⟨_, -, h⟩
  · exact topic_eq_error h
  · cases h

/-- A node without a block is stopped because nothing feeds it or a topic is missing. -/
theorem ofSupply_of_nodeRenderings (hsafe : SafeAround d t n)
    (hlegal : ∀ x, n.kind = .processor → n.connectsTo? = some x →
      t.kindOf? x = some .processor ∨ t.kindOf? x = some .sink)
    (h : ¬ ∃ rs,
      Block d (fun k x => t.kindOf? x = some k) (fun x y => t.inputOf? y = some x) n rs) :
    ∃ e, nodeRenderings d t n = .error (.fault e) ∧ e.OfSupply := by
  cases n with
  | source a b =>
    have hname : FileSafe a := hsafe.name
    cases htopic : d.sourceTopic a with
    | ok topic => exact absurd ⟨_, .source htopic⟩ h
    | error e =>
      rw [nodeRenderings, sourceBinding_eq hname (hsafe.target b rfl), htopic]
      exact ⟨e, rfl, ofSupply_of_topicIn_eq_error htopic⟩
  | processor a b input env =>
    refine ofSupply_of_processorRenderings ?_ (hlegal b rfl rfl)
    rintro ⟨drain, feed, hdrain, hfeed⟩
    exact h ⟨_, .processor hfeed hdrain⟩
  | sink a inputs =>
    have hname : FileSafe a := hsafe.name
    cases htopic : d.sinkTopic a with
    | ok topic => exact absurd ⟨_, .sink htopic⟩ h
    | error e =>
      rw [nodeRenderings, sinkBinding_eq hname, htopic]
      exact ⟨e, rfl, ofSupply_of_topicIn_eq_error htopic⟩

end Node

end Mesh

end StreamMesh
