import StreamMesh.Proofs.Compile.Locality

/-!
# Registering the neighbours of a processor any number of times

The neighbours of a processor can be registered in any order and again and again, and some of the
calls may fail. What a processor says about its input follows the last of them, but for one thing: a
processor that once was fed by another one keeps the manifests of such a connection for good. A call
that fails leaves a trace only if it names a source without a topic, whose route is written down
before the topic is looked up.

## Main definitions

* `Mesh.Processor.Call`, `Mesh.Processor.call` — the calls, and what one of them does
* `Mesh.Processor.Wires`, `Mesh.Processor.run` — calls that all succeed, and any calls
* `Mesh.Processor.Follows` — a processor that agrees with what feeds it
* `Mesh.Processor.AgreeBut` — processors that differ in some settings only
* `Mesh.Processor.Call.Refused`, `Mesh.Processor.Call.remainder` — why a call fails, and what it
  leaves

## Main results

* `Mesh.Processor.renderings_eq_ok_iff`, `Mesh.Processor.renderings_eq_error` — which manifests a
  processor has, and when they can be made
* `Mesh.Processor.rewired_follows_iff` — when a processor agrees with its last input
* `Mesh.Processor.call_eq_error_iff` — when a call fails, and what it leaves
* `Mesh.Processor.agreeBut_run_accepted` — the calls that fail leave two settings at most
-/

namespace StreamMesh.Mesh.Processor

variable {d : Deployment} {p p' q q' : Processor} {a producer : String}
  {topic : RawText} {name : Option String} {kind : Option NodeKind} {env : Assoc RawText RawText}
  {feed : Feed} {drain : Drain} {rs : List Rendering} {e : Fault} {keys : List RawText}

/-- The registration of a neighbour. -/
inductive Call where
  | input (name : Option String) (kind : Option NodeKind)
  | output (name : String) (kind : Option NodeKind)
  deriving DecidableEq

variable {c : Call} {calls later before after : List Call}

/-- Registers one neighbour. -/
def call (d : Deployment) (p : Processor) : Call → Processor × Except Fault Unit
  | .input name kind => p.registerInput d name kind
  | .output name kind => p.registerOutput d name kind

/-- Calls that lead from one processor to another and all succeed. -/
inductive Wires (d : Deployment) : Processor → List Call → Processor → Prop
  | nil {p : Processor} : Wires d p [] p
  | cons {p p' q : Processor} {c : Call} {calls : List Call} : p.call d c = (q, .ok ()) →
      Wires d q calls p' → Wires d p (c :: calls) p'

/-- A processor after some calls, those that fail included. -/
def run (d : Deployment) (p : Processor) (calls : List Call) : Processor :=
  calls.foldl (fun p c => (p.call d c).1) p

section Agreement

/-- Processors that may differ in some settings, and in nothing else. -/
structure AgreeBut (keys : List RawText) (p q : Processor) : Prop where
  name : p.name = q.name
  inputTopic : p.inputTopic = q.inputTopic
  fedByProcessor : p.fedByProcessor = q.fedByProcessor
  env : ∀ key, key ∉ keys → p.env.find? key = q.env.find? key

theorem AgreeBut.refl : AgreeBut keys p p := ⟨rfl, rfl, rfl, fun _ _ => rfl⟩

theorem AgreeBut.trans (h : AgreeBut keys p q) (h' : AgreeBut keys q q') : AgreeBut keys p q' where
  name := h.name.trans h'.name
  inputTopic := h.inputTopic.trans h'.inputTopic
  fedByProcessor := h.fedByProcessor.trans h'.fedByProcessor
  env key hkey := (h.env key hkey).trans (h'.env key hkey)

variable {flagName flagValue routeName route : String}

/-- A route is written to two settings. -/
theorem agreeBut_withRoute :
    AgreeBut [flagName, routeName] (p.withRoute flagName flagValue routeName route) p where
  name := rfl
  inputTopic := rfl
  fedByProcessor := rfl
  env key hkey := by
    rw [List.mem_cons, List.mem_singleton, not_or] at hkey
    rw [withRoute, Assoc.find?_insert_of_ne _ hkey.2, Assoc.find?_insert_of_ne _ hkey.1]

/-- The same settings can be given to processors that agree. -/
theorem AgreeBut.withRoute (h : AgreeBut keys p q) :
    AgreeBut keys (p.withRoute flagName flagValue routeName route)
      (q.withRoute flagName flagValue routeName route) where
  name := h.name
  inputTopic := h.inputTopic
  fedByProcessor := h.fedByProcessor
  env key hkey := by
    simp only [Processor.withRoute]
    by_cases hroute : key = .whole routeName
    · rw [hroute, Assoc.find?_insert_self, Assoc.find?_insert_self]
    · rw [Assoc.find?_insert_of_ne _ hroute, Assoc.find?_insert_of_ne _ hroute]
      by_cases hflag : key = .whole flagName
      · rw [hflag, Assoc.find?_insert_self, Assoc.find?_insert_self]
      · rw [Assoc.find?_insert_of_ne _ hflag, Assoc.find?_insert_of_ne _ hflag, h.env key hkey]

/-- Writing a route changes nothing if both settings are there already. -/
theorem env_withRoute_eq_iff (hne : flagName ≠ routeName) :
    (p.withRoute flagName flagValue routeName route).env = p.env ↔
      p.env.find? flagName = some (.whole flagValue) ∧
        p.env.find? routeName = some (.whole route) := by
  constructor
  · intro h
    have hkeys : RawText.whole flagName ≠ .whole routeName := fun heq => hne (RawText.whole.inj heq)
    rw [← h, Processor.withRoute, Assoc.find?_insert_self, Assoc.find?_insert_of_ne _ hkeys,
      Assoc.find?_insert_self]
    exact ⟨rfl, rfl⟩
  · rintro ⟨hflag, hroute⟩
    rw [Processor.withRoute, Assoc.insert_of_find? hflag, Assoc.insert_of_find? hroute]

end Agreement

section Files

/-- The components, the subscriptions and the topics among files: the manifests that connect
processors, where the files are those of a processor. -/
def connecting (rs : List Rendering) : List Manifest :=
  ["Component", "Subscription", "KafkaTopic"].flatMap fun kind => ofKind kind rs

theorem connecting_files : connecting (p.files d) =
    if p.fedByProcessor then [p.broker d, p.subscription d, p.topic d] else [] := by
  unfold files
  cases p.fedByProcessor <;> rfl

theorem inputText_eq (h : p.inputTopic = some topic) : p.inputText = topic := by
  rw [inputText, h, Option.getD_some]

/-- The manifests of a processor are its files. They can be made if their numbers can be written out
and the topic of another processor that feeds it can be part of the name of a file. -/
theorem renderings_eq_ok_iff (hname : FileSafe p.name) : p.renderings d = .ok rs ↔
    rs = p.files d ∧ p.Writable d ∧ (p.fedByProcessor = true → p.inputText.InFileName) := by
  constructor
  · exact eq_files_of_renderings
  · rintro ⟨rfl, hwritable, htopic⟩
    exact renderings_eq_ok hname htopic hwritable

/-- What keeps the manifests of a processor from being made. -/
theorem renderings_eq_error (hname : FileSafe p.name) {f : Failure}
    (h : p.renderings d = .error f) : f = .tooLong ∧ ¬ p.Writable d ∨
      f = .ofFileName p.inputText ∧ p.fedByProcessor = true ∧ ¬ p.inputText.InFileName := by
  rcases bind_eq_error_iff.mp h with h | ⟨own, -, h⟩
  · -- the files that every processor has have safe names
    rw [ownRenderings_eq hname] at h
    split at h
    · cases h
    · rename_i hown
      cases h
      exact .inl ⟨rfl, fun hwritable => hown (writable_iff_of_files.mp hwritable).1⟩
  · split at h
    · rename_i hfed
      have hbroker : (RawText.whole (brokerName p.name)).InFileName :=
        RawText.inFileName_whole_iff.mpr (fileSafe_append_iff.mpr ⟨by decide, hname⟩)
      have hstream : p.Writable d → (p.broker d).isWritable = true ∧
          (p.subscription d).isWritable = true ∧ (p.topic d).isWritable = true :=
        fun hwritable => (writable_iff_of_files.mp hwritable).2 hfed
      rcases bind_eq_error_iff.mp h with h | ⟨_, -, h⟩
      · rcases bind_eq_error_iff.mp h with h | ⟨_, -, h⟩
        · rcases rendering_eq_error h with ⟨hf, hlong⟩ | ⟨-, hbad⟩
          · exact .inl ⟨hf, fun h => Bool.eq_false_iff.mp hlong (hstream h).1⟩
          · exact absurd hbroker hbad
        rcases bind_eq_error_iff.mp h with h | ⟨_, -, h⟩
        · rcases rendering_eq_error h with ⟨hf, hlong⟩ | ⟨hf, hbad⟩
          · exact .inl ⟨hf, fun h => Bool.eq_false_iff.mp hlong (hstream h).2.1⟩
          · -- the name of the subscription begins with the topic
            rw [subscriptionName, Failure.ofFileName_append, Failure.ofFileName_append,
              Failure.ofFileName_append] at hf
            refine .inr ⟨hf, hfed, fun htopic => hbad ?_⟩
            simp only [subscriptionName, RawText.inFileName_append_iff]
            exact ⟨⟨⟨htopic, by decide⟩, hname⟩, by decide⟩
        rcases bind_eq_error_iff.mp h with h | ⟨_, -, h⟩
        · rcases rendering_eq_error h with ⟨hf, hlong⟩ | ⟨hf, hbad⟩
          · exact .inl ⟨hf, fun h => Bool.eq_false_iff.mp hlong (hstream h).2.2⟩
          · exact .inr ⟨hf, hfed, hbad⟩
        · cases h
      · cases h
    · cases h

end Files

section Wires

/-- A call that succeeds gives the processor what feeds it or what it feeds. -/
theorem call_eq_ok_iff : p.call d c = (p', .ok ()) ↔
    (∃ name kind feed, c = .input name kind ∧
      Feed.Of d (fun k x => name = some x ∧ kind = some k) feed ∧ p' = p.withFeed d feed) ∨
    ∃ name kind drain, c = .output name kind ∧ Drain.Of d name (fun k => kind = some k) drain ∧
      p' = p.withDrain d drain := by
  cases c with
  | input name kind => simp [call, registerInput_eq_ok_iff]
  | output name kind => simp [call, registerOutput_eq_ok_iff]

theorem wires_append_iff :
    Wires d p (calls ++ later) p' ↔ ∃ q, Wires d p calls q ∧ Wires d q later p' := by
  induction calls generalizing p with
  | nil =>
    constructor
    · intro h
      exact ⟨p, .nil, h⟩
    · rintro ⟨q, hnil, h⟩
      cases hnil
      exact h
  | cons c rest ih =>
    constructor
    · intro h
      cases h with
      | cons hc hrest =>
        obtain ⟨q, hrest, hlater⟩ := ih.mp hrest
        exact ⟨q, .cons hc hrest, hlater⟩
    · rintro ⟨q, h, hlater⟩
      cases h with
      | cons hc hrest => exact .cons hc (ih.mpr ⟨q, hrest, hlater⟩)

theorem name_of_wires (h : Wires d p calls p') : p'.name = p.name := by
  induction h with
  | nil => rfl
  | cons hc _ ih =>
    rcases call_eq_ok_iff.mp hc with ⟨_, _, _, -, -, rfl⟩ | ⟨_, _, _, -, -, rfl⟩ <;> exact ih

/-- Outputs are written to two settings. -/
theorem agreeBut_of_outputs (h : Wires d p calls p')
    (hcalls : ∀ name kind, Call.input name kind ∉ calls) :
    AgreeBut ["IS_SINK", "OUTPUT_ROUTE"] p' p := by
  induction h with
  | nil => exact .refl
  | cons hc _ ih =>
    have hrest := ih fun name kind h => hcalls name kind (List.mem_cons_of_mem _ h)
    rcases call_eq_ok_iff.mp hc with ⟨name, kind, _, rfl, -, -⟩ | ⟨_, _, _, -, -, rfl⟩
    · exact absurd (List.mem_cons_self ..) (hcalls name kind)
    · exact hrest.trans agreeBut_withRoute

/-- Once a processor feeds it, a processor counts as fed by one. -/
theorem fedByProcessor_of_wires (h : Wires d p calls p') : p'.fedByProcessor = true ↔
    p.fedByProcessor = true ∨ ∃ producer, .input (some producer) (some .processor) ∈ calls := by
  induction h with
  | nil => simp
  | cons hc _ ih =>
    rw [ih]
    -- an input from a processor sets this, and no call sets it back
    rcases call_eq_ok_iff.mp hc with ⟨_, _, feed, rfl, hfeed, rfl⟩ | ⟨_, _, drain, rfl, -, rfl⟩
    · cases hfeed with
      | source hfed => simp [withFeed, Feed.isSource, hfed.1, hfed.2]
      | processor hfed => simp [withFeed, Feed.isSource, hfed.1, hfed.2]
    · simp [withDrain, withRoute]

/-- A processor counts as fed by one if its last input is one, or any before it. -/
theorem fedByProcessor_of_wires_fresh
    (h : Wires d (fresh a env) (before ++ .input name kind :: after) p)
    (hlast : ∀ name kind, Call.input name kind ∉ after)
    (hfeed : Feed.Of d (fun k x => name = some x ∧ kind = some k) feed) :
    p.fedByProcessor = true ↔ feed.isSource = false ∨
      ∃ producer, .input (some producer) (some .processor) ∈ before := by
  have hnone : ∀ producer, Call.input (some producer) (some .processor) ∉ after :=
    fun producer => hlast _ _
  rw [fedByProcessor_of_wires h]
  cases hfeed with
  | source hx => simp [fresh, Feed.isSource, hnone, hx.2]
  | @processor producer hx =>
    obtain ⟨rfl, rfl⟩ := hx
    exact iff_of_true (.inr ⟨producer, by simp⟩) (.inl rfl)

/-- What a processor says about its input is what its last input was. -/
theorem exists_feed_of_wires (h : Wires d p (before ++ .input name kind :: after) p')
    (hlast : ∀ name kind, Call.input name kind ∉ after) :
    ∃ feed, Feed.Of d (fun k x => name = some x ∧ kind = some k) feed ∧
      p'.env.find? "IS_SOURCE" = some (.whole (flag feed.isSource)) ∧
      p'.env.find? "INPUT_ROUTE" = some (.whole (feed.route p.name)) ∧
      p'.inputTopic = some (feed.topic d) := by
  obtain ⟨q, hbefore, hrest⟩ := wires_append_iff.mp h
  cases hrest with
  | cons hc hafter =>
    obtain ⟨feed, hfeed, rfl⟩ := registerInput_eq_ok_iff.mp hc
    -- the outputs after the last input are written elsewhere
    have hsame := agreeBut_of_outputs hafter hlast
    refine ⟨feed, hfeed, ?_, ?_, hsame.inputTopic⟩
    · rw [hsame.env _ (by decide)]
      simp [withFeed, withRoute, Assoc.find?_insert_of_ne]
    · rw [hsame.env _ (by decide), ← name_of_wires hbefore]
      simp [withFeed, withRoute]

end Wires

section Follows

/-- A processor that agrees with what feeds it, in its settings and in its manifests. -/
structure Follows (d : Deployment) (feed : Feed) (p : Processor) : Prop where
  isSource : p.env.find? "IS_SOURCE" = some (.whole (flag feed.isSource))
  inputTopic : p.inputTopic = some (feed.topic d)
  fedByProcessor : p.fedByProcessor = !feed.isSource
  /-- The manifests can be made, and connect the processor to another one if that feeds it. -/
  manifests : ∃ rs, p.renderings d = .ok rs ∧ connecting rs =
    if feed.isSource then [] else [p.broker d, p.subscription d, p.topic d]

/-- A topic between processors can be part of the name of a file if the producer's name can. -/
theorem fileSafe_streamTopic_iff (hns : FileSafe d.nsText) :
    FileSafe (streamTopic d.nsText producer) ↔ FileSafe producer := by
  have hyphen : FileSafe "-" := by decide
  have hstream : FileSafe "-stream" := by decide
  simp only [streamTopic, fileSafe_append_iff, hns, hyphen, hstream, true_and, and_true]

/-- A processor that names the right topic agrees with what feeds it if it takes a processor for a
processor and a source for a source. -/
theorem follows_iff (hname : FileSafe p.name) (hns : FileSafe d.nsText)
    (hflag : p.env.find? "IS_SOURCE" = some (.whole (flag feed.isSource)))
    (htopic : p.inputTopic = some (feed.topic d)) : p.Follows d feed ↔
      (p.fedByProcessor = !feed.isSource) ∧ p.Writable d ∧
        ∀ producer, feed = .processor producer → FileSafe producer := by
  constructor
  · intro h
    obtain ⟨rs, hrs, -⟩ := h.manifests
    obtain ⟨-, hwritable, hsafe⟩ := (renderings_eq_ok_iff hname).mp hrs
    refine ⟨h.fedByProcessor, hwritable, ?_⟩
    rintro producer rfl
    have hnamed := hsafe h.fedByProcessor
    rw [inputText_eq htopic] at hnamed
    exact (fileSafe_streamTopic_iff hns).mp (RawText.inFileName_whole_iff.mp hnamed)
  · rintro ⟨hfed, hwritable, hsafe⟩
    refine ⟨hflag, htopic, hfed, p.files d, ?_, ?_⟩
    · refine renderings_eq_ok hname (fun hprocessor => ?_) hwritable
      rw [inputText_eq htopic]
      cases feed with
      | source => cases hfed.symm.trans hprocessor
      | processor producer =>
        exact RawText.inFileName_whole_iff.mpr
          ((fileSafe_streamTopic_iff hns).mpr (hsafe producer rfl))
    · rw [connecting_files, hfed]
      cases feed <;> rfl

/-- After calls that all succeed, the settings and the topic of a processor are those of the last of
its inputs. Whether it has the manifests of a connection to another processor depends on all its
inputs: it has these as soon as one was a processor. So if its numbers can be written out, it agrees
with its last input exactly if this is a processor whose name can be part of the name of a file, or
a source after no processor. -/
theorem rewired_follows_iff (ha : Label.isStepName a = true) (hd : d.Validated) (hns : d.ns ≠ none)
    (h : Wires d (fresh a env) (before ++ .input name kind :: after) p)
    (hlast : ∀ name kind, Call.input name kind ∉ after) :
    ∃ feed, Feed.Of d (fun k x => name = some x ∧ kind = some k) feed ∧
      p.env.find? "IS_SOURCE" = some (.whole (flag feed.isSource)) ∧
      p.env.find? "INPUT_ROUTE" = some (.whole (feed.route a)) ∧
      p.inputTopic = some (feed.topic d) ∧
      (p.fedByProcessor = true ↔ feed.isSource = false ∨
        ∃ producer, .input (some producer) (some .processor) ∈ before) ∧
      (∀ rs, p.renderings d = .ok rs ↔ rs = p.files d ∧ p.Writable d ∧
        (p.fedByProcessor = true → (feed.topic d).InFileName)) ∧
      (∀ f, p.renderings d = .error f → f = .tooLong ∧ ¬ p.Writable d ∨
        f = .ofFileName (feed.topic d) ∧ p.fedByProcessor = true ∧
          ¬ (feed.topic d).InFileName) ∧
      (connecting (p.files d) =
        if p.fedByProcessor then [p.broker d, p.subscription d, p.topic d] else []) ∧
      (p.Follows d feed ↔ (p.Writable d ∧
          ∀ producer, feed = .processor producer → FileSafe producer) ∧
        (feed.isSource = true →
          ∀ producer, .input (some producer) (some .processor) ∉ before)) := by
  obtain ⟨feed, hfeed, hflag, hroute, htopic⟩ := exists_feed_of_wires h hlast
  have hname : FileSafe p.name := by
    rw [name_of_wires h]
    exact (Label.spelled_of_isStepName ha).fileSafe
  have hfed := fedByProcessor_of_wires_fresh h hlast hfeed
  have htext : p.inputText = feed.topic d := inputText_eq htopic
  refine ⟨feed, hfeed, hflag, hroute, htopic, hfed, fun rs => ?_, fun f hf => ?_, connecting_files,
    ?_⟩
  · rw [renderings_eq_ok_iff hname, htext]
  · rw [← htext]
    exact renderings_eq_error hname hf
  · rw [follows_iff hname (hd.fileSafe_nsText hns) hflag htopic, and_comm]
    refine and_congr_right fun _ => ?_
    -- a processor that feeds it is taken for one, a source only if no processor came before
    cases hsource : feed.isSource with
    | false => simp [hfed.mpr (.inl hsource)]
    | true =>
      rw [Bool.not_true, ← Bool.not_eq_true, hfed, hsource]
      simp

/-- A processor that is moved from a source to another processor agrees with that one. -/
theorem rewired_follows_iff_processor :
    Label.isStepName "count" = true ∧ Deployment.inDemo.Validated ∧ Deployment.inDemo.ns ≠ none ∧
    ∃ p, Wires Deployment.inDemo (fresh "count" .empty) ([.input (some "in") (some .source)] ++
        .input (some "clean") (some .processor) :: [.output "out" (some .sink)]) p ∧
      p.Follows Deployment.inDemo (.processor "clean") := by
  have hwires : Wires Deployment.inDemo (fresh "count" .empty)
      ([.input (some "in") (some .source)] ++
        .input (some "clean") (some .processor) :: [.output "out" (some .sink)]) _ :=
    .cons rfl (.cons rfl (.cons rfl .nil))
  refine ⟨rfl, Deployment.validated_inDemo, nofun, _, hwires, ?_⟩
  obtain ⟨feed, hfeed, -, -, -, -, -, -, -, hfollows⟩ :=
    rewired_follows_iff rfl Deployment.validated_inDemo nofun hwires (by simp)
  cases hfeed with
  | source hx => cases hx.2
  | processor hx =>
    obtain rfl := Option.some.inj hx.1
    refine hfollows.mpr ⟨⟨writable_iff.mpr (by decide), ?_⟩, nofun⟩
    rintro _ ⟨⟩
    decide

/-- A processor that is moved from another processor to a source keeps the manifests of the
connection that it had, with the topic of the source. -/
theorem connected_to_source :
    Label.isStepName "count" = true ∧ Deployment.inDemo.Validated ∧ Deployment.inDemo.ns ≠ none ∧
    ∃ p rs, Wires Deployment.inDemo (fresh "count" .empty)
        [.input (some "clean") (some .processor), .input (some "in") (some .source)] p ∧
      p.env.find? "IS_SOURCE" = some (.whole "true") ∧ p.inputTopic = some (.whole "orders") ∧
      p.fedByProcessor = true ∧ p.renderings Deployment.inDemo = .ok rs ∧
      connecting rs = [p.broker Deployment.inDemo, p.subscription Deployment.inDemo,
        p.topic Deployment.inDemo] :=
  ⟨rfl, Deployment.validated_inDemo, nofun, _, _, .cons rfl (.cons rfl .nil), rfl, rfl, rfl,
    renderings_eq_ok (by decide) (fun _ => ⟨_, rfl, by decide⟩) (writable_iff.mpr (by decide)), rfl⟩

end Follows

section Failures

/-- What a call leaves that fails. The route of a source is written down before its topic is looked
up. -/
def Call.remainder (p : Processor) : Call → Processor
  | .input (some source) (some .source) =>
    p.withRoute "IS_SOURCE" "true" "INPUT_ROUTE" ("/" ++ ingressBinding source p.name)
  | _ => p

/-- Why a call on a processor of a name fails. -/
inductive Call.Refused (d : Deployment) (a : String) : Call → Fault → Prop
  | source {source : String} {e : Fault} : d.sourceTopic source = .error e →
      Refused d a (.input (some source) (some .source)) e
  | sink {sink : String} {e : Fault} : d.sinkTopic sink = .error e →
      Refused d a (.output sink (some .sink)) e
  | inputKind {name : Option String} {kind : Option NodeKind} :
      (∀ x, name = some x → kind ≠ some .source ∧ kind ≠ some .processor) →
      Refused d a (.input name kind) (.invalidInputKind a name (kind.map NodeKind.text))
  | outputKind {name : String} {kind : Option NodeKind} :
      kind ≠ some .processor → kind ≠ some .sink →
      Refused d a (.output name kind) (.invalidOutputKind a name (kind.map NodeKind.text))

/-- Whether a call succeeds, which is no matter of the processor. -/
def Call.accepted (d : Deployment) : Call → Bool
  | .input (some source) (some .source) => (d.sourceTopic source).isOk
  | .input (some _) (some .processor) => true
  | .output sink (some .sink) => (d.sinkTopic sink).isOk
  | .output _ (some .processor) => true
  | _ => false

theorem refused_of_call (h : p.call d c = (p', .error e)) : c.Refused d p.name e := by
  cases c with
  | input name kind =>
    rcases registerInput_eq_error h with ⟨source, rfl, rfl, htopic⟩ | ⟨hkind, rfl⟩
    · exact .source htopic
    · exact .inputKind hkind
  | output name kind =>
    rcases registerOutput_eq_error h with ⟨rfl, htopic⟩ | ⟨hprocessor, hsink, rfl⟩
    · exact .sink htopic
    · exact .outputKind hprocessor hsink

theorem call_of_refused (h : c.Refused d p.name e) : p.call d c = (c.remainder p, .error e) := by
  cases h with
  | source htopic => simp [call, registerInput, htopic, Call.remainder]
  | sink htopic => simp [call, registerOutput, htopic, Call.remainder]
  | @inputKind name kind hkind =>
    cases name with
    | none => rfl
    | some x =>
      obtain ⟨hsource, hprocessor⟩ := hkind x rfl
      rcases kind with _ | _ | _ | _
      · rfl
      · exact absurd rfl hsource
      · exact absurd rfl hprocessor
      · rfl
  | @outputKind name kind hprocessor hsink =>
    rcases kind with _ | _ | _ | _
    · rfl
    · rfl
    · exact absurd rfl hprocessor
    · exact absurd rfl hsink

/-- When a call fails, and what it leaves. -/
theorem call_eq_error_iff :
    p.call d c = (p', .error e) ↔ c.Refused d p.name e ∧ p' = c.remainder p := by
  constructor
  · intro h
    have hrefused := refused_of_call h
    rw [call_of_refused hrefused] at h
    exact ⟨hrefused, (Prod.mk.inj h).1.symm⟩
  · rintro ⟨hrefused, rfl⟩
    exact call_of_refused hrefused

/-- A call that fails leaves two settings at most. -/
theorem agreeBut_remainder (c : Call) :
    AgreeBut ["IS_SOURCE", "INPUT_ROUTE"] (c.remainder p) p := by
  unfold Call.remainder
  split
  · exact agreeBut_withRoute
  · exact .refl

theorem env_remainder_iff : (c.remainder p).env = p.env ↔
    ∀ source, c = .input (some source) (some .source) →
      p.env.find? "IS_SOURCE" = some (.whole "true") ∧
      p.env.find? "INPUT_ROUTE" = some (.whole ("/" ++ ingressBinding source p.name)) := by
  unfold Call.remainder
  split
  · simp [env_withRoute_eq_iff]
  · rename_i hother
    exact iff_of_true rfl fun source h => absurd h (hother source)

/-- A call that fails, whatever calls came before, leaves the topic of a processor as it was, and
what it counts as fed by. It changes the settings exactly if it names a source without a topic, and
the processor does not have the settings for this source already. -/
theorem failed_call_unchanged_iff (h : p.call d c = (p', .error e)) :
    c.Refused d p.name e ∧ p'.name = p.name ∧ p'.inputTopic = p.inputTopic ∧
      p'.fedByProcessor = p.fedByProcessor ∧ p'.env = (c.remainder p).env ∧
      (p'.env = p.env ↔ ∀ source, c = .input (some source) (some .source) →
        p.env.find? "IS_SOURCE" = some (.whole "true") ∧
        p.env.find? "INPUT_ROUTE" = some (.whole ("/" ++ ingressBinding source p.name))) := by
  obtain ⟨hrefused, rfl⟩ := call_eq_error_iff.mp h
  have hagree := agreeBut_remainder (p := p) c
  exact ⟨hrefused, hagree.name, hagree.inputTopic, hagree.fedByProcessor, rfl, env_remainder_iff⟩

/-- A processor that a source feeds. -/
def sourced : Processor :=
  run Deployment.inDemo (fresh "count" .empty) [.input (some "in") (some .source)]

/-- A call that fails for a sink without a topic leaves the settings of such a processor. -/
theorem failed_call_unchanged_iff_sink :
    ∃ p' e, sourced.call Deployment.inDemo (.output "lost" (some .sink)) = (p', .error e) ∧
      p'.env = sourced.env := by
  have hfailed : sourced.call Deployment.inDemo (.output "lost" (some .sink)) = (_, .error _) := rfl
  obtain ⟨-, -, -, -, -, hsame⟩ := failed_call_unchanged_iff hfailed
  refine ⟨_, _, hfailed, hsame.mpr ?_⟩
  rintro _ ⟨⟩

/-- A call that fails for a source without a topic leaves the route of this source. -/
theorem unmapped_source_recorded : ∃ p' e,
    (fresh "count" .empty).call Deployment.inDemo (.input (some "lost") (some .source)) =
        (p', .error e) ∧
      (fresh "count" .empty).env.entries = [] ∧
      p'.env.entries = [(.whole "IS_SOURCE", .whole "true"),
        (.whole "INPUT_ROUTE", .whole "/lost-count-binding")] :=
  ⟨_, _, rfl, rfl, rfl⟩

/-- A call succeeds on every processor, or on none. -/
theorem accepted_iff : c.accepted d = true ↔ ∃ p', p.call d c = (p', .ok ()) := by
  cases c with
  | input name kind =>
    rcases name with _ | x <;> rcases kind with _ | _ | _ | _ <;>
      simp [Call.accepted, call, registerInput]
    cases d.sourceTopic x <;> simp [Except.isOk, Except.toBool]
  | output name kind =>
    rcases kind with _ | _ | _ | _ <;> simp [Call.accepted, call, registerOutput]
    cases d.sinkTopic name <;> simp [Except.isOk, Except.toBool]

theorem AgreeBut.withFeed (h : AgreeBut keys p q) :
    AgreeBut keys (p.withFeed d feed) (q.withFeed d feed) where
  name := h.name
  inputTopic := rfl
  fedByProcessor := by simp only [Processor.withFeed, h.fedByProcessor]
  env key hkey := by
    change (p.withRoute _ _ _ (feed.route p.name)).env.find? key =
      (q.withRoute _ _ _ (feed.route q.name)).env.find? key
    rw [h.name]
    exact h.withRoute.env key hkey

theorem AgreeBut.withDrain (h : AgreeBut keys p q) :
    AgreeBut keys (p.withDrain d drain) (q.withDrain d drain) := by
  rw [Processor.withDrain, Processor.withDrain, h.name]
  exact h.withRoute

/-- The calls that succeed do the same to processors that agree. -/
theorem AgreeBut.call (h : AgreeBut keys p q) (hc : p.call d c = (p', .ok ())) :
    ∃ q', q.call d c = (q', .ok ()) ∧ AgreeBut keys p' q' := by
  rcases call_eq_ok_iff.mp hc with
    ⟨name, kind, feed, rfl, hfeed, rfl⟩ | ⟨name, kind, drain, rfl, hdrain, rfl⟩
  · exact ⟨_, call_eq_ok_iff.mpr (.inl ⟨name, kind, feed, rfl, hfeed, rfl⟩), h.withFeed⟩
  · exact ⟨_, call_eq_ok_iff.mpr (.inr ⟨name, kind, drain, rfl, hdrain, rfl⟩), h.withDrain⟩

/-- Any calls do what those of them do that succeed, two settings apart. -/
theorem agreeBut_run_accepted (d : Deployment) (p : Processor) (calls : List Call) :
    ∃ q, Wires d p (calls.filter (Call.accepted d)) q ∧
      AgreeBut ["IS_SOURCE", "INPUT_ROUTE"] (run d p calls) q := by
  -- the induction needs any two processors that agree, as a failed call sets them apart
  have hagree : ∀ {p q}, AgreeBut ["IS_SOURCE", "INPUT_ROUTE"] p q →
      ∃ q', Wires d q (calls.filter (Call.accepted d)) q' ∧
        AgreeBut ["IS_SOURCE", "INPUT_ROUTE"] (run d p calls) q' := by
    induction calls with
    | nil => exact fun h => ⟨_, .nil, h⟩
    | cons c rest ih =>
      intro p q h
      rcases hc : p.call d c with ⟨p', e | ⟨⟩⟩
      · have hrefused : ¬ c.accepted d = true := fun hok => by
          obtain ⟨_, hok⟩ := accepted_iff.mp hok
          rw [hc] at hok
          cases hok
        obtain ⟨-, rfl⟩ := call_eq_error_iff.mp hc
        rw [List.filter_cons_of_neg hrefused]
        have hrest := ih ((agreeBut_remainder c).trans h)
        rwa [run, List.foldl_cons, hc]
      · obtain ⟨q', hq, h'⟩ := h.call hc
        rw [List.filter_cons_of_pos (accepted_iff.mpr ⟨p', hc⟩)]
        obtain ⟨q'', hrest, hagree⟩ := ih h'
        refine ⟨q'', .cons hq hrest, ?_⟩
        rwa [run, List.foldl_cons, hc]
  exact hagree .refl

end Failures

end StreamMesh.Mesh.Processor
