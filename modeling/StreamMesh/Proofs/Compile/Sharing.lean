import StreamMesh.Proofs.Compile.Layout

/-!
# What pipelines of different namespaces share

Topics and consumer groups of all pipelines live side by side in one broker. They are named after
the namespace and a processor, with a hyphen between, and both may hold hyphens themselves. So two
pipelines in different namespaces come to the same name exactly if what one namespace has more than
the other is what the processor of the other has more in front.

## Main definitions

* `Meet` — a namespace and a name that are put together to the same text as two others
* `Compiled.topicNames`, `Compiled.groups` — the topics and the groups that a result names

## Main results

* `glued_eq_iff` — when texts with a hyphen between are put together to the same
* `compiled_sharing_iff` — what the results of two namespaces share
* `namespaces_share` — two pipelines in different namespaces that share a topic and both groups
-/

namespace StreamMesh

open Mesh Mesh.Object

variable {spec spec' : Spec} {config config' d : Deployment} {c c' : Compiled} {p : Plan}
  {a b a' ns ns' x : String} {o : Object} {os : List Object} {rs : List Rendering}

section Glue

/-- One namespace goes on where the other ends, with what the name in the other starts with. -/
def Meet (ns a ns' a' : String) : Prop :=
  ∃ x, (ns' = ns ++ "-" ++ x ∧ a = x ++ "-" ++ a') ∨ (ns = ns' ++ "-" ++ x ∧ a' = x ++ "-" ++ a)

/-- What follows a text that is the longer of two, where both are continued by a hyphen. -/
theorem exists_of_toList_eq {l : List Char} (hns : ns ≠ ns') (hlonger : ns'.toList = ns.toList ++ l)
    (hrest : '-' :: a.toList = l ++ '-' :: a'.toList) :
    ∃ x, ns' = ns ++ "-" ++ x ∧ a = x ++ "-" ++ a' := by
  cases l with
  | nil =>
    rw [List.append_nil, String.toList_inj] at hlonger
    exact absurd hlonger.symm hns
  | cons hyphen l =>
    -- the longer text goes on with the hyphen that follows the shorter one
    rw [List.cons_append, List.cons.injEq] at hrest
    obtain ⟨rfl, hrest⟩ := hrest
    refine ⟨String.ofList l, String.toList_inj.mp ?_, String.toList_inj.mp ?_⟩
    · simpa using hlonger
    · simpa using hrest

/-- Texts with a hyphen between are put together to the same only where they meet. -/
theorem glued_eq_iff (hns : ns ≠ ns') : ns ++ "-" ++ a = ns' ++ "-" ++ a' ↔ Meet ns a ns' a' := by
  constructor
  · intro h
    have hlists : ns.toList ++ '-' :: a.toList = ns'.toList ++ '-' :: a'.toList := by
      simpa using congrArg String.toList h
    -- one of the two namespaces is the front of the other
    rcases List.append_eq_append_iff.mp hlists with ⟨l, hlonger, hrest⟩ | ⟨l, hlonger, hrest⟩
    · obtain ⟨x, hx⟩ := exists_of_toList_eq hns hlonger hrest
      exact ⟨x, .inl hx⟩
    · obtain ⟨x, hx⟩ := exists_of_toList_eq hns.symm hlonger hrest
      exact ⟨x, .inr hx⟩
  · rintro ⟨x, ⟨rfl, rfl⟩ | ⟨rfl, rfl⟩⟩ <;> simp only [String.append_assoc]

theorem streamTopic_eq_iff (hns : ns ≠ ns') :
    streamTopic ns a = streamTopic ns' a' ↔ Meet ns a ns' a' := by
  rw [← glued_eq_iff hns]
  exact String.append_left_inj _

theorem consumerGroup_eq_iff (hns : ns ≠ ns') :
    consumerGroup ns a = consumerGroup ns' a' ↔ Meet ns a ns' a' := by
  rw [← glued_eq_iff hns]
  exact String.append_left_inj _

end Glue

namespace Compiled

/-- The names of the topics that a result makes. -/
def topicNames (c : Compiled) : List (Option RawText) :=
  (ofKind "KafkaTopic" c.renderings).map Manifest.name?

/-- The consumer groups that the bindings, brokers and scalers of a result name. -/
def groups (c : Compiled) : List (Option RawText) := c.renderings.flatMap fun r => r.manifest.groups

end Compiled

/-- Where an object names a group, the group is that of a processor. -/
theorem Mesh.Object.Of.has_reader (hlegal : spec.Legal) (h : o.Of spec) (hq : o.reader? = some a) :
    spec.Has .processor a := by
  cases o with
  | ingress x b =>
    cases hq
    exact (hlegal x a h.connects).1 h.source
  | scaler =>
    cases hq
    exact h
  | broker =>
    cases hq
    obtain ⟨_, h⟩ := h
    exact h.consumer
  | egress | service | deployment | subscription | topic | tracing => cases hq

/-- What a compilation makes: the configured objects of its pipeline, and no others. -/
theorem exists_configured_objects (h : compile spec config = .ok c) :
    ∃ d os, c.ns = d.nsText ∧ List.Forall₂ (Configured d) os c.renderings ∧ spec.Legal ∧
      (∀ o ∈ os, o.Of spec) ∧ (∀ a, spec.Has .processor a → scaler a ∈ os) ∧
      ∀ a b, spec.Streams a b → topic a b ∈ os := by
  obtain ⟨p, d, rs, -, hplan, -, -, hrs, rfl⟩ := compile_eq_ok_iff.mp h
  have hp := planned_of_plan_eq_ok hplan
  refine ⟨d, _, rfl, configured_files hp hrs, hp.legal, ?_, ?_, ?_⟩
  · intro o ho
    rcases List.mem_append.mp ho with ho | ho
    · obtain ⟨a, -, ho⟩ := List.mem_flatMap.mp ho
      exact hp.of_mem_objectsAt ho
    · obtain rfl := List.mem_singleton.mp ho
      trivial
  · intro a ha
    have horder : a ∈ p.order := hp.mem_order_of_kindOf? (hp.kindOf?_eq_some_iff.mpr ha)
    refine List.mem_append_left _ (List.mem_flatMap.mpr ⟨a, horder, ?_⟩)
    exact hp.mem_objectsAt_of_processor ha (by simp)
  · intro a b hab
    have horder : b ∈ p.order := hp.mem_order_of_kindOf? (hp.kindOf?_eq_some_iff.mpr hab.consumer)
    refine List.mem_append_left _ (List.mem_flatMap.mpr ⟨b, horder, ?_⟩)
    exact hp.mem_objectsAt_of_streams hab (by simp [ofStream])

/-- The topics of a result are those of the processors that feed a processor. -/
theorem mem_topicNames_iff (h : compile spec config = .ok c) {name : Option RawText} :
    name ∈ c.topicNames ↔ ∃ a b, spec.Streams a b ∧ name = some (.whole (streamTopic c.ns a)) := by
  obtain ⟨d, os, hns, hfiles, -, hof, -, htopics⟩ := exists_configured_objects h
  rw [hns, Compiled.topicNames, List.mem_map]
  constructor
  · rintro ⟨m, hm, rfl⟩
    obtain ⟨hm, hkind⟩ := List.mem_filter.mp hm
    obtain ⟨r, hr, rfl⟩ := List.mem_map.mp hm
    obtain ⟨o, ho, hor⟩ := exists_left_of_forall₂ hfiles hr
    rw [hor.kind_eq, beq_iff_eq, Option.some.injEq] at hkind
    cases o with
    | topic a b => exact ⟨a, b, hof _ ho, hor.name_eq⟩
    -- no other object is of this kind
    | _ => simp [kind] at hkind
  · rintro ⟨a, b, hab, rfl⟩
    obtain ⟨r, hr, hor⟩ := exists_right_of_forall₂ hfiles (htopics a b hab)
    have hkind : r.manifest.kind? = some (.whole "KafkaTopic") := hor.kind_eq
    refine ⟨r.manifest, List.mem_filter.mpr ⟨List.mem_map_of_mem hr, beq_iff_eq.mpr hkind⟩, ?_⟩
    exact hor.name_eq

/-- The groups of a result are those of all processors. -/
theorem mem_groups_iff (h : compile spec config = .ok c) {group : Option RawText} :
    group ∈ c.groups ↔
      ∃ q, spec.Has .processor q ∧ group = some (.whole (consumerGroup c.ns q)) := by
  obtain ⟨d, os, hns, hfiles, hlegal, hof, hscalers, -⟩ := exists_configured_objects h
  rw [hns, Compiled.groups, List.mem_flatMap]
  constructor
  · rintro ⟨r, hr, hgroup⟩
    obtain ⟨o, ho, hor⟩ := exists_left_of_forall₂ hfiles hr
    rw [hor.groups, Option.mem_toList, Option.map_eq_some_iff] at hgroup
    obtain ⟨q, hq, rfl⟩ := hgroup
    exact ⟨q, (hof o ho).has_reader hlegal hq, rfl⟩
  · rintro ⟨q, hq, rfl⟩
    obtain ⟨r, hr, hor⟩ := exists_right_of_forall₂ hfiles (hscalers q hq)
    refine ⟨r, hr, ?_⟩
    rw [hor.groups]
    exact List.mem_singleton.mpr rfl

/-- The results of two different namespaces share a topic exactly if producers of theirs meet, and a
consumer group exactly if processors of theirs meet. -/
theorem compiled_sharing_iff (h : compile spec config = .ok c) (h' : compile spec' config' = .ok c')
    (hns : c.ns ≠ c'.ns) :
    ((∃ name, name ∈ c.topicNames ∧ name ∈ c'.topicNames) ↔
      ∃ a b a' b', spec.Streams a b ∧ spec'.Streams a' b' ∧ Meet c.ns a c'.ns a') ∧
    ((∃ group, group ∈ c.groups ∧ group ∈ c'.groups) ↔
      ∃ q q', spec.Has .processor q ∧ spec'.Has .processor q' ∧ Meet c.ns q c'.ns q') := by
  -- a shared name is one that two producers or processors come to have alike
  constructor
  · constructor
    · rintro ⟨name, hname, hname'⟩
      obtain ⟨a, b, hab, rfl⟩ := (mem_topicNames_iff h).mp hname
      obtain ⟨a', b', hab', heq⟩ := (mem_topicNames_iff h').mp hname'
      replace heq := RawText.whole.inj (Option.some.inj heq)
      exact ⟨a, b, a', b', hab, hab', (streamTopic_eq_iff hns).mp heq⟩
    · rintro ⟨a, b, a', b', hab, hab', hmeet⟩
      refine ⟨some (.whole (streamTopic c.ns a)), (mem_topicNames_iff h).mpr ⟨a, b, hab, rfl⟩, ?_⟩
      rw [(streamTopic_eq_iff hns).mpr hmeet]
      exact (mem_topicNames_iff h').mpr ⟨a', b', hab', rfl⟩
  · constructor
    · rintro ⟨group, hgroup, hgroup'⟩
      obtain ⟨q, hq, rfl⟩ := (mem_groups_iff h).mp hgroup
      obtain ⟨q', hq', heq⟩ := (mem_groups_iff h').mp hgroup'
      replace heq := RawText.whole.inj (Option.some.inj heq)
      exact ⟨q, q', hq, hq', (consumerGroup_eq_iff hns).mp heq⟩
    · rintro ⟨q, q', hq, hq', hmeet⟩
      refine ⟨some (.whole (consumerGroup c.ns q)), (mem_groups_iff h).mpr ⟨q, hq, rfl⟩, ?_⟩
      rw [(consumerGroup_eq_iff hns).mpr hmeet]
      exact (mem_groups_iff h').mpr ⟨q', hq', rfl⟩

section Chain

/-- The document of such a pipeline. -/
def Spec.documentChain (name a b : String) : Value :=
  .map [(.str "name", .str name), (.str "steps", .list [
    .map [(.str "name", .str "in"), (.str "kind", .str "source"), (.str "connectsTo", .str a)],
    .map [(.str "name", .str a), (.str "kind", .str "processor"), (.str "connectsTo", .str b)],
    .map [(.str "name", .str b), (.str "kind", .str "processor"), (.str "connectsTo", .str "out")],
    .map [(.str "name", .str "out"), (.str "kind", .str "sink")]])]

variable {name b : String} {env : List EnvEntry}

theorem Spec.streams_chain : (Spec.chain name a b env).Streams a b where
  producer := has_chain.mpr (.inr (.inl ⟨rfl, .inl rfl⟩))
  connects := connects_chain.mpr (.inr (.inl ⟨rfl, rfl⟩))
  consumer := has_chain.mpr (.inr (.inl ⟨rfl, .inr rfl⟩))

variable (hname : Label.isNamespace name = true) (hnodup : ["", "in", a, b, "out"].Nodup)

include hname hnodup

/-- Such a pipeline compiles, in the namespace of its name. -/
theorem exists_compile_chain (hspec : (Spec.chain name a b env).Validated) :
    ∃ c, compile (Spec.chain name a b env) Deployment.sample = .ok c ∧ c.ns = name := by
  obtain ⟨c, h⟩ := (compile_isOk_iff hspec.named Deployment.validated_sample).mpr
    ⟨holds_chain hname hnodup, Spec.writable_sample_numbers _⟩
  have hc := compilation_of_compile_eq_ok Deployment.validated_sample h
  have hpipeline : name = c.pipeline := RawText.whole.inj (Option.some.inj hc.name)
  refine ⟨c, h, hc.ns.trans ?_⟩
  rw [← hpipeline]
  rfl

end Chain

/-- Where no namespace starts with the other, nothing is shared. -/
theorem compiled_sharing_none : ∃ c c',
    compile (Spec.chain "demo" "clean" "count" []) Deployment.sample = .ok c ∧
    compile (Spec.chain "tests" "clean" "count" []) Deployment.sample = .ok c' ∧ c.ns ≠ c'.ns ∧
    (¬ ∃ name, name ∈ c.topicNames ∧ name ∈ c'.topicNames) ∧
    ¬ ∃ group, group ∈ c.groups ∧ group ∈ c'.groups := by
  have hspec : (Spec.chain "demo" "clean" "count" []).Validated :=
    ⟨Spec.documentChain "demo" "clean" "count", rfl⟩
  have hspec' : (Spec.chain "tests" "clean" "count" []).Validated :=
    ⟨Spec.documentChain "tests" "clean" "count", rfl⟩
  obtain ⟨c, h, hns⟩ := exists_compile_chain rfl (by decide) hspec
  obtain ⟨c', h', hns'⟩ := exists_compile_chain rfl (by decide) hspec'
  have hne : c.ns ≠ c'.ns := by
    rw [hns, hns']
    decide
  have hmeet : ∀ a a', ¬ Meet c.ns a c'.ns a' := by
    rw [hns, hns']
    rintro a a' ⟨x, ⟨heq, -⟩ | ⟨heq, -⟩⟩
    · -- the two namespaces differ in their first letters
      have hfirst := congrArg (fun s => s.toList.head?) heq
      simp at hfirst
    · have hfirst := congrArg (fun s => s.toList.head?) heq
      simp at hfirst
  obtain ⟨htopics, hgroups⟩ := compiled_sharing_iff h h' hne
  refine ⟨c, c', h, h', hne, ?_, ?_⟩
  · rw [htopics]
    rintro ⟨a, _, a', _, -, -, hshare⟩
    exact hmeet a a' hshare
  · rw [hgroups]
    rintro ⟨q, q', -, -, hshare⟩
    exact hmeet q q' hshare

/-- Two pipelines in different namespaces that name the same topic and the same group. -/
theorem namespaces_share :
    (Spec.chain "demo" "eu-clean" "eu-count" []).Validated ∧
    (Spec.chain "demo-eu" "clean" "count" []).Validated ∧ Deployment.sample.Validated ∧
    ∃ c c', compile (Spec.chain "demo" "eu-clean" "eu-count" []) Deployment.sample = .ok c ∧
      compile (Spec.chain "demo-eu" "clean" "count" []) Deployment.sample = .ok c' ∧ c.ns ≠ c'.ns ∧
      some (.whole "demo-eu-clean-stream") ∈ c.topicNames ∧
      some (.whole "demo-eu-clean-stream") ∈ c'.topicNames ∧
      some (.whole "demo-eu-clean-grp") ∈ c.groups ∧
      some (.whole "demo-eu-clean-grp") ∈ c'.groups := by
  have hspec : (Spec.chain "demo" "eu-clean" "eu-count" []).Validated :=
    ⟨Spec.documentChain "demo" "eu-clean" "eu-count", rfl⟩
  have hspec' : (Spec.chain "demo-eu" "clean" "count" []).Validated :=
    ⟨Spec.documentChain "demo-eu" "clean" "count", rfl⟩
  obtain ⟨c, h, hns⟩ := exists_compile_chain rfl (by decide) hspec
  obtain ⟨c', h', hns'⟩ := exists_compile_chain rfl (by decide) hspec'
  refine ⟨hspec, hspec', Deployment.validated_sample, c, c', h, h', ?_, ?_, ?_, ?_, ?_⟩
  · rw [hns, hns']
    decide
  · refine (mem_topicNames_iff h).mpr ⟨_, _, Spec.streams_chain, ?_⟩
    rw [hns]
    decide
  · refine (mem_topicNames_iff h').mpr ⟨_, _, Spec.streams_chain, ?_⟩
    rw [hns']
    decide
  · refine (mem_groups_iff h).mpr ⟨_, Spec.streams_chain.producer, ?_⟩
    rw [hns]
    decide
  · refine (mem_groups_iff h').mpr ⟨_, Spec.streams_chain.producer, ?_⟩
    rw [hns']
    decide

end StreamMesh
