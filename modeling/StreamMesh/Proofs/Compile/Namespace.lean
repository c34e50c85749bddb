import StreamMesh.Proofs.Compile.References
import StreamMesh.Proofs.Label.Grammar
import StreamMesh.Proofs.Schema.Report

/-!
# The namespaces of a result

A namespace comes into a configuration in three ways: by the configuration's own key, by the name of
the pipeline where that key is not set, and by the key of the section on topics. All of them hold a
text against one pattern, so they take the same texts, and these are the labels of any length. No
other text becomes the namespace of a manifest.

## Main definitions

* `NamespaceField` — a record whose namespace is held against the pattern

## Main results

* `Deployment.reports_namespace_iff`, `TopicSettings.reports_namespace_iff` — what is reported of a
  namespace
* `Deployment.Validated.hyphenated_topics_ns` — the namespace that holds the topics
* `namespaces_taken` — which namespaces are taken, and which are emitted
* `long_namespace` — a namespace that is taken and is no label
-/

namespace StreamMesh

open Schema Schema.Checked
open Label (Hyphenated IsDnsLabel)

variable {m : List (Value × Value)} {n : String} {d : Defect} {place : List Place}

theorem namespaceDefect?_eq_some_iff :
    namespaceDefect? n = some d ↔ ¬ Hyphenated n ∧ d = .mismatch Label.patternText := by
  rw [← Label.isNamespace_iff, namespaceDefect?]
  split <;> simp [*, eq_comm]

theorem namespaceDefect?_eq_none_iff : namespaceDefect? n = none ↔ Hyphenated n := by
  rw [← Label.isNamespace_iff, namespaceDefect?]
  split <;> simp [*]

/-- What is said of the pattern is a string, so that a broken key hides it. -/
theorem shown_mismatch_iff {p : Prop} {text : String} :
    (p ∧ d = .mismatch text) ∧ (hasBrokenKey m = false ∨ d.unencodable?.isSome) ↔
      p ∧ d = .mismatch text ∧ hasBrokenKey m = false := by
  have hshown : (Defect.mismatch text).unencodable? = none := rfl
  constructor
  · rintro ⟨⟨hp, rfl⟩, hkeys | hreason⟩
    · exact ⟨hp, rfl, hkeys⟩
    · rw [hshown] at hreason
      cases hreason
  · rintro ⟨hp, hd, hkeys⟩
    exact ⟨⟨hp, hd⟩, .inl hkeys⟩

/-- The records of a kind hold a text for their namespace against the pattern for labels, and
against nothing else: it is reported exactly if it does not match, unless a broken key hides the
complaint, and is what a record that passes has for its namespace. -/
structure NamespaceField {α : Type} (check : Value → Checked α) (ns : α → Option String)
    (n : String) : Prop where
  reports_iff : ∀ {m : List (Value × Value)} {d : Defect},
    Value.entry? "namespace" m = some (.str n) → d ≠ .badKey →
      ((check (.map m)).Reports [.key "namespace"] d ↔
        ¬ Hyphenated n ∧ d = .mismatch Label.patternText ∧ hasBrokenKey m = false)
  taken : ∀ {m : List (Value × Value)} {a : α},
    Value.entry? "namespace" m = some (.str n) → check (.map m) = .accepted a →
      ns a = some n ∧ Hyphenated n

namespace TopicSettings

/-- Of the namespace in the section on topics nothing but the pattern is reported. -/
theorem reports_namespace_iff (h : Value.entry? "namespace" m = some (.str n)) (hd : d ≠ .badKey) :
    (TopicSettings.check (.map m)).Reports [.key "namespace"] d ↔
      ¬ Hyphenated n ∧ d = .mismatch Label.patternText ∧ hasBrokenKey m = false := by
  have hothers : ¬ (noOthers ["cluster", "namespace", "partitions", "replicas", "retention_ms",
      "segment_bytes"] m).Reports [.key "namespace"] d :=
    not_reports_noOthers (by decide) (by decide) hd
  simp (disch := decide) only [TopicSettings.check, reports_record_iff, reports_seqLeft_iff,
    reports_seq_iff, reports_map_iff, reports_optional_iff h, not_reports_optional, hothers,
    or_false, false_or, true_and, reports_textThat_iff, namespaceDefect?_eq_some_iff,
    shown_mismatch_iff]

theorem ns_of_check {t : TopicSettings} (h : Value.entry? "namespace" m = some (.str n))
    (ht : TopicSettings.check (.map m) = .accepted t) : some t.ns = some n ∧ Hyphenated n := by
  obtain ⟨_, hentries, -, ht⟩ := record_eq_accepted_iff.mp ht
  cases hentries
  simp only [seqLeft_eq_accepted_iff, seq_eq_accepted_iff, map_eq_accepted_iff] at ht
  obtain ⟨⟨_, _, ⟨_, _, ⟨_, _, ⟨_, _, ⟨_, _, ⟨_, -, rfl⟩, hns, rfl⟩, -, rfl⟩, -, rfl⟩, -, rfl⟩, -,
    rfl⟩, -⟩ := ht
  obtain ⟨rfl, hrule⟩ := eq_of_optional_textThat h hns
  exact ⟨rfl, namespaceDefect?_eq_none_iff.mp hrule⟩

/-- The section on topics with nothing but a namespace. -/
theorem check_namespace_only (n : String) :
    TopicSettings.check (.map [(.str "namespace", .str n)]) = .accepted { standard with ns := n } ↔
      Hyphenated n := by
  constructor
  · exact fun h => (ns_of_check (by simp [Value.entry?]) h).2
  · intro h
    rw [TopicSettings.check, record_map (by simp), optional_cons_self, textThat_str,
      namespaceDefect?_eq_none_iff.mpr h]
    simp [Schema.optional, Value.entry?, standard]

/-- The namespace for topics is given or `kafka`, so it is a label of some length. -/
theorem hyphenated_ns_of_check {v : Value} {t : TopicSettings} (h : check v = .accepted t) :
    Hyphenated t.ns := by
  obtain ⟨m, -, -, h⟩ := record_eq_accepted_iff.mp h
  simp only [seqLeft_eq_accepted_iff, seq_eq_accepted_iff, map_eq_accepted_iff] at h
  obtain ⟨⟨_, _, ⟨_, _, ⟨_, _, ⟨_, _, ⟨_, ns, ⟨_, -, rfl⟩, hns, rfl⟩, -, rfl⟩, -, rfl⟩, -, rfl⟩, -,
    rfl⟩, -⟩ := h
  rcases absent_or_exists_of_optional hns with rfl | ⟨v, hv⟩
  · exact (by decide +kernel : Hyphenated standard.ns)
  · exact namespaceDefect?_eq_none_iff.mp (rule_of_textThat hv)

end TopicSettings

namespace Deployment

variable {config : Deployment}

/-- Of the namespace nothing but the pattern is reported. -/
theorem reports_namespace_iff (h : Value.entry? "namespace" m = some (.str n)) (hd : d ≠ .badKey) :
    (Deployment.check (.map m)).Reports [.key "namespace"] d ↔
      ¬ Hyphenated n ∧ d = .mismatch Label.patternText ∧ hasBrokenKey m = false := by
  have hothers : ¬ (noOthers ["namespace", "brokers", "source_topics", "sink_topics",
      "observability", "processor", "scaling", "topics", "broker"] m).Reports
        [.key "namespace"] d :=
    not_reports_noOthers (by decide) (by decide) hd
  simp (disch := decide) only [Deployment.check, reports_record_iff, reports_seqLeft_iff,
    reports_seq_iff, reports_map_iff, reports_optional_iff h, not_reports_optional,
    not_reports_required, hothers, or_false, true_and, reports_nullable_str_iff,
    reports_textThat_iff, namespaceDefect?_eq_some_iff, shown_mismatch_iff]

/-- What is reported within the section on topics is what its check reports, unless a broken key of
the configuration hides it. -/
theorem reports_topics_iff {v : Value} (h : Value.entry? "topics" m = some v) (hd : d ≠ .badKey) :
    (Deployment.check (.map m)).Reports (.key "topics" :: place) d ↔
      (TopicSettings.check v).Reports place d ∧
        (hasBrokenKey m = false ∨ d.unencodable?.isSome) := by
  have hothers : ¬ (noOthers ["namespace", "brokers", "source_topics", "sink_topics",
      "observability", "processor", "scaling", "topics", "broker"] m).Reports
        (.key "topics" :: place) d :=
    not_reports_noOthers (by decide) (by decide) hd
  simp (disch := decide) only [Deployment.check, reports_record_iff, reports_seqLeft_iff,
    reports_seq_iff, reports_map_iff, reports_optional_iff h, not_reports_optional,
    not_reports_required, hothers, or_false, false_or, true_and]

theorem ns_of_check (h : Value.entry? "namespace" m = some (.str n))
    (hconfig : Deployment.check (.map m) = .accepted config) : config.ns = some n ∧
      Hyphenated n := by
  obtain ⟨_, hentries, -, hconfig⟩ := record_eq_accepted_iff.mp hconfig
  cases hentries
  simp only [seqLeft_eq_accepted_iff, seq_eq_accepted_iff, map_eq_accepted_iff] at hconfig
  obtain ⟨⟨_, _,
    ⟨_, _, ⟨_, _, ⟨_, _, ⟨_, _, ⟨_, _, ⟨_, _, ⟨_, _, ⟨_, hns, rfl⟩, -, rfl⟩, -, rfl⟩, -, rfl⟩, -,
      rfl⟩, -, rfl⟩, -, rfl⟩, -, rfl⟩, -, rfl⟩, -⟩ := hconfig
  obtain ⟨hgiven, hrule⟩ := eq_of_optional_nullable_textThat h hns
  exact ⟨hgiven, namespaceDefect?_eq_none_iff.mp hrule⟩

theorem Validated.hyphenated_topics_ns (hconfig : config.Validated) :
    Hyphenated config.topics.ns := by
  obtain ⟨v, h⟩ := hconfig
  obtain ⟨m, -, -, h⟩ := record_eq_accepted_iff.mp h
  simp only [seqLeft_eq_accepted_iff, seq_eq_accepted_iff, map_eq_accepted_iff] at h
  obtain ⟨⟨_, _,
    ⟨_, topics,
      ⟨_, _, ⟨_, _, ⟨_, _, ⟨_, _, ⟨_, _, ⟨_, _, ⟨_, -, rfl⟩, -, rfl⟩, -, rfl⟩, -, rfl⟩, -, rfl⟩, -,
        rfl⟩, -, rfl⟩, htopics, rfl⟩, -, rfl⟩, -⟩ := h
  rcases absent_or_exists_of_optional htopics with rfl | ⟨v, hv⟩
  · exact TopicSettings.hyphenated_ns_of_check (v := .map []) rfl
  · exact TopicSettings.hyphenated_ns_of_check hv

/-- With a text for its namespace a configuration passes exactly if the text is one. -/
theorem check_toValueWith_str_iff (hconfig : config.Validated) :
    check (config.toValueWith (.str n)) = .accepted { config with ns := some n } ↔
      Hyphenated n := by
  rw [check_toValueWith_str hconfig, ← Label.isNamespace_iff]
  split <;> simp [*]

/-- A pipeline's name stands in for a namespace exactly if it can be one. -/
theorem exists_resolve_iff (hconfig : config.Validated) (hns : config.ns = none) :
    (∃ r, config.resolve n = .accepted r) ↔ Hyphenated n := by
  simp [resolve_eq_accepted_iff hconfig, hns, Label.isNamespace_iff]

end Deployment

variable {spec : Spec} {config : Deployment} {c : Compiled} {r : Rendering}

/-- Every manifest of a result has a namespace, and it is a label of some length. -/
theorem Compilation.hyphenated_ns (hc : Compilation spec config c) (hconfig : config.Validated)
    (hr : r ∈ c.renderings) :
    ∃ ns : String, r.manifest.ns? = some (.whole ns) ∧ Hyphenated ns := by
  refine ⟨_, hc.ns_eq hr, ?_⟩
  split
  · exact hconfig.hyphenated_topics_ns
  · have hvalidated := (Deployment.resolve_eq_accepted_iff (r := config.settled c.pipeline)
      hconfig).mpr
      ⟨hc.namespaced, rfl⟩
    have hns : (config.settled c.pipeline).ns = some c.ns := by
      rw [hc.ns]
      rfl
    exact Label.isNamespace_iff.mp
      ((Deployment.validated_of_resolve hconfig hvalidated).1.isNamespace hns)

/-- Which texts are namespaces. The check of a configuration and that of its section on topics take
the labels of any length and refuse all other texts, and so does the settling of a namespace from
the name of a pipeline. The refusal is reported where the text stands, unless a broken key of the
document hides it. So the namespaces of manifests are labels of any length, and a text is a
label exactly if it is one of any length and has at most 63 characters. -/
theorem namespaces_taken (n : String) :
    NamespaceField Deployment.check Deployment.ns n ∧
    NamespaceField TopicSettings.check (fun t => some t.ns) n ∧
    (∀ m v, Value.entry? "topics" m = some v → ∀ place d, d ≠ .badKey →
      ((Deployment.check (.map m)).Reports (.key "topics" :: place) d ↔
        (TopicSettings.check v).Reports place d ∧
          (hasBrokenKey m = false ∨ d.unencodable?.isSome))) ∧
    (TopicSettings.check (.map [(.str "namespace", .str n)]) =
      .accepted { TopicSettings.standard with ns := n } ↔ Hyphenated n) ∧
    (∀ config : Deployment, config.Validated →
      (Deployment.check (config.toValueWith (.str n)) = .accepted { config with ns := some n } ↔
        Hyphenated n) ∧
      (config.ns = none → ((∃ r, config.resolve n = .accepted r) ↔ Hyphenated n) ∧
        ∀ r, config.resolve n = .accepted r → r.ns = some n)) ∧
    (IsDnsLabel n ↔ Hyphenated n ∧ n.length ≤ 63) ∧
    ∀ (spec : Spec) (config : Deployment) (c : Compiled), config.Validated →
      compile spec config = .ok c →
      ∀ r ∈ c.renderings, ∃ ns : String, r.manifest.ns? = some (.whole ns) ∧ Hyphenated ns := by
  refine ⟨⟨Deployment.reports_namespace_iff, Deployment.ns_of_check⟩,
    ⟨TopicSettings.reports_namespace_iff, TopicSettings.ns_of_check⟩,
    fun m v h place d hd => Deployment.reports_topics_iff h hd,
    TopicSettings.check_namespace_only n, fun config hconfig =>
      ⟨Deployment.check_toValueWith_str_iff hconfig, fun hns => ⟨?_, ?_⟩⟩,
    Label.isDnsLabel_iff, ?_⟩
  · exact Deployment.exists_resolve_iff hconfig hns
  · intro r hr
    obtain ⟨-, rfl⟩ := (Deployment.resolve_eq_accepted_iff hconfig).mp hr
    rw [Deployment.settled, hns, Option.getD_none]
  · intro spec config c hconfig h r hr
    exact (compilation_of_compile_eq_ok hconfig h).hyphenated_ns hconfig hr

/-- In the sample a name with a hyphen at its end is refused for the topics, and all manifests have
a label for their namespace. -/
theorem namespaces_taken_sample :
    (Deployment.check (.map [(.str "topics", .map [(.str "namespace", .str "kafka-")])])).Reports
      [.key "topics", .key "namespace"] (.mismatch Label.patternText) ∧
    ∃ c, compile Spec.sample Deployment.sample = .ok c ∧
      ∀ r ∈ c.renderings, ∃ ns : String, r.manifest.ns? = some (.whole ns) ∧ Hyphenated ns := by
  obtain ⟨-, htopics, hsection, -, -, -, hresult⟩ := namespaces_taken "kafka-"
  constructor
  · refine (hsection _ (.map [(.str "namespace", .str "kafka-")]) (by simp [Value.entry?]) _
      (.mismatch Label.patternText) nofun).mpr ⟨?_, .inl (by simp)⟩
    have hentry : Value.entry? "namespace" [(.str "namespace", .str "kafka-")] =
        some (.str "kafka-") := by simp [Value.entry?]
    exact (htopics.reports_iff (d := .mismatch Label.patternText) hentry nofun).mpr
      ⟨by decide +kernel, rfl, by simp⟩
  · obtain ⟨c, hc⟩ := exists_compile_sample
    exact ⟨c, hc, hresult _ _ c Deployment.validated_sample hc⟩

/-- A text of 64 letters is no label, and is taken for the namespace of a pipeline and of its
topics.
-/
theorem long_namespace : ∃ n : String, n.length = 64 ∧ ¬ IsDnsLabel n ∧
    Deployment.check (Deployment.sample.toValueWith (.str n)) =
      .accepted { Deployment.sample with ns := some n } ∧
    TopicSettings.check (.map [(.str "namespace", .str n)]) =
      .accepted { TopicSettings.standard with ns := n } := by
  have hletters : Hyphenated (String.ofList (List.replicate 64 'a')) := by decide +kernel
  have hlength : (String.ofList (List.replicate 64 'a')).length = 64 := by decide +kernel
  refine ⟨_, hlength, fun h => absurd (hlength ▸ h.length_le) (by decide), ?_, ?_⟩
  · exact (Deployment.check_toValueWith_str_iff Deployment.validated_sample).mpr hletters
  · exact (TopicSettings.check_namespace_only _).mpr hletters

end StreamMesh
