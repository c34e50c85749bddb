import StreamMesh.Mesh.Endpoint
import StreamMesh.Proofs.Label
import StreamMesh.Proofs.Schema.Reason
import StreamMesh.Proofs.Schema.Report

/-!
# Settling the namespace of a configuration

A configuration without a namespace is written out with the pipeline's name in its place and
checked again. Since every section passes its check a second time, the name alone decides whether
this succeeds, and nothing but the namespace changes.

## Main definitions

* `Deployment.Validated` — a configuration that comes from a document
* `Deployment.settled` — a configuration with a namespace where none was set

## Main results

* `Deployment.check_toValueWith` — the check of a configuration that is written out with a namespace
* `Deployment.check_toValue` — a configuration passes its check again
* `Deployment.resolve_eq_accepted_iff` — when the namespace can be settled, and to what
* `Deployment.resolve_changes_only_ns` — what becomes of all other settings
* `Deployment.fileSafe_nsText_settled` — a settled namespace holds no separator
-/

namespace StreamMesh

open Schema Schema.Checked

section Sections

theorem share_standard : share (.float Tracing.standard.samplingRate) = .accepted 1.0 := by
  simp only [share, number, Checked.bind, Tracing.standard]
  rw [if_neg (by decide), if_neg (by decide)]

theorem Tracing.stable_check : Stable Tracing.check Tracing.toValue := by
  intro v t h
  obtain ⟨m, -, -, h⟩ := record_eq_accepted_iff.mp h
  simp only [seqLeft_eq_accepted_iff, seq_eq_accepted_iff, map_eq_accepted_iff] at h
  -- the record comes apart from its last field to its first
  obtain ⟨⟨_, name, ⟨_, rate, ⟨endpoint, hendpoint, rfl⟩, hrate, rfl⟩, hname, rfl⟩, -⟩ := h
  have hendpoint' := stable_nonEmptyText.of_optional rfl hendpoint
  have hrate' := stable_share.of_optional share_standard hrate
  have hname' := stable_nonEmptyText.of_optional rfl hname
  simp [Tracing.check, Tracing.toValue, hendpoint', hrate', hname']

theorem Workload.stable_check : Stable Workload.check Workload.toValue := by
  intro v w h
  obtain ⟨m, -, -, h⟩ := record_eq_accepted_iff.mp h
  simp only [seqLeft_eq_accepted_iff, seq_eq_accepted_iff, map_eq_accepted_iff] at h
  obtain ⟨⟨_, pull, ⟨_, type, ⟨_, replicas, ⟨_, service, ⟨_, app, ⟨image, himage, rfl⟩, happ, rfl⟩,
    hservice, rfl⟩, hreplicas, rfl⟩, htype, rfl⟩, hpull, rfl⟩, -⟩ := h
  have himage' := stable_nonEmptyText.of_optional rfl himage
  have happ' := (stable_wholeIn _).of_optional rfl happ
  have hservice' := (stable_wholeIn _).of_optional rfl hservice
  have hreplicas' := (stable_wholeIn _).of_optional rfl hreplicas
  have htype' := stable_text.of_optional rfl htype
  have hpull' := stable_text.of_optional rfl hpull
  simp [Workload.check, Workload.toValue, port, atLeast, himage', happ',
    hservice', hreplicas', htype', hpull']

theorem Scaling.stable_check : Stable Scaling.check Scaling.toValue := by
  intro v x h
  obtain ⟨m, -, -, h⟩ := record_eq_accepted_iff.mp h
  simp only [seqLeft_eq_accepted_iff, seq_eq_accepted_iff, map_eq_accepted_iff] at h
  obtain ⟨⟨_, lag, ⟨_, most, ⟨_, least, ⟨interval, hinterval, rfl⟩, hleast, rfl⟩, hmost, rfl⟩,
    hlag, rfl⟩, -⟩ := h
  have hinterval' := (stable_wholeIn _).of_optional rfl hinterval
  have hleast' := (stable_wholeIn _).of_optional rfl hleast
  have hmost' := (stable_wholeIn _).of_optional rfl hmost
  have hlag' := (stable_wholeIn _).of_optional rfl hlag
  simp [Scaling.check, Scaling.toValue, atLeast, hinterval', hleast', hmost',
    hlag']

theorem TopicSettings.stable_check : Stable TopicSettings.check TopicSettings.toValue := by
  intro v x h
  obtain ⟨m, -, -, h⟩ := record_eq_accepted_iff.mp h
  simp only [seqLeft_eq_accepted_iff, seq_eq_accepted_iff, map_eq_accepted_iff] at h
  obtain ⟨⟨_, segment, ⟨_, retention, ⟨_, replicas,
    ⟨_, partitions, ⟨_, ns, ⟨cluster, hcluster, rfl⟩, hns, rfl⟩, hpartitions, rfl⟩, hreplicas, rfl⟩,
      hretention, rfl⟩, hsegment, rfl⟩, -⟩ := h
  have hcluster' := stable_nonEmptyText.of_optional rfl hcluster
  have hns' := (stable_textThat namespaceDefect?).of_optional rfl hns
  have hpartitions' := (stable_wholeIn _).of_optional rfl hpartitions
  have hreplicas' := (stable_wholeIn _).of_optional rfl hreplicas
  have hretention' := (stable_wholeIn _).of_optional rfl hretention
  have hsegment' := (stable_wholeIn _).of_optional rfl hsegment
  simp [TopicSettings.check, TopicSettings.toValue, atLeast, hcluster', hns',
    hpartitions', hreplicas', hretention', hsegment']

theorem BrokerSettings.stable_check : Stable BrokerSettings.check BrokerSettings.toValue := by
  intro v x h
  obtain ⟨m, -, -, h⟩ := record_eq_accepted_iff.mp h
  simp only [seqLeft_eq_accepted_iff, seq_eq_accepted_iff, map_eq_accepted_iff] at h
  obtain ⟨⟨_, size, ⟨auth, hauth, rfl⟩, hsize, rfl⟩, -⟩ := h
  have hauth' := stable_truth.of_optional rfl hauth
  have hsize' := (stable_wholeIn _).of_optional rfl hsize
  simp [BrokerSettings.check, BrokerSettings.toValue, atLeast, hauth', hsize']

end Sections

/-! What is said of a configuration can always be encoded. -/
section Tellable

theorem tellable_namespace : Tellable (textThat namespaceDefect?) := by
  refine tellable_textThat fun s d h => ?_
  unfold namespaceDefect? at h
  split at h
  · cases h
  · cases h
    rfl

theorem Tracing.tellable_check : Tellable Tracing.check := tellable_record fun m => by simp

theorem Workload.tellable_check : Tellable Workload.check :=
  tellable_record fun m => by simp [port, atLeast]

theorem Scaling.tellable_check : Tellable Scaling.check :=
  tellable_record fun m => by simp [atLeast]

theorem TopicSettings.tellable_check : Tellable TopicSettings.check :=
  tellable_record fun m => by simp [atLeast, tellable_namespace]

theorem BrokerSettings.tellable_check : Tellable BrokerSettings.check :=
  tellable_record fun m => by simp [atLeast]

theorem Deployment.tellable_check : Tellable Deployment.check :=
  tellable_record fun m => by
    simp [tellable_namespace, Tracing.tellable_check, Workload.tellable_check,
      Scaling.tellable_check, TopicSettings.tellable_check, BrokerSettings.tellable_check]

end Tellable

namespace Deployment

variable {d r : Deployment} {name : String}

/-- A configuration that comes from a document. -/
def Validated (d : Deployment) : Prop := ∃ v, check v = .accepted d

/-- A configuration with a namespace in place of one that is not set. -/
def settled (d : Deployment) (ns : String) : Deployment := { d with ns := some (d.ns.getD ns) }

/-- A configuration that is written out with a value for its namespace passes its check exactly if
the value does, with nothing else changed, and has no other issues than the value. -/
theorem check_toValueWith (hd : d.Validated) (ns : Value) : check (d.toValueWith ns) =
    (fun ns => { d with ns := ns }) <$>
      (nullable (textThat namespaceDefect?) ns).under (.key "namespace") := by
  obtain ⟨v, h⟩ := hd
  obtain ⟨m, -, -, h⟩ := record_eq_accepted_iff.mp h
  simp only [seqLeft_eq_accepted_iff, seq_eq_accepted_iff, map_eq_accepted_iff] at h
  obtain ⟨⟨_, broker, ⟨_, topics, ⟨_, scaling, ⟨_, workload, ⟨_, tracing, ⟨_, sinks, ⟨_, sources,
    ⟨_, brokers, ⟨_, -, rfl⟩, hbrokers, rfl⟩, hsources, rfl⟩, hsinks, rfl⟩, htracing, rfl⟩,
    hworkload, rfl⟩, hscaling, rfl⟩, htopics, rfl⟩, hbroker, rfl⟩, -⟩ := h
  have hbrokers' := stable_text.someItems.of_required hbrokers
  have hsources' := stable_texts.of_optional rfl hsources
  have hsinks' := stable_texts.of_optional rfl hsinks
  -- a section that is absent is what the check of an empty section gives
  have htracing' := Tracing.stable_check.of_optional (Tracing.stable_check (v := .map []) rfl)
    htracing
  have hworkload' :=
    Workload.stable_check.of_optional (Workload.stable_check (v := .map []) rfl) hworkload
  have hscaling' := Scaling.stable_check.of_optional (Scaling.stable_check (v := .map []) rfl)
    hscaling
  have htopics' :=
    TopicSettings.stable_check.of_optional (TopicSettings.stable_check (v := .map []) rfl) htopics
  have hbroker' :=
    BrokerSettings.stable_check.of_optional (BrokerSettings.stable_check (v := .map []) rfl) hbroker
  -- the value is all that is new in the document
  cases hns : nullable (textThat namespaceDefect?) ns with
  | accepted =>
    simp [check, toValueWith, textsValue, hns, hbrokers', hsources', hsinks',
      htracing', hworkload', hscaling', htopics', hbroker']
  | rejected =>
    simp [check, toValueWith, textsValue, under, hns, hbrokers', hsources',
      hsinks', htracing', hworkload', hscaling', htopics', hbroker']

theorem nullable_namespace (name : String) : nullable (textThat namespaceDefect?) (.str name) =
    if Label.isNamespace name then .accepted (some name)
    else .rejected [⟨[], .mismatch Label.patternText⟩] := by
  cases hname : Label.isNamespace name <;>
    simp [nullable, textThat_str, namespaceDefect?, fail, hname]

/-- With a name for its namespace it passes exactly if the name can be a namespace. -/
theorem check_toValueWith_str (hd : d.Validated) (name : String) :
    check (d.toValueWith (.str name)) =
      if Label.isNamespace name then .accepted { d with ns := some name }
      else .rejected [⟨[.key "namespace"], .mismatch Label.patternText⟩] := by
  rw [check_toValueWith hd, nullable_namespace]
  split <;> rfl

/-- The namespace can be settled exactly if it is set or the name can be one, and nothing else
changes. -/
theorem resolve_eq_accepted_iff (hd : d.Validated) : d.resolve name = .accepted r ↔
    (d.ns ≠ none ∨ Label.isNamespace name = true) ∧ r = d.settled name := by
  unfold resolve resolveWith settled
  cases hns : d.ns with
  | some ns =>
    -- a namespace that is set is kept, and nothing is checked again
    rw [Option.isSome_some, if_pos rfl, accepted.injEq]
    have hsame : { d with ns := some ((some ns).getD name) } = d := by rw [Option.getD_some, ← hns]
    rw [hsame]
    exact ⟨fun h => ⟨.inl nofun, h.symm⟩, fun h => h.2.symm⟩
  | none =>
    rw [Option.isSome_none, if_neg Bool.false_ne_true, Value.ofRaw, check_toValueWith_str hd]
    cases hname : Label.isNamespace name with
    | true =>
      rw [if_pos rfl, accepted.injEq]
      exact ⟨fun h => ⟨.inr rfl, h.symm⟩, fun h => h.2.symm⟩
    | false =>
      rw [if_neg Bool.false_ne_true]
      refine ⟨nofun, ?_⟩
      rintro ⟨h | h, -⟩
      · exact absurd rfl h
      · cases h

/-- Where the namespace cannot be settled, that is the only issue. -/
theorem resolve_eq_rejected (hd : d.Validated) (hns : d.ns = none)
    (hname : Label.isNamespace name = false) :
    d.resolve name = .rejected [⟨[.key "namespace"], .mismatch Label.patternText⟩] := by
  rw [resolve, resolveWith, hns, Option.isSome_none, if_neg Bool.false_ne_true, Value.ofRaw,
    check_toValueWith_str hd, hname, if_neg Bool.false_ne_true]

/-- A name that is no string is no namespace. -/
theorem resolve_broken (hd : d.Validated) (hns : d.ns = none) (t : BrokenText) :
    d.resolve (.broken t) = .rejected [⟨[.key "namespace"], .illFormedText⟩] := by
  rw [resolve, resolveWith, hns, Option.isSome_none, if_neg Bool.false_ne_true,
    check_toValueWith hd]
  rfl

/-- The namespace is set, or the pipeline's name can be one. -/
def TakesName (d : Deployment) (pipeline : RawText) : Prop :=
  d.ns ≠ none ∨ ∃ name, pipeline = .whole name ∧ Label.isNamespace name = true

theorem TakesName.lossy {pipeline : RawText} (h : d.TakesName pipeline) :
    d.ns ≠ none ∨ Label.isNamespace pipeline.lossy = true := by
  rcases h with h | ⟨name, rfl, h⟩
  · exact .inl h
  · exact .inr h

/-- Where the namespace is set or the name can be one, the configuration is settled. -/
theorem resolve_of_takesName (hd : d.Validated) {pipeline : RawText} (h : d.TakesName pipeline) :
    d.resolve pipeline = .accepted (d.settled pipeline.lossy) := by
  cases pipeline with
  | whole name => exact (resolve_eq_accepted_iff hd).mpr ⟨h.lossy, rfl⟩
  | broken t =>
    rcases h with hns | ⟨_, h, -⟩
    · obtain ⟨ns, hns⟩ := Option.ne_none_iff_exists'.mp hns
      have hsame : { d with ns := some ns } = d := by rw [← hns]
      rw [resolve, resolveWith, settled, hns, Option.isSome_some, if_pos rfl, Option.getD_some,
        hsame]
    · cases h

/-- Elsewhere the namespace is refused. -/
theorem exists_rejected_of_not_takesName (hd : d.Validated) {pipeline : RawText}
    (h : ¬ d.TakesName pipeline) : ∃ defect : Defect,
      d.resolve pipeline = .rejected [⟨[.key "namespace"], defect⟩] ∧
        defect.unencodable? = none := by
  have hns : d.ns = none := not_not.mp fun hns => h (.inl hns)
  cases pipeline with
  | whole name =>
    exact ⟨_, resolve_eq_rejected hd hns (Bool.eq_false_iff.mpr fun hname =>
      h (.inr ⟨name, rfl, hname⟩)), rfl⟩
  | broken t => exact ⟨_, resolve_broken hd hns t, rfl⟩

theorem Validated.isNamespace (hd : d.Validated) {ns : String} (hns : d.ns = some ns) :
    Label.isNamespace ns = true := by
  obtain ⟨v, h⟩ := hd
  obtain ⟨m, -, -, h⟩ := record_eq_accepted_iff.mp h
  simp only [seqLeft_eq_accepted_iff, seq_eq_accepted_iff, map_eq_accepted_iff] at h
  obtain ⟨⟨_, _,
    ⟨_, _, ⟨_, _, ⟨_, _, ⟨_, _, ⟨_, _, ⟨_, _, ⟨_, _, ⟨ns', hns', rfl⟩, -, rfl⟩, -, rfl⟩, -, rfl⟩, -,
      rfl⟩, -, rfl⟩, -, rfl⟩, -, rfl⟩, -, rfl⟩, -⟩ := h
  have hsome : ns' = some ns := hns
  rcases absent_or_exists_of_optional hns' with rfl | ⟨_, hv⟩
  · cases hsome
  · rcases none_or_exists_of_nullable hv with rfl | ⟨_, s, rfl, hs⟩
    · cases hsome
    · cases hsome
      have hrule := rule_of_textThat hs
      unfold namespaceDefect? at hrule
      split at hrule
      · assumption
      · cases hrule

/-- A configuration that is written out as it is passes its check unchanged. -/
theorem check_toValue (hd : d.Validated) : check d.toValue = .accepted d := by
  rw [toValue]
  cases hns : d.ns with
  | none =>
    have hsame : { d with ns := none } = d := by rw [← hns]
    rw [check_toValueWith hd, nullable, under_accepted, map_accepted, hsame]
  | some ns =>
    have hsame : { d with ns := some ns } = d := by rw [← hns]
    rw [check_toValueWith_str hd, if_pos (hd.isNamespace hns), hsame]

theorem resolveWith_of_ns (hns : d.ns ≠ none) (ns : Value) : d.resolveWith ns = .accepted d := by
  rw [resolveWith, if_pos (Option.isSome_iff_ne_none.mpr hns)]

/-- What a configuration is resolved to passes its check, and has a namespace. -/
theorem validated_of_resolve (hd : d.Validated) {name : RawText}
    (h : d.resolve name = .accepted r) : r.Validated ∧ r.ns ≠ none := by
  cases hns : d.ns with
  | some ns =>
    have hset : d.ns ≠ none := hns ▸ nofun
    obtain rfl : d = r := accepted.inj ((resolveWith_of_ns hset _).symm.trans h)
    exact ⟨hd, hset⟩
  | none =>
    cases name with
    | broken t =>
      rw [resolve_broken hd hns] at h
      cases h
    | whole name =>
      rw [resolve, resolveWith, hns, Option.isSome_none, if_neg Bool.false_ne_true] at h
      refine ⟨⟨_, h⟩, ?_⟩
      rw [Value.ofRaw, check_toValueWith_str hd] at h
      split at h <;> cases h
      nofun

/-- Settling the namespace of a configuration changes nothing else. A namespace that is set stays,
whatever the pipeline's name. Otherwise the name becomes the namespace exactly if it matches the
pattern for namespaces, and if not, the namespace is all that is refused. A configuration passes its
own check again and comes out unchanged, and settling a second time has no effect. -/
theorem resolve_changes_only_ns (hd : d.Validated) :
    (d.ns ≠ none → ∀ ns, d.resolveWith ns = .accepted d) ∧
    (d.ns = none →
      (∀ name : String,
        (∃ r, d.resolve name = .accepted r) ↔ Label.pattern.Matches name.toList) ∧
      (∀ (name : String) r, d.resolve name = .accepted r → r = { d with ns := some name }) ∧
      (∀ (name : String) issues, d.resolve name = .rejected issues →
        issues = [⟨[.key "namespace"], .mismatch Label.patternText⟩]) ∧
      ∀ name : BrokenText, d.resolve (.broken name) =
        .rejected [⟨[.key "namespace"], .illFormedText⟩]) ∧
    check d.toValue = .accepted d ∧
    ∀ name r, d.resolve name = .accepted r →
      check r.toValue = .accepted r ∧ ∀ other, r.resolve other = .accepted r := by
  refine ⟨resolveWith_of_ns, fun hns => ?_, check_toValue hd, fun name r h => ?_⟩
  · have hunset : ∀ ns, d.resolveWith ns = check (d.toValueWith ns) := by
      intro ns
      rw [resolveWith, hns, Option.isSome_none, if_neg Bool.false_ne_true]
    -- where no namespace is set, only the name is left to be refused
    have hresolve : ∀ name : String, d.resolve name =
        if Label.isNamespace name then .accepted { d with ns := some name }
        else .rejected [⟨[.key "namespace"], .mismatch Label.patternText⟩] := by
      intro name
      rw [resolve, hunset, Value.ofRaw, check_toValueWith_str hd]
    refine ⟨fun name => ?_, fun name r h => ?_, fun name issues h => ?_, resolve_broken hd hns⟩
    · rw [hresolve, ← Text.Pattern.accepts_iff]
      change _ ↔ Label.isNamespace name = true
      split
      · rename_i hname
        exact ⟨fun _ => hname, fun _ => ⟨_, rfl⟩⟩
      · rename_i hname
        refine ⟨?_, fun h => absurd h hname⟩
        rintro ⟨r, h⟩
        cases h
    · rw [hresolve] at h
      split at h <;> cases h
      rfl
    · rw [hresolve] at h
      split at h <;> cases h
      rfl
  · obtain ⟨hr, hset⟩ := validated_of_resolve hd h
    exact ⟨check_toValue hr, fun other => resolveWith_of_ns hset _⟩

/-- A configuration without a namespace in which numbers and truth values are given as texts. -/
def spelledOut : Value :=
  .map [(.str "brokers", .list [.str "second:9092", .str "first:9092"]),
    (.str "source_topics", .map [(.str "in", .str "orders"), (.str "extra", .str "more")]),
    (.str "processor", .map [(.str "app_port", .str "8080"), (.str "replicas", .bool true)]),
    (.str "broker", .map [(.str "auth_required", .str "Yes")])]

/-- It can be settled with a name that is a namespace, and with no other. -/
theorem resolve_changes_only_ns_spelledOut : ∃ d, check spelledOut = .accepted d ∧
    d.brokers = ["second:9092", "first:9092"] ∧ d.workload.appPort = 8080 ∧
    d.resolve "demo" = .accepted { d with ns := some "demo" } ∧
    (∀ r, d.resolve "demo" = .accepted r → r.resolve "-" = .accepted r) ∧
    (∀ r, d.resolve "Demo" ≠ .accepted r) ∧ check d.toValue = .accepted d := by
  refine ⟨_, rfl, rfl, rfl, ?_⟩
  obtain ⟨-, hunset, hagain, htwice⟩ := resolve_changes_only_ns ⟨spelledOut, rfl⟩
  obtain ⟨hmatches, honly, -⟩ := hunset rfl
  have hdemo : Label.pattern.Matches "demo".toList := Text.Pattern.accepts_iff.mp (by decide)
  have hother : ¬ Label.pattern.Matches "Demo".toList :=
    fun h => absurd (Text.Pattern.accepts_iff.mpr h) (by decide)
  obtain ⟨r, hr⟩ := (hmatches "demo").mpr hdemo
  obtain rfl := honly "demo" r hr
  refine ⟨hr, fun r h => (htwice _ r h).2 "-", fun r h => ?_, hagain⟩
  exact hother ((hmatches "Demo").mp ⟨r, h⟩)

/-- A namespace that is set holds no separator of paths. -/
theorem Validated.fileSafe_nsText (hd : d.Validated) (hns : d.ns ≠ none) : FileSafe d.nsText := by
  obtain ⟨ns, hns⟩ := Option.ne_none_iff_exists'.mp hns
  rw [nsText, hns]
  exact (Label.spelled_of_isNamespace (hd.isNamespace hns)).fileSafe

/-- A settled namespace is a label. -/
theorem spelled_nsText_settled (hd : d.Validated)
    (hname : d.ns ≠ none ∨ Label.isNamespace name = true) :
    Label.Spelled (d.settled name).nsText := by
  cases hns : d.ns with
  | some ns =>
    have htext : (d.settled name).nsText = ns := by simp [nsText, settled, Fault.shown, hns]
    rw [htext]
    exact Label.spelled_of_isNamespace (hd.isNamespace hns)
  | none =>
    have htext : (d.settled name).nsText = name := by simp [nsText, settled, Fault.shown, hns]
    rw [htext]
    exact Label.spelled_of_isNamespace (hname.resolve_left fun h => h hns)

/-- A settled namespace holds no separator of paths. -/
theorem fileSafe_nsText_settled (hd : d.Validated)
    (hname : d.ns ≠ none ∨ Label.isNamespace name = true) : FileSafe (d.settled name).nsText :=
  (spelled_nsText_settled hd hname).fileSafe

end Deployment

end StreamMesh
