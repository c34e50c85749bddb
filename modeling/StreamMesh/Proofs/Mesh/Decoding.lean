import StreamMesh.Proofs.Compile.Stages
import StreamMesh.Proofs.Yaml.Parsing

/-!
# The text of an object is read as its manifest

Whatever its texts are, the file of every generated object is read as the manifest that was written
into it. A number with more digits than are ever written out stands in no generated object, so it
needs no condition here.

## Main results

* `Mesh.documentValue_artifact` — the text of a generated file is read as its manifest
-/

namespace StreamMesh

open Yaml

namespace Manifest

variable {n : Nat} {items : List Manifest} {pairs : List (String × Manifest)}

/-- The keys of the generated objects. -/
def fieldNames : List String :=
  ["apiVersion", "kind", "metadata", "spec", "name", "namespace", "value", "type", "version",
    "tracing", "samplingRate", "zipkin", "endpointAddress", "labels", "app", "selector", "ports",
    "protocol", "port", "targetPort", "image", "containerPort", "imagePullPolicy", "env",
    "dapr.io/enabled", "dapr.io/app-id", "dapr.io/app-port", "dapr.io/config", "replicas",
    "matchLabels", "template", "annotations", "containers", "scaleTargetRef", "pollingInterval",
    "maxReplicaCount", "minReplicaCount", "triggers", "topic", "bootstrapServers", "consumerGroup",
    "lagThreshold", "route", "pubsubname", "scopes", "strimzi.io/cluster", "partitions", "config",
    "retention.ms", "segment.bytes"]

@[simp] theorem isPlainKey_of_mem {key : String} (h : key ∈ fieldNames) :
    isPlainKey key = true := by
  revert key
  decide +kernel

theorem legible_scalar {s : Scalar} : (scalar s).Legible n ↔ s.Legible := by
  cases n <;> rfl

@[simp] theorem legible_str {s : RawText} : (str s).Legible n := legible_scalar.mpr trivial

@[simp] theorem legible_int {x : Int} :
    (int x).Legible n ↔ Decimal.isWritable x = true := legible_scalar

@[simp] theorem legible_list :
    (list items).Legible (n + 1) ↔ items ≠ [] ∧ ∀ item ∈ items, item.Legible n := .rfl

@[simp] theorem legible_object (hnodup : (pairs.map Prod.fst).Nodup) :
    (object pairs).Legible (n + 1) ↔
      pairs ≠ [] ∧ ∀ e ∈ pairs, isPlainKey e.1 = true ∧ e.2.Legible n := by
  rw [object, Assoc.entries_ofList hnodup, Legible]
  exact and_congr_right fun _ => and_iff_right hnodup

/-- A legible mapping is read as its value. -/
theorem documentValue_object (h : (object pairs).Legible (n + 1)) (hwide : 2 * n + 2 < foldWidth) :
    documentValue (object pairs).spelled = .ok (object pairs).toValue :=
  documentValue_render h hwide

end Manifest

namespace Mesh

open Manifest Processor

variable {d : Deployment} {p : Processor} {n : Nat}

@[simp] theorem legible_nsManifest : d.nsManifest.Legible n := by
  unfold Deployment.nsManifest
  split <;> exact legible_scalar.mpr trivial

@[simp] theorem legible_inputManifest : p.inputManifest.Legible n := by
  unfold inputManifest
  split <;> exact legible_scalar.mpr trivial

@[simp] theorem legible_setting {name : RawText} {value : Manifest} :
    (setting name value).Legible (n + 1) ↔ value.Legible n := by
  simp (disch := first | decide | simp) [setting]

@[simp] theorem legible_metadata {name : String} : (metadata d name).Legible (n + 2) := by
  simp (disch := first | decide | simp) [metadata]

theorem legible_component {name type : String} {settings : List Manifest}
    (h : (Manifest.list settings).Legible (n + 2)) :
    (component d name type settings).Legible (n + 4) := by
  simpa (disch := first | decide | simp) [component] using h

theorem legible_sourceManifest {source subscriber : String} {topic : RawText} :
    (sourceManifest d source subscriber topic).Legible (n + 5) :=
  legible_component (by simp [brokerAccess])

theorem legible_sinkManifest {sink : String} {topic : RawText} :
    (sinkManifest d sink topic).Legible (n + 5) :=
  legible_component (by simp [brokerAccess])

theorem legible_tracingManifest : (tracingManifest d).Legible (n + 4) := by
  simp (disch := first | decide | simp) [tracingManifest]

@[simp] theorem legible_annotations : (p.annotations d).Legible (n + 1) := by
  simp (disch := first | decide | simp) [annotations]

theorem legible_subscription : (p.subscription d).Legible (n + 3) := by
  simp (disch := first | decide | simp) [subscription]

section OwnNumbers

variable (hown : ∀ x ∈ d.ownNumbers, Decimal.isWritable x = true)

include hown

theorem legible_service : (p.service d).Legible (n + 5) := by
  simp only [Deployment.ownNumbers, List.forall_mem_cons] at hown
  simp (disch := first | decide | simp) [service, hown]

theorem legible_container (henv : p.env.entries ≠ []) : (p.container d).Legible (n + 3) := by
  simp only [Deployment.ownNumbers, List.forall_mem_cons] at hown
  have hsettings : (list (p.env.entries.map fun e => setting e.1 (.str e.2))).Legible (n + 2) :=
    ⟨by simpa using henv, List.forall_mem_map.mpr fun _ _ => legible_setting.mpr legible_str⟩
  simpa (disch := first | decide | simp) [container, hown] using hsettings

theorem legible_deployment (henv : p.env.entries ≠ []) : (p.deployment d).Legible (n + 8) := by
  have hcontainer : (p.container d).Legible (n + 3) := legible_container hown henv
  simp only [Deployment.ownNumbers, List.forall_mem_cons] at hown
  simp (disch := first | decide | simp) [deployment, hown, hcontainer]

theorem legible_scaler : (p.scaler d).Legible (n + 5) := by
  simp only [Deployment.ownNumbers, List.forall_mem_cons] at hown
  simp (disch := first | decide | simp) [scaler, hown]

end OwnNumbers

section StreamNumbers

variable (hstream : ∀ x ∈ d.streamNumbers, Decimal.isWritable x = true)

include hstream

theorem legible_broker : (p.broker d).Legible (n + 5) := by
  simp only [Deployment.streamNumbers, List.forall_mem_cons] at hstream
  exact legible_component (by simp [brokerAccess, hstream])

theorem legible_topic : (p.topic d).Legible (n + 3) := by
  simp only [Deployment.streamNumbers, List.forall_mem_cons] at hstream
  simp (disch := first | decide | simp) [Processor.topic, hstream]

end StreamNumbers

/-- A processor with two ends has variables in its environment. -/
theorem entries_env_wired {name : String} {env : Assoc RawText RawText} {feed : Feed}
    {drain : Drain} :
    (wired d name env feed drain).env.entries ≠ [] := by
  intro h
  have hroute : (wired d name env feed drain).env.find? "INPUT_ROUTE" =
      some (.whole (feed.route name)) :=
    Assoc.find?_insert_self ..
  rw [Assoc.find?, h] at hroute
  cases hroute

theorem documentValue_file {category : Category} {name : String} {pairs : List (String × Manifest)}
    (h : (object pairs).Legible 8) :
    documentValue (file category name (object pairs)).manifest.spelled =
      .ok (file category name (object pairs)).manifest.toValue :=
  documentValue_object h (by decide)

/-- A processor's manifests are read back if the numbers that it needs can be written out. -/
theorem documentValue_files (hwritable : p.Writable d) (henv : p.env.entries ≠ []) {r : Rendering}
    (hr : r ∈ p.files d) : documentValue r.manifest.spelled = .ok r.manifest.toValue := by
  obtain ⟨hown, hstream⟩ := writable_iff.mp hwritable
  have hownFiles : ∀ r ∈ p.ownFiles d,
      documentValue r.manifest.spelled = .ok r.manifest.toValue := by
    simp only [ownFiles, List.forall_mem_cons]
    exact ⟨documentValue_file (legible_service hown),
      documentValue_file (legible_deployment hown henv), documentValue_file (legible_scaler hown),
      List.forall_mem_nil _⟩
  have hstreamFiles : p.fedByProcessor = true → ∀ r ∈ p.streamFiles d,
      documentValue r.manifest.spelled = .ok r.manifest.toValue := by
    intro hfed
    simp only [streamFiles, List.forall_mem_cons]
    exact ⟨documentValue_file (legible_broker (hstream hfed)),
      documentValue_file legible_subscription, documentValue_file (legible_topic (hstream hfed)),
      List.forall_mem_nil _⟩
  rw [files, List.mem_append] at hr
  obtain hr | hr := hr
  · exact hownFiles r hr
  · split at hr
    · exact hstreamFiles ‹_› r hr
    · cases hr

/-- The text of a generated file is read as the manifest that was written into it, whatever its
texts are: the same keys and items in the same order, numbers as numbers and texts as texts. -/
theorem documentValue_artifact {t : Topology} {order : List String} {rs : List Rendering}
    {r : Rendering} (h : synthesize d t order = .ok rs) (hr : r ∈ rs) :
    ∃ text, r.artifact.content = .whole text ∧ documentValue text = .ok r.manifest.toValue := by
  refine ⟨r.manifest.spelled, rfl, ?_⟩
  obtain ⟨-, -, nodes, hnodes, rfl⟩ := synthesize_eq_ok_iff.mp h
  obtain ⟨bs, hbs, rfl⟩ := blocks_eq_ok_iff.mp hnodes
  rw [List.mem_append, List.mem_flatten, List.mem_singleton] at hr
  -- a file is one of a node's block, or the tracing configuration
  obtain ⟨b, hb, hr⟩ | rfl := hr
  · obtain ⟨a, -, n, -, hblock⟩ := exists_left_of_forall₂ hbs hb
    obtain ⟨hblock, hwritable⟩ := block_of_nodeRenderings hblock
    cases hblock with
    | source htopic =>
      obtain rfl := List.mem_singleton.mp hr
      exact documentValue_file legible_sourceManifest
    | processor hfeed hdrain =>
      exact documentValue_files ⟨hwritable.manifest, hwritable.threshold rfl⟩ entries_env_wired hr
    | sink htopic =>
      obtain rfl := List.mem_singleton.mp hr
      exact documentValue_file legible_sinkManifest
  · exact documentValue_file legible_tracingManifest

/-- A configuration whose texts look like other values, or have to be quoted. -/
def awkwardDeployment : Deployment :=
  { Deployment.builtIn with
    ns := some "demo"
    brokers := ["null", " edge:9092 "]
    sourceTopics := Assoc.ofList [("in", "true")]
    sinkTopics := Assoc.ofList [("out", "0x1F: a # b")]
    workload := { Workload.standard with image := "first\n\tsecond \"third\" ü" } }

/-- A source, a processor and a sink. One variable of the processor has a value that is no string:
half of a pair that stands for one character. -/
def awkwardTopology : Topology where
  name := "demo"
  nodes := Assoc.ofList [("in", .source "in" "clean"),
    ("clean", .processor "clean" "out" (some "in") (Assoc.ofList [("LIMIT", "5000"), ("~", ""),
      ("HALF", .broken .half)])),
    ("out", .sink "out" ["clean"])]

/-- The awkward texts are read as they are. -/
theorem documentValue_artifact_awkward :
    ∃ rs, synthesize awkwardDeployment awkwardTopology ["in", "clean", "out"] = .ok rs ∧
      rs.length = 6 ∧ ∀ r ∈ rs, ∃ text, r.artifact.content = .whole text ∧
        documentValue text = .ok r.manifest.toValue := by
  obtain ⟨rs, hrs, hlength⟩ : ∃ rs, synthesize awkwardDeployment awkwardTopology
      ["in", "clean", "out"] = .ok rs ∧ rs.length = 6 := ⟨_, rfl, rfl⟩
  exact ⟨rs, hrs, hlength, fun r hr => documentValue_artifact hrs hr⟩

end Mesh

end StreamMesh
