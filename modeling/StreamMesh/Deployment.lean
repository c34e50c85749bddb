import StreamMesh.Label
import StreamMesh.Schema.Check

/-!
# Deployment configurations

A deployment configuration holds what all objects of a pipeline share: the namespace, the message
brokers, the topics outside the pipeline, and the settings of each kind of object. All settings but
the brokers have a default.

## Main definitions

* `Tracing`, `Workload`, `Scaling`, `TopicSettings`, `BrokerSettings` — the sections
* `Deployment` — a configuration
* `Deployment.check`, `Deployment.toValue` — from and to a document
* `Deployment.builtIn` — the configuration in force where none is given
* `Deployment.resolve` — the configuration with its namespace settled
-/

namespace StreamMesh

open Schema

/-- How requests are traced. -/
structure Tracing where
  endpoint : String
  samplingRate : Float
  configName : String
  deriving Repr

/-- What every processor's container and service share. -/
structure Workload where
  image : String
  appPort : Int
  servicePort : Int
  replicas : Int
  serviceType : RawText
  imagePullPolicy : RawText
  deriving DecidableEq, Repr

/-- When processors are scaled. -/
structure Scaling where
  pollingInterval : Int
  minReplicas : Int
  maxReplicas : Int
  lagThreshold : Int
  deriving DecidableEq, Repr

/-- The topics between processors. -/
structure TopicSettings where
  cluster : String
  /-- The namespace that holds the topics. -/
  ns : String
  partitions : Int
  replicas : Int
  retentionMs : Int
  segmentBytes : Int
  deriving DecidableEq, Repr

/-- The components that talk to the brokers. -/
structure BrokerSettings where
  authRequired : Bool
  maxMessageBytes : Int
  deriving DecidableEq, Repr

/-- What all objects of a pipeline share. -/
structure Deployment where
  /-- The namespace of the objects, the pipeline's name if it is not set. -/
  ns : Option String
  brokers : List RawText
  /-- The topic that each source reads. -/
  sourceTopics : Assoc RawText RawText
  /-- The topic that each sink writes. -/
  sinkTopics : Assoc RawText RawText
  tracing : Tracing
  workload : Workload
  scaling : Scaling
  topics : TopicSettings
  broker : BrokerSettings
  deriving Repr

/-- The whole numbers from `low` on. -/
def atLeast (low : Int) : Value → Checked Int := wholeIn ⟨low, none⟩

/-- The numbers of ports. -/
def port : Value → Checked Int := wholeIn ⟨1, some 65535⟩

/-- The defect of a text that cannot be a namespace. -/
def namespaceDefect? (s : String) : Option Defect :=
  if Label.isNamespace s then none else some (.mismatch Label.patternText)

namespace Tracing

/-- Tracing where nothing is set. -/
def standard : Tracing := ⟨"http://zipkin.observability:9411/api/v2/spans", 1.0, "tracing-config"⟩

/-- Tracing from a document. -/
def check : Value → Checked Tracing :=
  record "ObservabilityConfig" fun m =>
    Tracing.mk <$> optional "tracing_endpoint" standard.endpoint nonEmptyText m
      <*> optional "tracing_sampling_rate" standard.samplingRate share m
      <*> optional "config_name" standard.configName nonEmptyText m
      <* noOthers ["tracing_endpoint", "tracing_sampling_rate", "config_name"] m

/-- The share of traced requests, without trailing zeros. -/
def rateText (t : Tracing) : String := Decimal.briefText t.samplingRate

/-- Tracing as a document. -/
def toValue (t : Tracing) : Value :=
  .map [(.str "tracing_endpoint", .str t.endpoint),
    (.str "tracing_sampling_rate", .float t.samplingRate), (.str "config_name", .str t.configName)]

end Tracing

namespace Workload

/-- A workload where nothing is set. -/
def standard : Workload :=
  ⟨"verstraetebert/simple-transformer:1", 5000, 80, 1, "LoadBalancer", "Always"⟩

/-- A workload from a document. -/
def check : Value → Checked Workload :=
  record "ProcessorDefaults" fun m =>
    Workload.mk <$> optional "image" standard.image nonEmptyText m
      <*> optional "app_port" standard.appPort port m
      <*> optional "service_port" standard.servicePort port m
      <*> optional "replicas" standard.replicas (atLeast 0) m
      <*> optional "service_type" standard.serviceType text m
      <*> optional "image_pull_policy" standard.imagePullPolicy text m
      <* noOthers ["image", "app_port", "service_port", "replicas", "service_type",
        "image_pull_policy"] m

/-- A workload as a document. -/
def toValue (w : Workload) : Value :=
  .map [(.str "image", .str w.image), (.str "app_port", .int w.appPort),
    (.str "service_port", .int w.servicePort), (.str "replicas", .int w.replicas),
    (.str "service_type", .ofRaw w.serviceType),
    (.str "image_pull_policy", .ofRaw w.imagePullPolicy)]

end Workload

namespace Scaling

/-- Scaling where nothing is set. -/
def standard : Scaling := ⟨15, 0, 5, 5⟩

/-- Scaling from a document. -/
def check : Value → Checked Scaling :=
  record "ScalingConfig" fun m =>
    Scaling.mk <$> optional "polling_interval" standard.pollingInterval (atLeast 1) m
      <*> optional "min_replicas" standard.minReplicas (atLeast 0) m
      <*> optional "max_replicas" standard.maxReplicas (atLeast 1) m
      <*> optional "lag_threshold" standard.lagThreshold (atLeast 1) m
      <* noOthers ["polling_interval", "min_replicas", "max_replicas", "lag_threshold"] m

/-- Scaling as a document. -/
def toValue (s : Scaling) : Value :=
  .map [(.str "polling_interval", .int s.pollingInterval),
    (.str "min_replicas", .int s.minReplicas), (.str "max_replicas", .int s.maxReplicas),
    (.str "lag_threshold", .int s.lagThreshold)]

end Scaling

namespace TopicSettings

/-- Topics where nothing is set. -/
def standard : TopicSettings := ⟨"my-cluster", "kafka", 5, 1, 7200000, 1073741824⟩

/-- Topics from a document. -/
def check : Value → Checked TopicSettings :=
  record "TopicDefaults" fun m =>
    TopicSettings.mk <$> optional "cluster" standard.cluster nonEmptyText m
      <*> optional "namespace" standard.ns (textThat namespaceDefect?) m
      <*> optional "partitions" standard.partitions (atLeast 1) m
      <*> optional "replicas" standard.replicas (atLeast 1) m
      <*> optional "retention_ms" standard.retentionMs (atLeast 0) m
      <*> optional "segment_bytes" standard.segmentBytes (atLeast 1) m
      <* noOthers ["cluster", "namespace", "partitions", "replicas", "retention_ms",
        "segment_bytes"] m

/-- Topics as a document. -/
def toValue (t : TopicSettings) : Value :=
  .map [(.str "cluster", .str t.cluster), (.str "namespace", .str t.ns),
    (.str "partitions", .int t.partitions), (.str "replicas", .int t.replicas),
    (.str "retention_ms", .int t.retentionMs), (.str "segment_bytes", .int t.segmentBytes)]

end TopicSettings

namespace BrokerSettings

/-- Broker settings where nothing is set. -/
def standard : BrokerSettings := ⟨false, 1024⟩

/-- Broker settings from a document. -/
def check : Value → Checked BrokerSettings :=
  record "BrokerConfig" fun m =>
    BrokerSettings.mk <$> optional "auth_required" standard.authRequired truth m
      <*> optional "max_message_bytes" standard.maxMessageBytes (atLeast 1) m
      <* noOthers ["auth_required", "max_message_bytes"] m

/-- Broker settings as a document. -/
def toValue (b : BrokerSettings) : Value :=
  .map [(.str "auth_required", .bool b.authRequired),
    (.str "max_message_bytes", .int b.maxMessageBytes)]

end BrokerSettings

namespace Deployment

/-- A configuration from a document. -/
def check : Value → Checked Deployment :=
  record "DeploymentConfig" fun m =>
    Deployment.mk <$> optional "namespace" none (nullable (textThat namespaceDefect?)) m
      <*> required "brokers" (someItems text) m
      <*> optional "source_topics" .empty texts m
      <*> optional "sink_topics" .empty texts m
      <*> optional "observability" .standard Tracing.check m
      <*> optional "processor" .standard Workload.check m
      <*> optional "scaling" .standard Scaling.check m
      <*> optional "topics" .standard TopicSettings.check m
      <*> optional "broker" .standard BrokerSettings.check m
      <* noOthers ["namespace", "brokers", "source_topics", "sink_topics", "observability",
        "processor", "scaling", "topics", "broker"] m

/-- A mapping from text to text as a document. -/
def textsValue (m : Assoc RawText RawText) : Value :=
  .map (m.entries.map fun e => (.ofRaw e.1, .ofRaw e.2))

/-- A configuration as a document, with `ns` for its namespace. -/
def toValueWith (ns : Value) (d : Deployment) : Value :=
  .map [(.str "namespace", ns), (.str "brokers", .list (d.brokers.map .ofRaw)),
    (.str "source_topics", textsValue d.sourceTopics),
    (.str "sink_topics", textsValue d.sinkTopics), (.str "observability", d.tracing.toValue),
    (.str "processor", d.workload.toValue), (.str "scaling", d.scaling.toValue),
    (.str "topics", d.topics.toValue), (.str "broker", d.broker.toValue)]

/-- A configuration as a document. -/
def toValue (d : Deployment) : Value :=
  d.toValueWith (match d.ns with
    | some s => .str s
    | none => .null)

/-- The mapping that gives each of some names the topic of the same name. -/
def sameNamed (names : List String) : Assoc RawText RawText :=
  Assoc.ofList (names.map fun n => (.whole n, .whole n))

/-- The configuration of a single cluster with two topics to read and two to write. -/
def builtIn : Deployment where
  ns := none
  brokers := ["my-cluster-kafka-brokers.kafka:9092"]
  sourceTopics := sameNamed ["kafka-ingress-0", "kafka-ingress-1"]
  sinkTopics := sameNamed ["kafka-egress-0", "kafka-egress-1"]
  tracing := .standard
  workload := .standard
  scaling := .standard
  topics := .standard
  broker := .standard

/-- The built-in configuration for a namespace. -/
def builtInFor (ns : Value) : Checked Deployment := check (builtIn.toValueWith ns)

/-- The configuration with its namespace settled: `ns` stands in for a namespace that is not set,
and is checked like one. -/
def resolveWith (d : Deployment) (ns : Value) : Checked Deployment :=
  if d.ns.isSome then .accepted d else check (d.toValueWith ns)

/-- The configuration of a pipeline, whose name stands in for a namespace that is not set. -/
def resolve (d : Deployment) (pipeline : RawText) : Checked Deployment :=
  d.resolveWith (.ofRaw pipeline)

/-- The addresses of the brokers in one text. -/
def brokerList (d : Deployment) : RawText := RawText.join "," d.brokers

end Deployment

end StreamMesh
