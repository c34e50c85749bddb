import StreamMesh.Mesh.Endpoint
import StreamMesh.Topology.Node

/-!
# Manifests of processors

A processor is realised by a service, a deployment and a scaler. If another processor feeds it, a
broker component, a subscription and a topic of its own are added. How the processor reaches its
neighbours is written into its environment when they are registered.

## Main definitions

* `Processor` — a processor while its manifests are made
* `Processor.registerInput`, `Processor.registerOutput` — its neighbours
* `Processor.renderings` — its manifests
-/

namespace StreamMesh.Mesh

/-- A processor while its manifests are made. -/
structure Processor where
  name : String
  env : Assoc RawText RawText
  inputTopic : Option RawText
  fedByProcessor : Bool
  deriving DecidableEq, Repr

/-- The component's interface as the container sees it. -/
def localApi : String := "http://localhost:3500/v1.0"

namespace Processor

/-- A processor before its neighbours are known. -/
def fresh (name : String) (env : Assoc RawText RawText) : Processor := ⟨name, env, none, false⟩

/-- Sets two environment variables, one after the other. -/
def withRoute (p : Processor) (flagName flagValue routeName route : String) : Processor :=
  { p with env := (p.env.insert (flagName : String) ↑flagValue).insert routeName route }

/-- Registers what feeds the processor. The environment is written before the topic of a source is
looked up, and stays written if there is none. -/
def registerInput (d : Deployment) (input : Option String) (kind : Option NodeKind)
    (p : Processor) : Processor × Except Fault Unit :=
  match input, kind with
  | some source, some .source =>
    -- The environment comes first, so it is written even if the topic is then not found.
    let p := p.withRoute "IS_SOURCE" "true" "INPUT_ROUTE" ("/" ++ ingressBinding source p.name)
    match d.sourceTopic source with
    | .ok topic => ({ p with inputTopic := some topic }, .ok ())
    | .error f => (p, .error f)
  | some producer, some .processor =>
    let p := p.withRoute "IS_SOURCE" "false" "INPUT_ROUTE" ("/" ++ p.name)
    ({ p with inputTopic := some ↑(streamTopic d.nsText producer), fedByProcessor := true }, .ok ())
  | _, _ => (p, .error (.invalidInputKind p.name input (kind.map NodeKind.text)))

/-- The address of a sink's binding. -/
def bindingRoute (sink : String) : String := localApi ++ "/bindings/" ++ egressBinding sink

/-- The address of a topic behind the broker of a processor. -/
def publishRoute (consumer topic : String) : String :=
  localApi ++ "/publish/" ++ brokerName consumer ++ "/" ++ topic

/-- Registers what the processor feeds. -/
def registerOutput (d : Deployment) (output : String) (kind : Option NodeKind) (p : Processor) :
    Processor × Except Fault Unit :=
  match kind with
  | some .sink => match d.sinkTopic output with
    | .ok _ => (p.withRoute "IS_SINK" "true" "OUTPUT_ROUTE" (bindingRoute output), .ok ())
    | .error f => (p, .error f)
  | some .processor =>
    (p.withRoute "IS_SINK" "false" "OUTPUT_ROUTE"
      (publishRoute output (streamTopic d.nsText p.name)), .ok ())
  | _ => (p, .error (.invalidOutputKind p.name output (kind.map NodeKind.text)))

/-- The name and the namespace of an object, and the application that it belongs to. -/
def metadata (d : Deployment) (name : String) : Manifest :=
  .object [("name", .str name), ("namespace", d.nsManifest),
    ("labels", .object [("app", .str name)])]

/-- The service of a processor. -/
def service (d : Deployment) (p : Processor) : Manifest :=
  .object [
    ("kind", .str "Service"),
    ("apiVersion", .str "v1"),
    ("metadata", metadata d p.name),
    ("spec", .object [
      ("selector", .object [("app", .str p.name)]),
      ("ports", .list [.object [
        ("protocol", .str "TCP"),
        ("port", .int d.workload.servicePort),
        ("targetPort", .int d.workload.appPort)]]),
      ("type", .str d.workload.serviceType)])]

/-- The container of a processor. -/
def container (d : Deployment) (p : Processor) : Manifest :=
  .object [
    ("name", .str p.name),
    ("image", .str d.workload.image),
    ("ports", .list [.object [("containerPort", .int d.workload.appPort)]]),
    ("imagePullPolicy", .str d.workload.imagePullPolicy),
    ("env", .list (p.env.entries.map fun e => setting e.1 (.str e.2)))]

/-- What a processor's component is told about it. -/
def annotations (d : Deployment) (p : Processor) : Manifest :=
  .object [
    ("dapr.io/enabled", .str "true"),
    ("dapr.io/app-id", .str p.name),
    ("dapr.io/app-port", .str (toString d.workload.appPort)),
    ("dapr.io/config", .str d.tracing.configName)]

/-- The deployment of a processor. -/
def deployment (d : Deployment) (p : Processor) : Manifest :=
  .object [
    ("apiVersion", .str "apps/v1"),
    ("kind", .str "Deployment"),
    ("metadata", metadata d p.name),
    ("spec", .object [
      ("replicas", .int d.workload.replicas),
      ("selector", .object [("matchLabels", .object [("app", .str p.name)])]),
      ("template", .object [
        ("metadata", .object [
          ("labels", .object [("app", .str p.name)]),
          ("annotations", annotations d p)]),
        ("spec", .object [("containers", .list [container d p])])])])]

/-- The topic that a processor reads, as a manifest. -/
def inputManifest (p : Processor) : Manifest :=
  match p.inputTopic with
  | some topic => .str topic
  | none => .scalar .null

/-- The scaler of a processor. -/
def scaler (d : Deployment) (p : Processor) : Manifest :=
  .object [
    ("apiVersion", .str "keda.sh/v1alpha1"),
    ("kind", .str "ScaledObject"),
    ("metadata", .object [
      ("name", .str (d.nsText ++ "-" ++ p.name ++ "-scaler")),
      ("namespace", d.nsManifest)]),
    ("spec", .object [
      ("scaleTargetRef", .object [("kind", .str "Deployment"), ("name", .str p.name)]),
      ("pollingInterval", .int d.scaling.pollingInterval),
      ("maxReplicaCount", .int d.scaling.maxReplicas),
      ("minReplicaCount", .int d.scaling.minReplicas),
      ("triggers", .list [.object [
        ("type", .str "kafka"),
        ("metadata", .object [
          ("topic", p.inputManifest),
          ("bootstrapServers", .str d.brokerList),
          ("consumerGroup", .str (consumerGroup d.nsText p.name)),
          ("lagThreshold", .str (toString d.scaling.lagThreshold))])]])])]

/-- The broker component of a processor. -/
def broker (d : Deployment) (p : Processor) : Manifest :=
  component d (brokerName p.name) "pubsub.kafka" (brokerAccess d ++ [
    setting "maxMessageBytes" (.int d.broker.maxMessageBytes),
    setting "consumerID" (.str (consumerGroup d.nsText p.name))])

/-- The topic that a processor reads, inside a name. -/
def inputText (p : Processor) : RawText := p.inputTopic.getD "None"

/-- The name of a processor's subscription. -/
def subscriptionName (p : Processor) : RawText :=
  p.inputText ++ "-" ++ p.name ++ "-subscription"

/-- The subscription of a processor. -/
def subscription (d : Deployment) (p : Processor) : Manifest :=
  .object [
    ("apiVersion", .str componentApi),
    ("kind", .str "Subscription"),
    ("metadata", .object [("name", .str p.subscriptionName), ("namespace", d.nsManifest)]),
    ("spec", .object [
      ("topic", p.inputManifest),
      ("route", .str ("/" ++ p.name)),
      ("pubsubname", .str (brokerName p.name))]),
    ("scopes", .list [.str p.name])]

/-- The topic between a processor and the one that feeds it. -/
def topic (d : Deployment) (p : Processor) : Manifest :=
  .object [
    ("apiVersion", .str "kafka.strimzi.io/v1beta1"),
    ("kind", .str "KafkaTopic"),
    ("metadata", .object [
      ("name", p.inputManifest),
      ("namespace", .str d.topics.ns),
      ("labels", .object [("strimzi.io/cluster", .str d.topics.cluster)])]),
    ("spec", .object [
      ("partitions", .int d.topics.partitions),
      ("replicas", .int d.topics.replicas),
      ("config", .object [
        ("retention.ms", .int d.topics.retentionMs),
        ("segment.bytes", .int d.topics.segmentBytes)])])]

/-- The scaler in its file. The threshold is a text in the manifest, so it is written out first. -/
def scalerRendering (d : Deployment) (p : Processor) : Except Failure Rendering :=
  if Decimal.isWritable d.scaling.lagThreshold then
    rendering .scaling ↑(p.name ++ "-scaler") (p.scaler d)
  else .error .tooLong

/-- The manifests that every processor has. -/
def ownRenderings (d : Deployment) (p : Processor) : Except Failure (List Rendering) := do
  let service ← rendering .deployments (p.name ++ "-service") (p.service d)
  let deployment ← rendering .deployments (p.name ++ "-deploy") (p.deployment d)
  let scaler ← p.scalerRendering d
  return [service, deployment, scaler]

/-- The manifests of the connection to a processor that feeds this one. -/
def streamRenderings (d : Deployment) (p : Processor) : Except Failure (List Rendering) := do
  let broker ← rendering .streams (brokerName p.name) (p.broker d)
  let subscription ← rendering .streams p.subscriptionName (p.subscription d)
  let topic ← rendering .topics p.inputText (p.topic d)
  return [broker, subscription, topic]

/-- The manifests of a processor. -/
def renderings (d : Deployment) (p : Processor) : Except Failure (List Rendering) := do
  let own ← p.ownRenderings d
  if p.fedByProcessor then
    let stream ← p.streamRenderings d
    return own ++ stream
  else return own

end Processor

end StreamMesh.Mesh
