import StreamMesh.Artifact
import StreamMesh.Deployment
import StreamMesh.Failure
import StreamMesh.Mesh.Names

/-!
# Manifests of sources, sinks and tracing

A source is realised by one binding for the processor that it feeds, a sink by one binding for all
processors that write to it. One object configures tracing for the whole pipeline.

## Main definitions

* `Deployment.sourceTopic`, `Deployment.sinkTopic` — the topics outside the pipeline
* `sourceManifest`, `sinkManifest`, `tracingManifest` — the manifests
* `sourceBinding`, `sinkBinding`, `tracingObject` — the same with their files
-/

namespace StreamMesh

/-- The topic of a name, which must be there and not be empty. -/
def topicIn (mapping : String) (topics : Assoc RawText RawText) (name : String) :
    Except Fault RawText :=
  match topics.find? name with
  | some topic => if topic.isEmpty then .error (.unmapped name mapping topics.keys) else .ok topic
  | none => .error (.unmapped name mapping topics.keys)

/-- The topic that a source reads. -/
def Deployment.sourceTopic (d : Deployment) : String → Except Fault RawText :=
  topicIn "source_topics" d.sourceTopics

/-- The topic that a sink writes. -/
def Deployment.sinkTopic (d : Deployment) : String → Except Fault RawText :=
  topicIn "sink_topics" d.sinkTopics

/-- The namespace inside a name. -/
def Deployment.nsText (d : Deployment) : String := Fault.shown d.ns

/-- The namespace as a manifest. -/
def Deployment.nsManifest (d : Deployment) : Manifest :=
  match d.ns with
  | some s => .str s
  | none => .scalar .null

namespace Mesh

/-- The interface of the components between processors and brokers. -/
def componentApi : String := "dapr.io/v1alpha1"

/-- A truth value in a component's settings. -/
def flag (b : Bool) : String := if b then "true" else "false"

/-- One setting of a component. -/
def setting (name : RawText) (value : Manifest) : Manifest :=
  .object [("name", .str name), ("value", value)]

/-- A component of a type with its settings. -/
def component (d : Deployment) (name type : String) (settings : List Manifest) : Manifest :=
  .object [
    ("apiVersion", .str componentApi),
    ("kind", .str "Component"),
    ("metadata", .object [("name", .str name), ("namespace", d.nsManifest)]),
    ("spec", .object [("type", .str type), ("version", .str "v1"), ("metadata", .list settings)])]

/-- The settings that every component has. -/
def brokerAccess (d : Deployment) : List Manifest :=
  [setting "brokers" (.str d.brokerList),
    setting "authRequired" (.str (flag d.broker.authRequired))]

/-- The binding that brings a source's topic to a subscriber. -/
def sourceManifest (d : Deployment) (source subscriber : String) (topic : RawText) : Manifest :=
  component d (ingressBinding source subscriber) "bindings.kafka" (brokerAccess d ++ [
    setting "topics" (.str topic),
    setting "consumerGroup" (.str (consumerGroup d.nsText subscriber))])

/-- The binding that writes a sink's topic. -/
def sinkManifest (d : Deployment) (sink : String) (topic : RawText) : Manifest :=
  component d (egressBinding sink) "bindings.kafka"
    (brokerAccess d ++ [setting "publishTopic" (.str topic)])

/-- The object that configures tracing. -/
def tracingManifest (d : Deployment) : Manifest :=
  .object [
    ("apiVersion", .str componentApi),
    ("kind", .str "Configuration"),
    ("metadata", .object [("name", .str d.tracing.configName), ("namespace", d.nsManifest)]),
    ("spec", .object [("tracing", .object [
      ("samplingRate", .str d.tracing.rateText),
      ("zipkin", .object [("endpointAddress", .str d.tracing.endpoint)])])])]

/-- A manifest in a file with the name of its object. The manifest is written out before the name of
the file is checked. -/
def rendering (category : Category) (name : RawText) (manifest : Manifest) :
    Except Failure Rendering :=
  match manifest.render? with
  | none => .error .tooLong
  | some _ => Failure.ofChecked "Artifact" (Rendering.make category (name ++ ".yaml") manifest)

/-- The binding of a source to the processor that it feeds. -/
def sourceBinding (d : Deployment) (source subscriber : String) : Except Failure Rendering := do
  let topic ← Failure.ofFault (d.sourceTopic source)
  rendering .bindings (ingressBinding source subscriber) (sourceManifest d source subscriber topic)

/-- The binding of a sink. -/
def sinkBinding (d : Deployment) (sink : String) : Except Failure Rendering := do
  let topic ← Failure.ofFault (d.sinkTopic sink)
  rendering .bindings (egressBinding sink) (sinkManifest d sink topic)

/-- The tracing configuration. -/
def tracingObject (d : Deployment) : Except Failure Rendering :=
  rendering .monitoring d.tracing.configName (tracingManifest d)

end Mesh

end StreamMesh
