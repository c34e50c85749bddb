import StreamMesh.Proofs.Mesh.Object

/-!
# What the generated objects are for

The identity of an object does not tell what it does. That stands in its manifest: which topic a
binding reads or writes, and in which consumer group a processor reads its input.

## Main definitions

* `Manifest.groups` — the consumer groups that a manifest names
* `Mesh.Object.reader?` — the processor for which an object names its group
* `Mesh.Object.Purpose` — what a component is set up to do
* `Mesh.Object.Configured` — the file of an object, with its purpose

## Main results

* `Mesh.Processor.configured_ownFiles`, `Mesh.Processor.configured_streamFiles` — the files of a
  processor are set up for it
-/

namespace StreamMesh

open Mesh

variable {d : Deployment} {env : Assoc RawText RawText} {feed : Feed} {drain : Drain}
  {a b p : String} {topic : RawText}

/-- The consumer groups that a manifest names, as a binding, as a broker or as a scaler. -/
def Manifest.groups (m : Manifest) : List (Option RawText) :=
  m.settings "consumerGroup" ++ m.settings "consumerID" ++ m.triggers "consumerGroup"

namespace Mesh

namespace Object

/-- The processor for which an object names its group. -/
def reader? : Object → Option String
  | ingress _ p => some p
  | scaler p => some p
  | broker q => some q
  | _ => none

/-- What a component is set up to do: a binding reads the topic of its source or writes that of its
sink, and a broker reads in the group of its consumer. -/
def Purpose (d : Deployment) : Object → Manifest → Prop
  | ingress a _, m =>
      m.componentType? = some (.whole "bindings.kafka") ∧ m.settings "publishTopic" = [] ∧
      ∃ topic, d.sourceTopics.find? a = some topic ∧ m.settings "topics" = [some topic]
  | egress k, m => m.componentType? = some (.whole "bindings.kafka") ∧ m.settings "topics" = [] ∧
      ∃ topic, d.sinkTopics.find? k = some topic ∧ m.settings "publishTopic" = [some topic]
  | broker q, m => m.componentType? = some (.whole "pubsub.kafka") ∧
      m.settings "consumerID" = [some (.whole (consumerGroup d.nsText q))]
  | _, _ => True

/-- A file that holds an object, set up for its purpose. -/
structure Configured (d : Deployment) (o : Object) (r : Rendering) : Prop
    extends o.Realised d r where
  purpose : o.Purpose d r.manifest
  /-- No other groups are named than that of the reader. -/
  groups : r.manifest.groups =
    (o.reader?.map fun p => some (.whole (consumerGroup d.nsText p))).toList

theorem configured_ingress (h : d.sourceTopic a = .ok topic) :
    (ingress a b).Configured d
      (file .bindings (ingressBinding a b) (sourceManifest d a b topic)) where
  toRealised := realised_file rfl d.text?_nsManifest rfl
  purpose := ⟨rfl, rfl, topic, (sourceTopic_eq_ok_iff.mp h).1, rfl⟩
  groups := rfl

theorem configured_egress (h : d.sinkTopic a = .ok topic) :
    (egress a).Configured d (file .bindings (egressBinding a) (sinkManifest d a topic)) where
  toRealised := realised_file rfl d.text?_nsManifest rfl
  purpose := ⟨rfl, rfl, topic, (sinkTopic_eq_ok_iff.mp h).1, rfl⟩
  groups := rfl

theorem configured_tracing : tracing.Configured d (tracingFile d) where
  toRealised := realised_file rfl d.text?_nsManifest rfl
  purpose := trivial
  groups := rfl

end Object

namespace Processor

open Object

theorem configured_ownFiles : List.Forall₂ (Configured d)
    [.service a, .deployment a, .scaler a] ((wired d a env feed drain).ownFiles d) :=
  .cons ⟨realised_file rfl d.text?_nsManifest rfl, trivial, rfl⟩ <|
    .cons ⟨realised_file rfl d.text?_nsManifest rfl, trivial, rfl⟩ <|
      .cons ⟨realised_file rfl d.text?_nsManifest rfl, trivial, rfl⟩ .nil

theorem configured_streamFiles : List.Forall₂ (Configured d)
    [.broker a, .subscription p a, .topic p a]
    ((wired d a env (.processor p) drain).streamFiles d) :=
  .cons ⟨realised_file rfl d.text?_nsManifest rfl, ⟨rfl, rfl⟩, rfl⟩ <|
    .cons ⟨realised_file rfl d.text?_nsManifest rfl, trivial, rfl⟩ <|
      .cons ⟨realised_file rfl rfl rfl, trivial, rfl⟩ .nil

/-- A processor that a source feeds has its own objects only. -/
theorem configured_files_of_source : List.Forall₂ (Configured d)
    [.service a, .deployment a, .scaler a] ((wired d a env (.source b topic) drain).files d) :=
  List.rel_append configured_ownFiles .nil

/-- A processor that another one feeds has the objects of this connection as well. -/
theorem configured_files_of_processor : List.Forall₂ (Configured d)
    ([.service a, .deployment a, .scaler a] ++ [.broker a, .subscription p a, .topic p a])
    ((wired d a env (.processor p) drain).files d) :=
  List.rel_append configured_ownFiles configured_streamFiles

end Processor

end Mesh

end StreamMesh
