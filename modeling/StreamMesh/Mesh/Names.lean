/-!
# Names of generated objects

Both ends of a connection derive the names that they share from the names of its nodes.

## Main definitions

* `consumerGroup`, `ingressBinding`, `egressBinding`, `streamTopic`, `brokerName` — shared names
-/

namespace StreamMesh.Mesh

/-- The group in which a processor reads its input. -/
def consumerGroup (ns processor : String) : String := ns ++ "-" ++ processor ++ "-grp"

/-- The binding that brings a source's topic to a subscriber. -/
def ingressBinding (source subscriber : String) : String :=
  source ++ "-" ++ subscriber ++ "-binding"

/-- The binding that writes a sink's topic. -/
def egressBinding (sink : String) : String := sink ++ "-binding"

/-- The topic that carries a processor's output to the next processor. -/
def streamTopic (ns producer : String) : String := ns ++ "-" ++ producer ++ "-stream"

/-- The broker component of a processor that is fed by another. -/
def brokerName (consumer : String) : String := "kafka-broker-" ++ consumer

end StreamMesh.Mesh
