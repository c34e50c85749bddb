import StreamMesh.Mesh.Processor
import StreamMesh.Proofs.Label
import StreamMesh.Proofs.Text.Raw

/-!
# From manifests to files

A manifest becomes a file if its numbers can be written out and its name can be that of a file. Only
so many digits of a number are ever written. The numbers of a processor's manifests come from the
configuration, and the manifests of bindings have none.

## Main definitions

* `Failure.badFileName`, `Failure.illFormedFileName` — the failures of a manifest for its name
* `RawText.InFileName` — texts that can be part of the name of a file
* `Deployment.ownNumbers` — the numbers in the manifests that every processor has
* `Deployment.streamNumbers` — those in the manifests of a connection between processors

## Main results

* `Mesh.rendering_eq_ok_iff`, `Mesh.rendering_eq_error` — when a manifest gets its file
* `Mesh.isWritable_sourceManifest`, `Mesh.isWritable_sinkManifest`,
  `Mesh.isWritable_tracingManifest` — manifests without numbers
* `Mesh.Processor.numbers_deployment` and its siblings — the numbers of each manifest
-/

namespace StreamMesh

/-- The failure of a manifest whose name cannot be that of a file. -/
def Failure.badFileName : Failure :=
  .invalid "Artifact" [⟨[.key "file_name"], .mismatch "^[^/\\\\]+$"⟩]

/-- The failure of a manifest whose name is no string. -/
def Failure.illFormedFileName : Failure :=
  .invalid "Artifact" [⟨[.key "file_name"], .illFormedText⟩]

/-- The failure of a manifest whose name cannot be that of a file, by this name. -/
def Failure.ofFileName : RawText → Failure
  | .whole _ => badFileName
  | .broken _ => illFormedFileName

/-- A text that can be part of the name of a file. -/
def RawText.InFileName (t : RawText) : Prop := ∃ s, t = .whole s ∧ FileSafe s

section InFileName

variable {t : RawText} {s : String}

@[simp] theorem RawText.inFileName_whole_iff : (RawText.whole s).InFileName ↔ FileSafe s :=
  ⟨fun ⟨_, hs, hsafe⟩ => RawText.whole.inj hs ▸ hsafe, fun h => ⟨s, rfl, h⟩⟩

@[simp] theorem RawText.not_inFileName_broken {broken : BrokenText} :
    ¬ (RawText.broken broken).InFileName :=
  fun ⟨_, h, _⟩ => nomatch h

theorem RawText.inFileName_append_iff :
    (t ++ RawText.whole s).InFileName ↔ t.InFileName ∧ FileSafe s := by
  cases t with
  | whole a => simp
  | broken b =>
    obtain ⟨longer, hlonger⟩ := RawText.exists_broken_append_whole (t := b) (s := s)
    simp [hlonger]

theorem Failure.ofFileName_append :
    Failure.ofFileName (t ++ RawText.whole s) = Failure.ofFileName t := by
  cases t with
  | whole a => rfl
  | broken b =>
    obtain ⟨longer, hlonger⟩ := RawText.exists_broken_append_whole (t := b) (s := s)
    rw [hlonger]
    rfl

end InFileName

/-- The numbers in the manifests that every processor has. The threshold of its scaler stands there
as a text. -/
def Deployment.ownNumbers (d : Deployment) : List Int :=
  [d.workload.servicePort, d.workload.appPort, d.workload.replicas, d.scaling.pollingInterval,
    d.scaling.maxReplicas, d.scaling.minReplicas, d.scaling.lagThreshold]

/-- The numbers in the manifests of a connection between processors. -/
def Deployment.streamNumbers (d : Deployment) : List Int :=
  [d.broker.maxMessageBytes, d.topics.partitions, d.topics.replicas, d.topics.retentionMs,
    d.topics.segmentBytes]

namespace Mesh

variable {d : Deployment} {a b name : String} {raw topic : RawText} {category : Category}
  {m : Manifest} {r : Rendering} {f : Failure}

/-- A manifest in a file with the name of its object. -/
def file (category : Category) (name : String) (m : Manifest) : Rendering :=
  ⟨category, name ++ ".yaml", m⟩

section Rendering

theorem rendering_of_not_writable (h : m.isWritable = false) :
    rendering category raw m = .error .tooLong := by
  simp [rendering, Manifest.render?, h]

/-- A manifest that can be written out gets its file exactly if its name holds no separator. -/
theorem rendering_whole (h : m.isWritable = true) : rendering category (.whole name) m =
    if FileSafe name then .ok (file category name m) else .error .badFileName := by
  have hmake : rendering category (.whole name) m = Failure.ofChecked "Artifact"
      (Rendering.make category (.whole (name ++ ".yaml")) m) := by
    simp only [rendering, Manifest.render?, h, if_true, RawText.whole_append]
  rw [hmake, Rendering.make]
  simp only [Artifact.fileNameDefect?_yaml]
  by_cases hname : FileSafe name
  · rw [if_pos hname, if_pos hname]
    rfl
  · rw [if_neg hname, if_neg hname]
    rfl

/-- A name that is no string is not one of a file. -/
theorem rendering_broken {broken : BrokenText} (h : m.isWritable = true) :
    rendering category (.broken broken) m = .error .illFormedFileName := by
  obtain ⟨longer, hlonger⟩ : ∃ longer, RawText.broken broken ++ RawText.whole ".yaml" =
      .broken longer := RawText.exists_broken_append_whole
  simp only [rendering, Manifest.render?, h, if_true, hlonger, Rendering.make]
  rfl

/-- A manifest gets its file exactly if it can be written out and its name holds no separator. -/
theorem rendering_eq_ok_iff : rendering category raw m = .ok r ↔
    m.isWritable = true ∧ raw.InFileName ∧ r = file category raw.lossy m := by
  cases hwritable : m.isWritable with
  | false => simp [rendering_of_not_writable hwritable]
  | true =>
    cases raw with
    | broken t => simp [rendering_broken hwritable]
    | whole s =>
      rw [rendering_whole hwritable]
      split <;> simp [*, RawText.lossy, eq_comm]

/-- What stops a manifest is one of its numbers, or the name of its file. -/
theorem rendering_eq_error (h : rendering category raw m = .error f) :
    f = .tooLong ∧ m.isWritable = false ∨ f = .ofFileName raw ∧ ¬ raw.InFileName := by
  cases hwritable : m.isWritable with
  | false =>
    rw [rendering_of_not_writable hwritable] at h
    cases h
    exact .inl ⟨rfl, rfl⟩
  | true =>
    refine .inr ?_
    cases raw with
    | broken t =>
      rw [rendering_broken hwritable] at h
      cases h
      exact ⟨rfl, fun ⟨_, ht, _⟩ => nomatch ht⟩
    | whole s =>
      rw [rendering_whole hwritable] at h
      split at h
      · cases h
      · rename_i hsafe
        cases h
        exact ⟨rfl, fun ⟨_, hs, hsafe'⟩ => hsafe (RawText.whole.inj hs ▸ hsafe')⟩

/-- Under a name that can be that of a file, only its numbers can stop a manifest. -/
theorem rendering_eq_of_fileSafe (h : FileSafe name) : rendering category (.whole name) m =
    if m.isWritable then .ok (file category name m) else .error .tooLong := by
  cases hwritable : m.isWritable with
  | false => exact rendering_of_not_writable hwritable
  | true => rw [rendering_whole hwritable, if_pos h, if_pos rfl]

/-- No fault of a node stops a single manifest. -/
theorem rendering_ne_fault {e : Fault} : rendering category raw m ≠ .error (.fault e) := by
  intro h
  rcases rendering_eq_error h with ⟨h, -⟩ | ⟨h, -⟩
  · cases h
  · cases raw <;> cases h

end Rendering

section Numbers

/-- A namespace is a text, or nothing. -/
theorem numbers_nsManifest : d.nsManifest.numbers = [] := by
  unfold Deployment.nsManifest
  split <;> rfl

theorem numbers_component {name type : String} {settings : List Manifest} :
    (component d name type settings).numbers = Manifest.itemNumbers settings := by
  have h : (component d name type settings).numbers =
      (d.nsManifest.numbers ++ []) ++ ((Manifest.itemNumbers settings ++ []) ++ []) := rfl
  simp [h, numbers_nsManifest]

theorem isWritable_of_numbers_eq_nil {m : Manifest} (h : m.numbers = []) : m.isWritable = true := by
  rw [Manifest.isWritable, h]
  rfl

theorem isWritable_sourceManifest : (sourceManifest d a b topic).isWritable = true :=
  isWritable_of_numbers_eq_nil numbers_component

theorem isWritable_sinkManifest : (sinkManifest d a topic).isWritable = true :=
  isWritable_of_numbers_eq_nil numbers_component

theorem isWritable_tracingManifest : (tracingManifest d).isWritable = true := by
  have h : (tracingManifest d).numbers = (d.nsManifest.numbers ++ []) ++ [] := rfl
  refine isWritable_of_numbers_eq_nil ?_
  rw [h, numbers_nsManifest]
  rfl

namespace Processor

variable {p : Processor}

theorem numbers_metadata {name : String} : (metadata d name).numbers = [] := by
  have h : (metadata d name).numbers = d.nsManifest.numbers ++ [] := rfl
  rw [h, numbers_nsManifest]
  rfl

theorem numbers_inputManifest : p.inputManifest.numbers = [] := by
  unfold inputManifest
  split <;> rfl

theorem numbers_service :
    (p.service d).numbers = [d.workload.servicePort, d.workload.appPort] := by
  have h : (p.service d).numbers = (metadata d p.name).numbers ++
      [d.workload.servicePort, d.workload.appPort] := rfl
  rw [h, numbers_metadata, List.nil_append]

/-- The environment of a container is made of texts. -/
theorem itemNumbers_env {entries : List (RawText × RawText)} :
    Manifest.itemNumbers (entries.map fun e => setting e.1 (.str e.2)) = [] := by
  induction entries with
  | nil => rfl
  | cons e rest ih => exact ih

theorem numbers_deployment :
    (p.deployment d).numbers = [d.workload.replicas, d.workload.appPort] := by
  -- the number of the container stands before those of its environment
  have hcontainer : (p.container d).numbers = d.workload.appPort ::
      (Manifest.itemNumbers (p.env.entries.map fun e => setting e.1 (.str e.2)) ++ []) := rfl
  have h : (p.deployment d).numbers = (metadata d p.name).numbers ++
      ((d.workload.replicas :: ((((p.container d).numbers ++ []) ++ []) ++ [] ++ [])) ++ []) := rfl
  simp [h, hcontainer, numbers_metadata, itemNumbers_env]

theorem numbers_scaler : (p.scaler d).numbers =
    [d.scaling.pollingInterval, d.scaling.maxReplicas, d.scaling.minReplicas] := by
  have h : (p.scaler d).numbers = (d.nsManifest.numbers ++ []) ++
      ((d.scaling.pollingInterval :: d.scaling.maxReplicas :: d.scaling.minReplicas ::
        ((((p.inputManifest.numbers ++ []) ++ []) ++ []) ++ [])) ++ []) := rfl
  simp [h, numbers_nsManifest, numbers_inputManifest]

theorem numbers_broker : (p.broker d).numbers = [d.broker.maxMessageBytes] :=
  numbers_component

theorem numbers_subscription : (p.subscription d).numbers = [] := by
  have h : (p.subscription d).numbers =
      (d.nsManifest.numbers ++ []) ++ ((p.inputManifest.numbers ++ []) ++ []) := rfl
  simp [h, numbers_nsManifest, numbers_inputManifest]

theorem numbers_topic : (p.topic d).numbers =
    [d.topics.partitions, d.topics.replicas, d.topics.retentionMs, d.topics.segmentBytes] := by
  have h : (p.topic d).numbers = (p.inputManifest.numbers ++ []) ++
      [d.topics.partitions, d.topics.replicas, d.topics.retentionMs, d.topics.segmentBytes] := rfl
  rw [h, numbers_inputManifest, List.append_nil, List.nil_append]

end Processor

end Numbers

end Mesh

end StreamMesh
