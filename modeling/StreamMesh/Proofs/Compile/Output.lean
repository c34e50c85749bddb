import StreamMesh.Proofs.Compile.Acceptance
import StreamMesh.Proofs.Files.EmptyDirectory
import StreamMesh.Proofs.Mesh.Apart

/-!
# What a compilation leaves on disk

A compilation reports how many manifests it has made. Written into an empty directory, they are as
many files only if no two of them share a path, which is not so for every pipeline: a sink that is
called like a source and its subscriber has the binding of that source. When files and objects are
told apart is said here exactly, in terms of the names of the nodes.

## Main results

* `outputs_apart_iff` — when files and identities differ, and what writing leaves
* `sink_shadows_source` — a pipeline of three nodes where a file is lost
-/

namespace StreamMesh

open Mesh

variable {spec : Spec} {config : Deployment} {c : Compiled} {a : Artifact}

/-- Every artifact is the file of an object. -/
theorem Compilation.exists_object (hc : Compilation spec config c) (ha : a ∈ c.artifacts) :
    ∃ o : Object, o.Of spec ∧ a.category = o.category ∧
      a.fileName = o.stem (config.settled c.pipeline) ++ ".yaml" := by
  obtain ⟨os, hos, -, hof⟩ := hc.exists_objects
  obtain ⟨r, hr, rfl⟩ := List.mem_map.mp ha
  obtain ⟨o, ho, hrealised⟩ := exists_left_of_forall₂ hos hr
  exact ⟨o, (hof o).mp ho, hrealised.category, hrealised.fileName⟩

/-- What an artifact holds is written out by the printer, and so it is a string. -/
theorem Compiled.content_of_mem (ha : a ∈ c.artifacts) : ∃ text, a.content = .whole text := by
  obtain ⟨r, -, rfl⟩ := List.mem_map.mp ha
  exact ⟨_, rfl⟩

theorem Compilation.plain (hc : Compilation spec config c) : ∀ a ∈ c.artifacts, a.Plain := by
  intro a ha
  obtain ⟨o, -, -, hname⟩ := hc.exists_object ha
  exact Artifact.plain_of_yaml hname

/-- The files of a compilation have different paths exactly if the names of the pipeline are apart,
and so for the identities of their objects. Into an empty directory all files can be written if only
their paths fit; then there are as many of them as artifacts exactly if their names are apart, and
in this case each holds its own artifact. -/
theorem outputs_apart_iff (hconfig : config.Validated) (h : compile spec config = .ok c) :
    ((c.artifacts.map Artifact.relativePath).Nodup ↔ spec.FilesApart c.ns) ∧
    ((c.renderings.map fun r => r.manifest.identity).Nodup ↔ spec.IdentitiesApart) ∧
    ∀ {t : Tree} {root : Path} {base : List String}, t.EmptyDirectory root base →
      ((∃ t', t.writeArtifacts root c.artifacts = (t', none)) ↔
        ∀ a ∈ c.artifacts, (a.path root).Fits) ∧
      ∀ t', t.writeArtifacts root c.artifacts = (t', none) →
        ((t'.filesBelow base).ncard = c.artifacts.length ↔ spec.FilesApart c.ns) ∧
        (spec.FilesApart c.ns → ∀ a ∈ c.artifacts,
          t'.Holds (a.path root) a.content) := by
  have hc := compilation_of_compile_eq_ok hconfig h
  refine ⟨hc.nodup_relativePath_iff, hc.nodup_identity_iff, fun {t root base} hempty => ?_⟩
  refine ⟨?_, fun t' hwrite => ⟨?_, fun hapart a ha => ?_⟩⟩
  · rw [hempty.ready.writeArtifacts_isOk_iff hc.plain]
    exact and_iff_right fun a ha => Compiled.content_of_mem ha
  · -- there is a file for every path, so their number tells whether a path occurs twice
    rw [hempty.ncard_filesBelow_iff hc.plain hwrite, hc.nodup_relativePath_iff]
  · exact (Tree.written_of_writeArtifacts hwrite).find_of_nodup hempty.place hc.plain
      (hc.nodup_relativePath_iff.mpr hapart) ha

section Sink

/-- A pipeline from a source through a processor to a sink of some name. -/
def Spec.toSink (k : String) : Spec where
  name := some "demo"
  steps := some [
    ⟨some "orders", some "source", some "clean", []⟩,
    ⟨some "clean", some "processor", some k, []⟩,
    ⟨some k, some "sink", none, []⟩]

/-- A configuration with the topics of such a pipeline. -/
def Deployment.toSink (k : String) : Deployment :=
  { Deployment.builtIn with
    sourceTopics := Assoc.ofList [("orders", "raw")]
    sinkTopics := Assoc.ofList [(k, "done")] }

/-- The document of such a pipeline. -/
def Spec.documentToSink (k : String) : Value :=
  .map [(.str "name", .str "demo"), (.str "steps", .list [
    .map [(.str "name", .str "orders"), (.str "kind", .str "source"),
      (.str "connectsTo", .str "clean")],
    .map [(.str "name", .str "clean"), (.str "kind", .str "processor"),
      (.str "connectsTo", .str k)],
    .map [(.str "name", .str k), (.str "kind", .str "sink")]])]

/-- The document of such a configuration. -/
def Deployment.documentToSink (k : String) : Value :=
  .map [(.str "brokers", .list [.str "my-cluster-kafka-brokers.kafka:9092"]),
    (.str "source_topics", .map [(.str "orders", .str "raw")]),
    (.str "sink_topics", .map [(.str k, .str "done")])]

variable {k x y : String} {j : NodeKind}

theorem Spec.connects_toSink : (Spec.toSink k).Connects x y ↔
    (x = "orders" ∧ y = "clean") ∨ (x = "clean" ∧ y = k) := by
  simp [Spec.Connects, Spec.stepList, Spec.toSink, eq_comm]

theorem Spec.has_toSink : (Spec.toSink k).Has j x ↔
    (j = .source ∧ x = "orders") ∨ (j = .processor ∧ x = "clean") ∨ (j = .sink ∧ x = k) := by
  cases j <;> simp [Spec.Has, Spec.stepList, Spec.toSink, NodeKind.text, eq_comm]

theorem subscribes_toSink : (Spec.toSink k).Subscribes "orders" "clean" :=
  ⟨Spec.has_toSink.mpr (.inl ⟨rfl, rfl⟩), Spec.connects_toSink.mpr (.inl ⟨rfl, rfl⟩)⟩

theorem eq_of_subscribes_toSink (h : (Spec.toSink k).Subscribes x y) : x = "orders" ∧
    y = "clean" := by
  have hx : x = "orders" := by simpa [Spec.has_toSink] using h.source
  subst hx
  exact ⟨rfl, by simpa [Spec.connects_toSink] using h.connects⟩

variable (hk : k ∉ ["", "orders", "clean"])

include hk

theorem holds_toSink (r : Requirement) : r.Holds (Spec.toSink k) (Deployment.toSink k) := by
  simp only [List.mem_cons, List.not_mem_nil, or_false, not_or] at hk
  obtain ⟨hne, horders, hclean⟩ := hk
  have hsteps : ∀ {s}, s ∈ (Spec.toSink k).stepList →
      s = ⟨some "orders", some "source", some "clean", []⟩ ∨
        s = ⟨some "clean", some "processor", some k, []⟩ ∨ s = ⟨some k, some "sink", none, []⟩ := by
    intro s hs
    simpa [Spec.stepList, Spec.toSink] using hs
  cases r with
  | declared =>
    refine ⟨⟨"demo", rfl, by decide⟩, Option.some_ne_none _, fun s hs =>
      Step.complete_iff.mpr ?_, ?_⟩
    · rcases hsteps hs with rfl | rfl | rfl
      · exact ⟨_, .source rfl rfl (by decide) rfl (by decide)⟩
      · exact ⟨_, .processor rfl rfl (by decide) rfl hne⟩
      · exact ⟨_, .sink rfl rfl hne rfl⟩
    · simp [Spec.stepList, Spec.toSink, Ne.symm horders, Ne.symm hclean]
  | connected =>
    intro x y hxy
    rcases Spec.connects_toSink.mp hxy with ⟨rfl, rfl⟩ | ⟨rfl, rfl⟩ <;> simp [Spec.has_toSink]
  | acyclic =>
    -- the sink is none of the two names, so it comes after them
    refine Spec.acyclic_of_lt (fun x => ["orders", "clean"].idxOf x) fun x y hxy => ?_
    rcases Spec.connects_toSink.mp hxy with ⟨rfl, rfl⟩ | ⟨rfl, rfl⟩
    · decide
    · simp [Ne.symm horders, Ne.symm hclean]
  | singleInput =>
    intro s hs s' hs' y hy hsy hsy'
    have hsame : s.connectsTo = s'.connectsTo := hsy.trans hsy'.symm
    rcases hsteps hs with rfl | rfl | rfl <;> rcases hsteps hs' with rfl | rfl | rfl <;>
      simp_all
  | namespaced => exact .inr ⟨"demo", rfl, Text.Pattern.accepts_iff.mp rfl⟩
  | supplied =>
    refine ⟨fun x hx => ?_, fun x hx => ?_, fun x hx => ?_⟩
    · obtain rfl : x = "clean" := by simpa [Spec.has_toSink] using hx
      exact ⟨"orders", Spec.connects_toSink.mpr (.inl ⟨rfl, rfl⟩)⟩
    · obtain rfl : x = "orders" := by simpa [Spec.has_toSink] using hx
      exact ⟨"raw", rfl, by decide⟩
    · obtain rfl : x = k := by simpa [Spec.has_toSink] using hx
      have hdone := Assoc.find?_insert_self .empty (RawText.whole x) (RawText.whole "done")
      exact ⟨"done", hdone, by decide⟩
  | traced =>
    have htraced : FileSafe "tracing-config" := by decide
    exact htraced
  | encodable => exact ⟨"demo", rfl⟩

theorem exists_compile_toSink (hspec : (Spec.toSink k).Validated)
    (hconfig : (Deployment.toSink k).Validated) :
    ∃ c, compile (Spec.toSink k) (Deployment.toSink k) = .ok c := by
  have hnumbers : ∀ n ∈ Deployment.builtIn.ownNumbers ++ Deployment.builtIn.streamNumbers,
      Decimal.isWritable n = true := by decide
  exact (compile_isOk_iff hspec.named hconfig).mpr
    ⟨holds_toSink hk, Spec.writable_of_numbers hnumbers⟩

theorem not_streams_toSink : ¬ (Spec.toSink k).Streams x y := by
  intro h
  have hx : x = "clean" := by simpa [Spec.has_toSink] using h.producer
  have hy : y = "clean" := by simpa [Spec.has_toSink] using h.consumer
  rcases Spec.connects_toSink.mp h.connects with ⟨h', -⟩ | ⟨-, h'⟩
  · rw [hx] at h'
    exact absurd h' (by decide)
  · rw [← h', hy] at hk
    exact absurd hk (by decide)

/-- Only the sink can be called like the source and its subscriber. -/
theorem namesApart_toSink_iff : (Spec.toSink k).NamesApart ↔ k ≠ "orders-clean" := by
  constructor
  · intro h heq
    exact h.egress subscribes_toSink (Spec.has_toSink.mpr (.inr (.inr ⟨rfl, rfl⟩))) heq.symm
  · intro h
    refine { ingress := fun ha ha' _ => ?_, egress := fun ha hsink heq => h ?_, stream := fun hp =>
      ?_ }
    · rw [(eq_of_subscribes_toSink ha).1, (eq_of_subscribes_toSink ha').1]
    · obtain ⟨rfl, rfl⟩ := eq_of_subscribes_toSink ha
      obtain rfl : _ = k := by simpa [Spec.has_toSink] using hsink
      exact heq.symm
    · exact absurd hp (not_streams_toSink hk)

theorem filesApart_toSink_iff {ns : String} :
    (Spec.toSink k).FilesApart ns ↔ k ≠ "orders-clean" := by
  rw [← namesApart_toSink_iff hk]
  exact ⟨fun h => h.toNamesApart,
    fun h => { h with broker := fun hp => absurd hp (not_streams_toSink hk) }⟩

theorem identitiesApart_toSink_iff : (Spec.toSink k).IdentitiesApart ↔ k ≠ "orders-clean" := by
  rw [← namesApart_toSink_iff hk]
  exact ⟨fun h => h.toNamesApart,
    fun h => { h with
      brokerIngress := fun hp => absurd hp (not_streams_toSink hk)
      brokerEgress := fun hp => absurd hp (not_streams_toSink hk) }⟩

/-- All paths fit below a short one, if that of the sink does. -/
theorem fits_toSink (hc : Compilation (Spec.toSink k) (Deployment.toSink k) c)
    (hfits : (((Path.ofText "build").child "bindings").child (egressBinding k ++ ".yaml")).Fits) :
    ∀ a ∈ c.artifacts, (a.path (Path.ofText "build")).Fits := by
  intro a ha
  obtain ⟨o, hof, hcategory, hname⟩ := hc.exists_object ha
  rw [Artifact.path, Artifact.directory, hcategory, hname]
  -- only one path has the name of the sink in it, the others are fixed
  cases o with
  | ingress x y =>
    obtain ⟨rfl, rfl⟩ := eq_of_subscribes_toSink hof
    exact (by decide : (((Path.ofText "build").child "bindings").child
      "orders-clean-binding.yaml").Fits)
  | egress x =>
    obtain rfl : x = k := by simpa [Object.Of, Spec.has_toSink] using hof
    exact hfits
  | service x =>
    obtain rfl : x = "clean" := by simpa [Object.Of, Spec.has_toSink] using hof
    exact (by decide : (((Path.ofText "build").child "deployments").child
      "clean-service.yaml").Fits)
  | deployment x =>
    obtain rfl : x = "clean" := by simpa [Object.Of, Spec.has_toSink] using hof
    exact (by decide : (((Path.ofText "build").child "deployments").child "clean-deploy.yaml").Fits)
  | scaler x =>
    obtain rfl : x = "clean" := by simpa [Object.Of, Spec.has_toSink] using hof
    exact (by decide : (((Path.ofText "build").child "scaling").child "clean-scaler.yaml").Fits)
  | broker =>
    obtain ⟨_, hof⟩ := hof
    exact absurd hof (not_streams_toSink hk)
  | subscription | topic => exact absurd hof (not_streams_toSink hk)
  | tracing =>
    exact (by decide : (((Path.ofText "build").child "monitoring").child
      "tracing-config.yaml").Fits)

end Sink

/-- A tree with an empty directory. -/
def Tree.withBuild : Tree := ⟨Assoc.ofList [(["build"], .directory)], []⟩

theorem Tree.emptyDirectory_withBuild :
    Tree.withBuild.EmptyDirectory (Path.ofText "build") ["build"] where
  place := rfl
  directory := rfl
  empty {x} hbelow hne := by
    have hx : x ≠ [] := by
      intro h
      subst h
      exact absurd hbelow (by decide)
    rw [at?, if_neg hx]
    exact Assoc.find?_insert_of_ne _ hne _

/-- A sink that is called like a source and its subscriber takes the binding of that source: fewer
files are left than manifests are made. -/
theorem sink_shadows_source :
    (Spec.toSink "orders-clean").Validated ∧ (Deployment.toSink "orders-clean").Validated ∧
    ∃ c, compile (Spec.toSink "orders-clean") (Deployment.toSink "orders-clean") = .ok c ∧
      ¬ (c.artifacts.map Artifact.relativePath).Nodup ∧
      ¬ (c.renderings.map fun r => r.manifest.identity).Nodup ∧
      ∃ t', Tree.withBuild.writeArtifacts (Path.ofText "build") c.artifacts = (t', none) ∧
        (t'.filesBelow ["build"]).ncard < c.artifacts.length := by
  have hspec : (Spec.toSink "orders-clean").Validated := ⟨Spec.documentToSink "orders-clean", rfl⟩
  have hconfig : (Deployment.toSink "orders-clean").Validated :=
    ⟨Deployment.documentToSink "orders-clean", rfl⟩
  obtain ⟨c, h⟩ := exists_compile_toSink (by decide) hspec hconfig
  have hc := compilation_of_compile_eq_ok hconfig h
  have hpaths : ¬ (c.artifacts.map Artifact.relativePath).Nodup := by
    rw [hc.nodup_relativePath_iff, filesApart_toSink_iff (by decide)]
    exact not_not.mpr rfl
  have hidentities : ¬ (c.renderings.map fun r => r.manifest.identity).Nodup := by
    rw [hc.nodup_identity_iff, identitiesApart_toSink_iff (by decide)]
    exact not_not.mpr rfl
  -- writing succeeds all the same, and leaves one file for two artifacts
  have hempty := Tree.emptyDirectory_withBuild
  obtain ⟨t', hwrite⟩ := (hempty.ready.writeArtifacts_isOk_iff hc.plain).mpr
    ⟨fun a ha => Compiled.content_of_mem ha, fits_toSink (by decide) hc (by decide)⟩
  have hcount : (t'.filesBelow ["build"]).ncard ≠ c.artifacts.length := by
    rw [ne_eq, hempty.ncard_filesBelow_iff hc.plain hwrite]
    exact hpaths
  exact ⟨hspec, hconfig, c, h, hpaths, hidentities, t', hwrite,
    lt_of_le_of_ne (hempty.ncard_filesBelow_le hc.plain hwrite) hcount⟩

/-- With another name for the sink, nothing is lost. -/
theorem outputs_apart_reports :
    (Spec.toSink "reports").Validated ∧ (Deployment.toSink "reports").Validated ∧
    ∃ c, compile (Spec.toSink "reports") (Deployment.toSink "reports") = .ok c ∧
      (c.artifacts.map Artifact.relativePath).Nodup ∧
      (c.renderings.map fun r => r.manifest.identity).Nodup ∧
      Tree.withBuild.EmptyDirectory (Path.ofText "build") ["build"] ∧
      ∃ t', Tree.withBuild.writeArtifacts (Path.ofText "build") c.artifacts = (t', none) ∧
        (t'.filesBelow ["build"]).ncard = c.artifacts.length ∧
        ∀ a ∈ c.artifacts, t'.Holds (a.path (Path.ofText "build")) a.content := by
  have hspec : (Spec.toSink "reports").Validated := ⟨Spec.documentToSink "reports", rfl⟩
  have hconfig : (Deployment.toSink "reports").Validated :=
    ⟨Deployment.documentToSink "reports", rfl⟩
  obtain ⟨c, h⟩ := exists_compile_toSink (by decide) hspec hconfig
  have hc := compilation_of_compile_eq_ok hconfig h
  have hapart : (Spec.toSink "reports").FilesApart c.ns :=
    (filesApart_toSink_iff (by decide)).mpr (by decide)
  have hidentities : (Spec.toSink "reports").IdentitiesApart :=
    (identitiesApart_toSink_iff (by decide)).mpr (by decide)
  have hempty := Tree.emptyDirectory_withBuild
  obtain ⟨hpaths, hobjects, hwriting⟩ := outputs_apart_iff hconfig h
  obtain ⟨hfits, hwritten⟩ := hwriting hempty
  obtain ⟨t', hwrite⟩ := hfits.mpr (fits_toSink (by decide) hc (by decide))
  obtain ⟨hcount, hcontent⟩ := hwritten t' hwrite
  exact ⟨hspec, hconfig, c, h, hpaths.mpr hapart, hobjects.mpr hidentities, hempty, t', hwrite,
    hcount.mpr hapart, hcontent hapart⟩

end StreamMesh
