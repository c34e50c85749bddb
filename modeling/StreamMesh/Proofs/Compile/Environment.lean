import StreamMesh.Proofs.Compile.References

/-!
# The environment of a processor's container

A user may declare any variables for a processor, repeat their names, and use the names of those
that tell the processor of its neighbours. All of them end up in one list in the compiled
deployment. It has every name once, where it first came up: the user's names come first, and of the
four others those that the user did not declare. Of a name that is repeated the last value counts,
and the four others have the value that follows from the pipeline, whatever the user declared.

## Main definitions

* `Mesh.wiring` — the variables that tell a processor of its neighbours
* `Mesh.EnvironmentOf` — the environment of declared variables and such a wiring

## Main results

* `Mesh.environmentOf_wired` — the environment of a processor that knows its neighbours
* `container_environment` — the environment of every container of a compiled pipeline
-/

namespace StreamMesh

open Mesh

variable {spec : Spec} {config d : Deployment} {c : Compiled} {a : String} {x v : RawText}
  {s : Step} {feed : Feed} {drain : Drain} {declared : List EnvEntry} {env : Assoc RawText RawText}

namespace Mesh

/-- The names of the variables that tell a processor of its neighbours. -/
def wiringNames : List RawText := ["IS_SINK", "OUTPUT_ROUTE", "IS_SOURCE", "INPUT_ROUTE"]

/-- The variables that tell a processor of its neighbours, in the order in which they are set. -/
def wiring (d : Deployment) (a : String) (feed : Feed) (drain : Drain) :
    List (RawText × RawText) :=
  [("IS_SINK", flag drain.isSink), ("OUTPUT_ROUTE", drain.route d a),
    ("IS_SOURCE", flag feed.isSource), ("INPUT_ROUTE", feed.route a)]

/-- The environment that a list of declared variables and a wiring give. -/
structure EnvironmentOf (declared : List EnvEntry) (wiring entries : List (RawText × RawText)) :
    Prop where
  distinct : (entries.map Prod.fst).Nodup
  names : entries.map Prod.fst = (declared.map fun e => .whole e.name).eraseDups ++
    wiringNames.filter fun x => decide (x ∉ declared.map fun e => .whole e.name)
  /-- A name that is not one of the wiring has the value of its last declaration. -/
  declared : ∀ (x : String) v, .whole x ∉ wiringNames → ((.whole x, v) ∈ entries ↔
    ∃ before after, declared = before ++ ⟨x, v⟩ :: after ∧ x ∉ after.map EnvEntry.name)
  wired : ∀ e ∈ wiring, e ∈ entries

theorem map_fst_wiring : (wiring d a feed drain).map Prod.fst = wiringNames := rfl

theorem nodup_wiringNames : wiringNames.Nodup := by decide

/-- Registering the output and then the input sets the four variables one after the other. -/
theorem Processor.env_wired :
    (wired d a env feed drain).env = env.insertAll (wiring d a feed drain) := rfl

theorem find?_env_wired_of_not_mem (hx : x ∉ wiringNames) :
    (Processor.wired d a env feed drain).env.find? x = env.find? x := by
  have hnone : Assoc.lookup x (wiring d a feed drain).reverse = none := by
    have hkeys : x ∉ (wiring d a feed drain).reverse.map Prod.fst := by
      rwa [List.map_reverse, List.mem_reverse, map_fst_wiring]
    exact Assoc.find?_eq_none_iff (m := ⟨_⟩).mpr hkeys
  rw [Processor.env_wired, Assoc.find?_insertAll, hnone, Option.none_or]

theorem find?_env_wired_of_mem {e : RawText × RawText} (he : e ∈ wiring d a feed drain) :
    (Processor.wired d a env feed drain).env.find? e.1 = some e.2 := by
  have hkeys : ((wiring d a feed drain).reverse.map Prod.fst).Nodup := by
    rw [List.map_reverse, List.nodup_reverse, map_fst_wiring]
    exact nodup_wiringNames
  have hlookup := (Assoc.lookup_eq_some_iff hkeys).mpr (List.mem_reverse.mpr he)
  rw [Processor.env_wired, Assoc.find?_insertAll, hlookup, Option.some_or]

/-- The environment of a processor that knows its neighbours. -/
theorem environmentOf_wired : EnvironmentOf s.env (wiring d a feed drain)
    (Processor.wired d a s.envTable feed drain).env.entries := by
  have hnodup : (Processor.wired d a s.envTable feed drain).env.keys.Nodup :=
    Processor.nodup_keys_wired s.nodup_keys_envTable
  constructor
  · exact hnodup
  · change (Processor.wired d a s.envTable feed drain).env.keys = _
    rw [Processor.env_wired, Assoc.keys_insertAll_of_nodup (map_fst_wiring ▸ nodup_wiringNames),
      map_fst_wiring, s.keys_envTable]
    simp only [List.mem_eraseDups]
  · intro x v hx
    rw [← Assoc.find?_eq_some_iff hnodup, find?_env_wired_of_not_mem hx,
      Step.find?_envTable_eq_some_iff]
  · intro e he
    exact (Assoc.find?_eq_some_iff hnodup).mp (find?_env_wired_of_mem he)

end Mesh

/-- The one deployment of a processor of a compiled pipeline has one container. Its environment is
that of the variables that the processor's step declares, with the wiring of what feeds the
processor and of what it feeds in the pipeline. -/
theorem container_environment (hconfig : config.Validated) (h : compile spec config = .ok c)
    (hs : s ∈ spec.stepList) (hk : s.kind = some (.whole NodeKind.processor.text)) :
    ∃ a b feed drain deployment container entries,
      s.name = some a ∧ s.connectsTo = some (.whole b) ∧
      Feed.Of (config.settled c.pipeline) (fun k x => spec.Connects x a ∧ spec.Has k x) feed ∧
      Drain.Of (config.settled c.pipeline) b (fun k => spec.Has k b) drain ∧
      objectsNamed "Deployment" a c.renderings = [deployment] ∧
      deployment.itemsAt ["spec", "template", "spec", "containers"] = [container] ∧
      container.itemsAt ["env"] = entries.map (fun e => setting e.1 (.str e.2)) ∧
      EnvironmentOf s.env (wiring (config.settled c.pipeline) a feed drain) entries := by
  have hc := compilation_of_compile_eq_ok hconfig h
  obtain ⟨a, ha, -⟩ := (hc.declared.complete s hs).name
  obtain ⟨b, hb, -⟩ := (hc.declared.complete s hs).origin (by rw [hk]; decide)
  obtain ⟨hblock, hmem⟩ := blockOf_spec hconfig h hs ha
  obtain ⟨feed, drain, hfeed, hdrain, hfiles⟩ := hblock.of_processor hk ha hb
  have hdeployment := hc.objectsNamed_deployment_of_files ⟨s, hs, hk, ha⟩ (hfiles ▸ hmem)
  exact ⟨a, b, feed, drain, _, _, _, ha, hb, hfeed, hdrain, hdeployment, rfl, rfl,
    environmentOf_wired⟩

/-- A pipeline whose first processor declares a variable twice, and one of its wiring. -/
def Spec.repeating : Spec := Spec.chain "demo" "clean" "count"
  [⟨"LEVEL", "info"⟩, ⟨"OUTPUT_ROUTE", "elsewhere"⟩, ⟨"REGION", "eu"⟩, ⟨"LEVEL", "debug"⟩]

theorem Spec.validated_repeating : Spec.repeating.Validated := by
  refine ⟨.map [(.str "name", .str "demo"), (.str "steps", .list [
    .map [(.str "name", .str "in"), (.str "kind", .str "source"),
      (.str "connectsTo", .str "clean")],
    .map [(.str "name", .str "clean"), (.str "kind", .str "processor"),
      (.str "connectsTo", .str "count"), (.str "env", .list [
        .map [(.str "name", .str "LEVEL"), (.str "value", .str "info")],
        .map [(.str "name", .str "OUTPUT_ROUTE"), (.str "value", .str "elsewhere")],
        .map [(.str "name", .str "REGION"), (.str "value", .str "eu")],
        .map [(.str "name", .str "LEVEL"), (.str "value", .str "debug")]])],
    .map [(.str "name", .str "count"), (.str "kind", .str "processor"),
      (.str "connectsTo", .str "out")],
    .map [(.str "name", .str "out"), (.str "kind", .str "sink")]])], ?_⟩
  rfl

/-- The container has every variable once, the last value of the one that is repeated, and the
computed value of the one that belongs to the wiring. -/
theorem container_environment_repeating : Spec.repeating.Validated ∧ Deployment.sample.Validated ∧
    ∃ c deployment container, ∃ entries : List (RawText × RawText),
      compile Spec.repeating Deployment.sample = .ok c ∧
      objectsNamed "Deployment" "clean" c.renderings = [deployment] ∧
      deployment.itemsAt ["spec", "template", "spec", "containers"] = [container] ∧
      container.itemsAt ["env"] = entries.map (fun e => setting e.1 (.str e.2)) ∧
      entries.map Prod.fst =
        ["LEVEL", "OUTPUT_ROUTE", "REGION", "IS_SINK", "IS_SOURCE", "INPUT_ROUTE"] ∧
      (.whole "LEVEL", .whole "debug") ∈ entries ∧ (.whole "OUTPUT_ROUTE",
        .whole "http://localhost:3500/v1.0/publish/kafka-broker-count/demo-clean-stream") ∈
          entries := by
  have hconfig := Deployment.validated_sample
  obtain ⟨c, h⟩ : ∃ c, compile Spec.repeating Deployment.sample = .ok c :=
    (compile_isOk_iff Spec.validated_repeating.named hconfig).mpr
      ⟨holds_chain rfl (by decide), Spec.writable_sample_numbers _⟩
  have hpipeline : c.pipeline = "demo" := (RawText.whole.inj <| Option.some.inj
    (compilation_of_compile_eq_ok hconfig h).name).symm
  obtain ⟨a, b, feed, drain, deployment, container, entries, ha, hb, -, hdrain, hdeployment,
    hcontainer, henv, hentries⟩ := container_environment
      (s := ⟨some "clean", some "processor", some "count", _⟩) hconfig h
      (List.mem_cons_of_mem _ (List.mem_cons_self ..)) rfl
  cases ha
  cases hb
  refine ⟨Spec.validated_repeating, hconfig, c, deployment, container, entries, h, hdeployment,
    hcontainer, henv, ?_, ?_, ?_⟩
  · rw [hentries.names]
    decide
  · refine (hentries.declared _ _ (by decide)).mpr ⟨_ :: _ :: _ :: [], [], rfl, nofun⟩
  · have hwired := hentries.wired ("OUTPUT_ROUTE", _)
      (List.mem_cons_of_mem _ (List.mem_cons_self ..))
    rw [hpipeline] at hwired
    cases hdrain with
    | sink hk => exact absurd (Spec.has_chain.mp hk) (by decide)
    | processor => exact hwired

end StreamMesh
