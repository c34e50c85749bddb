import StreamMesh.Proofs.Mesh.Purpose

/-!
# The objects of a compilation

A compilation makes every object of its pipeline, each of them once; whether their files and
identities differ as well is another matter.

## Main results

* `Spec.Block.exists_objects` — the files of a step are those of the objects that are made for it
* `Compilation.exists_objects` — the files of a compilation are those of the objects of its pipeline
-/

namespace StreamMesh

open Mesh Mesh.Object

variable {spec : Spec} {config d : Deployment} {c : Compiled} {s : Step} {rs : List Rendering}

/-- The files of a step are those of the objects that are made for it. -/
theorem Spec.Block.exists_objects (hdeclared : spec.Declared) (hsingle : spec.SingleInput)
    (hs : s ∈ spec.stepList) (h : spec.Block d s rs) :
    ∃ os : List Object, List.Forall₂ (Configured d) os rs ∧ os.Nodup ∧
      ∀ o, o ∈ os ↔ o.Of spec ∧ o.owner = s.name := by
  obtain ⟨k, hk⟩ := (hdeclared.complete s hs).kind
  obtain ⟨a, ha, -⟩ := (hdeclared.complete s hs).name
  rw [ha]
  cases k with
  | source =>
    obtain ⟨b, hb, -⟩ := (hdeclared.complete s hs).origin (by rw [hk]; decide)
    obtain ⟨topic, htopic, rfl⟩ := h.of_source hk ha hb
    refine ⟨[.ingress a b], .cons (configured_ingress htopic) .nil,
      List.nodup_singleton _, fun o => ?_⟩
    rw [of_source_iff hdeclared ⟨s, hs, hk, ha⟩ ⟨s, hs, ha, hb⟩, List.mem_singleton]
  | sink =>
    obtain ⟨topic, htopic, rfl⟩ := h.of_sink hk ha
    refine ⟨[.egress a], .cons (configured_egress htopic) .nil,
      List.nodup_singleton _, fun o => ?_⟩
    rw [of_sink_iff hdeclared ⟨s, hs, hk, ha⟩, List.mem_singleton]
  | processor =>
    have hprocessor : spec.Has .processor a := ⟨s, hs, hk, ha⟩
    obtain ⟨b, hb, -⟩ := (hdeclared.complete s hs).origin (by rw [hk]; decide)
    obtain ⟨feed, drain, hfeed, -, rfl⟩ := h.of_processor hk ha hb
    cases hfeed with
    | source hx =>
      refine ⟨_, Processor.configured_files_of_source, by simp, fun o => ?_⟩
      rw [of_processor_iff hdeclared hprocessor]
      -- no processor feeds this one as well, since it has a single input
      refine (or_iff_left fun ⟨p, hp, _⟩ => ?_).symm
      obtain rfl := hsingle.unique hprocessor hp.connects hx.1
      exact nomatch hdeclared.kind_unique hp.producer hx.2
    | @processor p hp =>
      have hstreams : spec.Streams p a := ⟨hp.2, hp.1, hprocessor⟩
      refine ⟨_, Processor.configured_files_of_processor, by simp, fun o => ?_⟩
      rw [of_processor_iff hdeclared hprocessor, List.mem_append]
      refine or_congr_right ⟨fun ho => ⟨p, hstreams, ho⟩, fun ⟨x, hx, ho⟩ => ?_⟩
      obtain rfl := hsingle.unique hprocessor hx.connects hstreams.connects
      exact ho

/-- The files of several steps are those of the objects that are made for them. -/
theorem exists_objects_of_blocks (hdeclared : spec.Declared) (hsingle : spec.SingleInput)
    {steps : List Step} {bs : List (List Rendering)} (hmem : ∀ s ∈ steps, s ∈ spec.stepList)
    (hnames : (steps.map Step.name).Nodup) (h : List.Forall₂ (spec.Block d) steps bs) :
    ∃ os : List Object, List.Forall₂ (Configured d) os bs.flatten ∧ os.Nodup ∧
      ∀ o, o ∈ os ↔ o.Of spec ∧ o.owner ∈ steps.map Step.name := by
  induction h with
  | nil => exact ⟨[], .nil, .nil, by simp⟩
  | @cons s b steps bs hb _ ih =>
    rw [List.map_cons, List.nodup_cons] at hnames
    obtain ⟨os, hos, hnodup, hof⟩ :=
      ih (fun s' hs' => hmem s' (List.mem_cons_of_mem _ hs')) hnames.2
    obtain ⟨os', hos', hnodup', hof'⟩ :=
      hb.exists_objects hdeclared hsingle (hmem s (List.mem_cons_self ..))
    refine ⟨os' ++ os, List.rel_append hos' hos, ?_, fun o => ?_⟩
    · -- an object of both lists would be made for two steps of one name
      refine List.nodup_append.mpr ⟨hnodup', hnodup, fun o ho x hx heq => ?_⟩
      subst heq
      exact hnames.1 (((hof' o).mp ho).2 ▸ ((hof o).mp hx).2)
    · rw [List.mem_append, hof', hof, List.map_cons, List.mem_cons, ← and_or_left]

/-- The files of a compilation are those of the objects of its pipeline, each of them once. -/
theorem Compilation.exists_objects (hc : Compilation spec config c) :
    ∃ os : List Object, List.Forall₂ (Configured (config.settled c.pipeline)) os c.renderings ∧
      os.Nodup ∧ ∀ o, o ∈ os ↔ o.Of spec := by
  obtain ⟨steps, bs, hperm, -, hblocks, hrs⟩ := hc.blocks
  have hnames : (steps.map Step.name).Perm (spec.stepList.map Step.name) := hperm.map _
  obtain ⟨os, hos, hnodup, hof⟩ := exists_objects_of_blocks hc.declared hc.singleInput
    (fun s hs => hperm.mem_iff.mp hs) (hnames.nodup_iff.mpr hc.declared.distinct) hblocks
  refine ⟨os ++ [.tracing], ?_, ?_, fun o => ?_⟩
  · rw [hrs]
    exact List.rel_append hos (.cons configured_tracing .nil)
  · refine List.nodup_append.mpr ⟨hnodup, List.nodup_singleton _, fun o ho x hx heq => ?_⟩
    rw [heq, List.mem_singleton.mp hx] at ho
    -- tracing is made for no step, and every step has a name
    obtain ⟨s, hs, howner⟩ := List.mem_map.mp ((hof _).mp ho).2
    obtain ⟨a, ha, -⟩ := (hc.declared.complete s (hperm.mem_iff.mp hs)).name
    exact nomatch ha.symm.trans howner
  · rw [List.mem_append, List.mem_singleton, hof, hnames.mem_iff]
    constructor
    · rintro (ho | rfl)
      · exact ho.1
      · trivial
    · intro ho
      rcases ho.owner_mem with h | h
      · exact .inr h
      · exact .inl ⟨ho, h⟩

end StreamMesh
