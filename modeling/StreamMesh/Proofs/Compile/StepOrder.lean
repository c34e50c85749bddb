import StreamMesh.Proofs.Compile.Acceptance
import StreamMesh.Proofs.Mesh.Reading

/-!
# The order of declaration does not matter

Two specifications with the same steps in different orders compile under the same configurations,
and to the same files. What a step becomes depends on the set of steps only; the order of
declaration shows in the order of the files and nowhere else.

## Main definitions

* `Spec.Reordering` — specifications that differ in the order of their steps

## Main results

* `Spec.Reordering.holds_iff` — they meet the same requirements
* `compile_reordering` — they compile to the same files
-/

namespace StreamMesh

open Relation

variable {spec spec' : Spec} {config d : Deployment} {c c' : Compiled} {s : Step} {n : Node}
  {rs rs' : List Rendering}

/-- Specifications that differ in the order of their steps. -/
structure Spec.Reordering (spec spec' : Spec) : Prop where
  name : spec.name = spec'.name
  steps : Option.Rel List.Perm spec.steps spec'.steps

namespace Spec.Reordering

variable (h : spec.Reordering spec')

include h

theorem perm : spec.stepList.Perm spec'.stepList := by
  have hsteps := h.steps
  unfold stepList
  revert hsteps
  -- both specifications have a list of steps, or neither has
  cases spec.steps <;> cases spec'.steps <;> intro hsteps <;> cases hsteps
  · exact .refl _
  · assumption

theorem symm : spec'.Reordering spec where
  name := h.name.symm
  steps := by
    have hsteps := h.steps
    revert hsteps
    cases spec.steps <;> cases spec'.steps <;> intro hsteps <;> cases hsteps
    · exact .none
    · rename_i hperm
      exact .some hperm.symm

theorem has_eq : spec.Has = spec'.Has := by
  funext k a
  simp only [Has, h.perm.mem_iff]

theorem connects_eq : spec.Connects = spec'.Connects := by
  funext a b
  simp only [Connects, h.perm.mem_iff]

theorem steps_ne_none (hne : spec.steps ≠ none) : spec'.steps ≠ none := by
  have hsteps := h.steps
  intro hnone
  rw [hnone] at hsteps
  generalize hs : spec.steps = steps at hsteps
  cases hsteps
  exact hne hs

theorem declared (hdeclared : spec.Declared) : spec'.Declared where
  name := h.name ▸ hdeclared.name
  steps := h.steps_ne_none hdeclared.steps
  complete s hs := hdeclared.complete s (h.perm.mem_iff.mpr hs)
  distinct := (h.perm.map Step.name).nodup_iff.mp hdeclared.distinct

theorem legal (hlegal : spec.Legal) : spec'.Legal := by
  unfold Legal at hlegal ⊢
  rwa [h.has_eq, h.connects_eq] at hlegal

theorem acyclic (hacyclic : spec.Acyclic) : spec'.Acyclic := by
  unfold Acyclic at hacyclic ⊢
  rwa [h.connects_eq] at hacyclic

theorem singleInput (hsingle : spec.SingleInput) : spec'.SingleInput := by
  unfold SingleInput at hsingle ⊢
  intro s hs s' hs' b hb
  rw [← h.has_eq] at hb
  exact hsingle s (h.perm.mem_iff.mpr hs) s' (h.perm.mem_iff.mpr hs') b hb

theorem supplied (hsupplied : spec.Supplied config) : spec'.Supplied config := by
  obtain ⟨hprocessor, hsource, hsink⟩ := hsupplied
  rw [h.has_eq, h.connects_eq] at hprocessor
  rw [h.has_eq] at hsource hsink
  exact ⟨hprocessor, hsource, hsink⟩

theorem writable (hwritable : spec.Writable config) : spec'.Writable config := by
  intro a
  obtain ⟨hown, hstream⟩ := hwritable a
  rw [h.has_eq] at hown hstream
  rw [h.connects_eq] at hstream
  exact ⟨hown, hstream⟩

theorem named (hnamed : spec.Named) : spec'.Named :=
  fun s hs => hnamed s (h.perm.mem_iff.mpr hs)

theorem holds {r : Requirement} (hr : r.Holds spec config) : r.Holds spec' config := by
  cases r with
  | declared => exact h.declared hr
  | connected => exact h.legal hr
  | acyclic => exact h.acyclic hr
  | singleInput => exact h.singleInput hr
  | namespaced =>
    have hns : spec.Namespaced config := hr
    unfold Namespaced at hns
    rw [h.name] at hns
    exact hns
  | supplied => exact h.supplied hr
  | traced => exact hr
  | encodable =>
    have hname : ∃ name : String, spec.name = some (.whole name) := hr
    rw [h.name] at hname
    exact hname

/-- Specifications that differ in the order of their steps meet the same requirements. -/
theorem holds_iff {r : Requirement} : r.Holds spec config ↔ r.Holds spec' config :=
  ⟨h.holds, h.symm.holds⟩

theorem wires (hwires : spec.Wires s n) : spec'.Wires s n := by
  cases hwires with
  | source hd => exact .source hd
  | processor hd hinput =>
    rw [h.connects_eq] at hinput
    exact .processor hd hinput
  | sink hd => exact .sink hd

theorem block (hblock : spec.Block d s rs) : spec'.Block d s rs := by
  obtain ⟨n, hwires, hfiles⟩ := hblock
  rw [h.has_eq, h.connects_eq] at hfiles
  exact ⟨n, h.wires hwires, hfiles⟩

end Spec.Reordering

section Results

variable (h : spec.Reordering spec') (hc : Compilation spec config c)
  (hc' : Compilation spec' config c')

include h hc hc'

theorem Compilation.pipeline_eq : c.pipeline = c'.pipeline :=
  RawText.whole.inj (Option.some.inj (hc.name.symm.trans (h.name.trans hc'.name)))

theorem Compilation.order_perm : c.order.Perm c'.order := by
  obtain ⟨steps, -, hperm, hnames, -⟩ := hc.blocks
  obtain ⟨steps', -, hperm', hnames', -⟩ := hc'.blocks
  refine (List.map_perm_map_iff (Option.some_injective _)).mp ?_
  rw [← hnames, ← hnames']
  exact (hperm.trans (h.perm.trans hperm'.symm)).map Step.name

/-- The files of the nodes are the same, and the last file is that of tracing. -/
theorem Compilation.renderings_perm : ∃ nodes nodes' r, c.renderings = nodes ++ [r] ∧
    c'.renderings = nodes' ++ [r] ∧ nodes.Perm nodes' ∧
      r.manifest.kind? = some (.whole "Configuration") := by
  obtain ⟨steps, bs, hperm, -, hblocks, hrs⟩ := hc.blocks
  obtain ⟨steps', bs', hperm', -, hblocks', hrs'⟩ := hc'.blocks
  rw [← hc.pipeline_eq h hc'] at hblocks' hrs'
  -- a step has the same block in both specifications, and only one
  -- blocks belong to their steps, so they are reordered as the steps are
  have hunique : Relator.RightUnique fun s b =>
      s ∈ spec.stepList ∧ spec.Block (config.settled c.pipeline) s b :=
    fun _ _ _ hb hb' => hb.2.unique hc.declared hc.singleInput hb.1 hb'.2
  have hlisted : List.Forall₂ (fun s b =>
      s ∈ spec.stepList ∧ spec.Block (config.settled c.pipeline) s b) steps bs :=
    (List.forall₂_and_left _ _).mpr ⟨fun s hs => hperm.mem_iff.mp hs, hblocks⟩
  have hlisted' : List.Forall₂ (fun s b =>
      s ∈ spec.stepList ∧ spec.Block (config.settled c.pipeline) s b) steps' bs' :=
    (List.forall₂_and_left _ _).mpr ⟨fun s hs => h.perm.mem_iff.mpr (hperm'.mem_iff.mp hs),
      hblocks'.imp fun _ _ hb => h.symm.block hb⟩
  have hbs : bs.Perm bs' :=
    List.rel_perm_imp hunique hlisted hlisted' (hperm.trans (h.perm.trans hperm'.symm))
  exact ⟨bs.flatten, bs'.flatten, _, hrs, hrs', hbs.flatten, rfl⟩

end Results

/-- Declaring the same steps in another order changes neither whether a pipeline compiles nor which
files it compiles to; the last file is that of tracing in either case. -/
theorem compile_reordering (hspec : spec.Validated) (hconfig : config.Validated)
    (h : spec.Reordering spec') :
    ((∃ c', compile spec' config = .ok c') ↔ ∃ c, compile spec config = .ok c) ∧
      ∀ c c', compile spec config = .ok c → compile spec' config = .ok c' →
        c'.order.Perm c.order ∧ c'.artifacts.Perm c.artifacts ∧
          ∃ r, c.renderings.getLast? = some r ∧ c'.renderings.getLast? = some r ∧
            r.manifest.kind? = some (.whole "Configuration") := by
  have hnamed := hspec.named
  have hnamed' := h.named hnamed
  constructor
  · rw [compile_isOk_iff hnamed' hconfig, compile_isOk_iff hnamed hconfig]
    exact and_congr (forall_congr' fun r => h.symm.holds_iff) ⟨h.symm.writable, h.writable⟩
  · intro c c' hok hok'
    have hc := compilation_of_compile_eq_ok hconfig hok
    have hc' := compilation_of_compile_eq_ok hconfig hok'
    obtain ⟨nodes, nodes', r, hrs, hrs', hperm, hkind⟩ := hc.renderings_perm h hc'
    refine ⟨(hc.order_perm h hc').symm, ?_, r, ?_, ?_, hkind⟩
    · rw [Compiled.artifacts, Compiled.artifacts, hrs, hrs']
      exact (hperm.symm.append_right [r]).map Rendering.artifact
    · rw [hrs, List.getLast?_concat]
    · rw [hrs', List.getLast?_concat]

/-- The sample declared from its sink to its source compiles to the same files. -/
theorem compile_reordering_sample :
    Spec.sample.Reordering ⟨Spec.sample.name, Spec.sample.steps.map List.reverse⟩ ∧
      ∃ c c', compile Spec.sample Deployment.sample = .ok c ∧
        compile ⟨Spec.sample.name, Spec.sample.steps.map List.reverse⟩ Deployment.sample = .ok c' ∧
        c'.order.Perm c.order ∧ c'.artifacts.Perm c.artifacts := by
  have hreordering :
      Spec.sample.Reordering ⟨Spec.sample.name, Spec.sample.steps.map List.reverse⟩ :=
    ⟨rfl, .some (List.reverse_perm _).symm⟩
  obtain ⟨hiff, hsame⟩ :=
    compile_reordering Spec.validated_sample Deployment.validated_sample hreordering
  obtain ⟨c, hc⟩ := exists_compile_sample
  obtain ⟨c', hc'⟩ := hiff.mpr ⟨c, hc⟩
  obtain ⟨horder, hartifacts, -⟩ := hsame c c' hc hc'
  exact ⟨hreordering, c, c', hc, hc', horder, hartifacts⟩

end StreamMesh
