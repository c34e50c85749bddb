import StreamMesh.Proofs.Files.Write

/-!
# Writing that breaks off

Artifacts are written one after the other, and nothing is taken back when one of them cannot be
written. So a run that breaks off leaves what the artifacts before that one leave: the files are
those from before only if these artifacts stood there already. The failing artifact itself can leave
directories, and its empty file if its text cannot be encoded.

## Main definitions

* `Artifact.emptied` — an artifact without its text
* `Tree.SameFiles` — two trees with the same files
* `Tree.Interrupted` — a run that breaks off at an artifact

## Main results

* `Tree.left_of_writeArtifact` — what an artifact leaves that cannot be written
* `Tree.exists_interrupted` — every run that fails breaks off at some artifact
* `Tree.Written.sameFiles_iff` — when writing leaves the files as they were
-/

namespace StreamMesh

/-- An artifact without its text. -/
def Artifact.emptied (a : Artifact) : Artifact := { a with content := .whole "" }

namespace Tree

variable {t t₁ t' t'' : Tree} {root p : Path} {x : List String} {a : Artifact} {as : List Artifact}
  {e : FileError} {s : String}

/-- Two trees have the same files with the same texts, whatever their directories are. -/
def SameFiles (t t' : Tree) : Prop := ∀ x s, t'.at? x = some (.file s) ↔ t.at? x = some (.file s)

namespace SameFiles

theorem refl (t : Tree) : t.SameFiles t := fun _ _ => Iff.rfl

theorem symm (h : t.SameFiles t') : t'.SameFiles t := fun x s => (h x s).symm

theorem trans (h : t.SameFiles t') (h' : t'.SameFiles t'') : t.SameFiles t'' :=
  fun x s => (h' x s).trans (h x s)

end SameFiles

theorem Grown.sameFiles (h : t.Grown t') : t.SameFiles t' := fun _ _ => h.file

/-- The directories of an artifact are not missing for what is said of a text. -/
theorem fault_ensureDirectory_ne {b : BrokenText} (h : t.ensureDirectory p = (t', some e)) :
    e.fault ≠ .unencodable b := by
  refine fault_ensureDirectory (P := fun fault => fault ≠ .unencodable b) nofun
    (fun t q fault _ hplace => ?_) h
  rintro rfl
  rcases fault_of_place hplace with ⟨hfault, -⟩ | hfault
  · cases hfault
  · simp at hfault

/-- What an artifact leaves that cannot be written. Its directories may be new, but they only add
entries that are no files, and so no file changes, unless its text cannot be encoded. Then its file
is opened before that shows, and it is left as if the text were empty. -/
theorem left_of_writeArtifact (h : t.writeArtifact root a = (t', some e)) :
    ((∀ b, e.fault ≠ .unencodable b) → t.Grown t') ∧
    ∀ b, e.fault = .unencodable b →
      a.content = .broken b ∧ t.writeArtifact root a.emptied = (t', none) := by
  unfold writeArtifact at h
  split at h
  · rename_i hensure
    cases h
    exact ⟨fun _ => grown_of_ensureDirectory hensure,
      fun b hb => absurd hb (fault_ensureDirectory_ne hensure)⟩
  · rename_i t₁ hensure
    have hgrown : t.Grown t₁ := grown_of_ensureDirectory hensure
    -- either no file was opened, or the text could not be encoded
    obtain ⟨hfault, rfl⟩ | ⟨x, b, hcontent, hplace, hdirectory, rfl, rfl⟩ :=
      writeText_eq_failed_iff.mp h
    · refine ⟨fun _ => hgrown, fun b hb => ?_⟩
      obtain ⟨fault, hplace, rfl⟩ | ⟨-, rfl⟩ := hfault
      · obtain rfl : fault = .unencodable b := hb
        rcases fault_of_place hplace with ⟨hfault, -⟩ | hfault
        · cases hfault
        · simp at hfault
      · cases hb
    · refine ⟨fun hne => absurd rfl (hne b), fun b' hb' => ?_⟩
      cases hb'
      refine ⟨hcontent, ?_⟩
      have hempty : t₁.writeText (a.path root) (.whole "") = (t₁.put x (.file ""), none) :=
        writeText_eq_done_iff.mpr ⟨x, "", rfl, hplace, hdirectory, rfl⟩
      rw [writeArtifact, show a.emptied.directory root = a.directory root from rfl, hensure]
      exact hempty

/-- A run over some artifacts breaks off at one of them, after those before it have been written to
a tree `t₁`. -/
structure Interrupted (t t' : Tree) (root : Path) (e : FileError) (before : List Artifact)
    (a : Artifact) (t₁ : Tree) : Prop where
  before : t.writeArtifacts root before = (t₁, none)
  fails : t₁.writeArtifact root a = (t', some e)

/-- Every run that fails breaks off at some artifact. -/
theorem exists_interrupted (h : t.writeArtifacts root as = (t', some e)) :
    ∃ before a after t₁, as = before ++ a :: after ∧ Interrupted t t' root e before a t₁ := by
  induction as generalizing t with
  | nil => cases h
  | cons a as ih =>
    unfold writeArtifacts at h
    split at h
    · rename_i t₂ hwrite
      obtain ⟨before, b, after, t₁, rfl, hbefore, hfails⟩ := ih h
      refine ⟨a :: before, b, after, t₁, rfl, ?_, hfails⟩
      rw [writeArtifacts, hwrite]
      exact hbefore
    · rename_i hwrite
      cases h
      exact ⟨[], a, as, t, rfl, rfl, hwrite⟩

/-- Writing leaves the files as they were exactly if all artifacts stood there already. -/
theorem Written.sameFiles_iff (h : Written root as t t') :
    t.SameFiles t' ↔ ∀ x b, t'.LastAt root as x b → t.HoldsAt x b.content := by
  constructor
  · intro hsame x b hb
    obtain ⟨s, hs, hfile⟩ := h.holdsAt hb
    exact ⟨s, hs, (hsame x s).mp hfile⟩
  · intro hstood x s
    rw [h.file]
    constructor
    · rintro (⟨b, hb, hs⟩ | ⟨-, hs⟩)
      · obtain ⟨s', hs', hfile⟩ := hstood x b hb
        cases hs.symm.trans hs'
        exact hfile
      · exact hs
    · intro hs
      -- where an artifact goes, the last one has just the text that stood there
      by_cases hgoes : ∃ b ∈ as, t'.place (b.path root) = .ok x
      · obtain ⟨b, hb⟩ := exists_lastAt hgoes
        obtain ⟨s', hs', hfile⟩ := hstood x b hb
        cases hs.symm.trans hfile
        exact .inl ⟨b, hb, hs'⟩
      · exact .inr ⟨fun b hb hx => hgoes ⟨b, hb, hx⟩, hs⟩

namespace Interrupted

variable {before : List Artifact} (h : Interrupted t t' root e before a t₁)

include h

theorem written : Written root before t t₁ := written_of_writeArtifacts h.before

/-- The files that are left are those of the artifacts before the failing one. -/
theorem sameFiles (he : ∀ b, e.fault ≠ .unencodable b) : t₁.SameFiles t' :=
  ((left_of_writeArtifact h.fails).1 he).sameFiles

/-- The files are left as they were exactly if the artifacts before the failing one stood there. -/
theorem sameFiles_iff (he : ∀ b, e.fault ≠ .unencodable b) :
    t.SameFiles t' ↔ ∀ x b, t₁.LastAt root before x b → t.HoldsAt x b.content := by
  rw [← h.written.sameFiles_iff]
  exact ⟨fun hsame => hsame.trans (h.sameFiles he).symm, fun hsame => hsame.trans (h.sameFiles he)⟩

/-- Where the text of the failing artifact cannot be encoded, its file is left empty. -/
theorem writeArtifacts_emptied {b : BrokenText} (he : e.fault = .unencodable b) :
    t.writeArtifacts root (before ++ [a.emptied]) = (t', none) := by
  rw [writeArtifacts_append, h.before]
  simp only [writeArtifacts, ((left_of_writeArtifact h.fails).2 b he).2]

theorem written_emptied {b : BrokenText} (he : e.fault = .unencodable b) :
    Written root (before ++ [a.emptied]) t t' :=
  written_of_writeArtifacts (h.writeArtifacts_emptied he)

end Interrupted

end Tree

end StreamMesh
