import StreamMesh.Artifact
import StreamMesh.Files.Path

/-!
# Paths of artifacts

## Main definitions

* `Artifact.Plain` — artifacts whose file names lead below their directory

## Main results

* `Category.text_append_inj` — a path tells the directory and the file
* `Artifact.plain_of_yaml` — file names with an ending are plain
-/

namespace StreamMesh

namespace Category

theorem counts_text (k : Category) : Path.counts k.text = true := by
  cases k <;> decide

theorem text_ne_up (k : Category) : k.text ≠ ".." := by
  cases k <;> decide

/-- A directory and a file in it are told from the path of the file. -/
theorem text_append_inj {k k' : Category} {x x' : String}
    (h : k.text ++ "/" ++ x = k'.text ++ "/" ++ x') : k = k' ∧ x = x' := by
  cases k <;> cases k' <;> simp [text, ← String.toList_inj] at h ⊢ <;> exact h

end Category

namespace Artifact

variable {a : Artifact} {stem : String}

/-- An artifact whose file name leads below its directory. -/
structure Plain (a : Artifact) : Prop where
  counts : Path.counts a.fileName = true
  up : a.fileName ≠ ".."

theorem Plain.ne_dot (h : a.Plain) : a.fileName ≠ "." := by
  intro hdot
  have hcounts := h.counts
  rw [hdot] at hcounts
  exact absurd hcounts (by decide)

theorem Plain.relativePath_eq (h : a.Plain) :
    a.relativePath = a.category.text ++ "/" ++ a.fileName := by
  rw [relativePath, if_neg h.ne_dot]

/-- No file name with an ending is empty or made of dots. -/
theorem plain_of_yaml (h : a.fileName = stem ++ ".yaml") : a.Plain := by
  have hlast : ∀ {s : String}, a.fileName = s → s.toList.getLast? = some 'l' := by
    intro s hs
    rw [← hs, h]
    simp
  constructor
  · simp only [Path.counts, Bool.and_eq_true, bne_iff_ne]
    refine ⟨fun hs => ?_, fun hs => ?_⟩
    · exact absurd (hlast hs) (by decide)
    · exact absurd (hlast hs) (by decide)
  · intro hs
    exact absurd (hlast hs) (by decide)

end Artifact

end StreamMesh
