import Mathlib.Data.List.Basic
import StreamMesh.Artifact
import StreamMesh.Label
import StreamMesh.Proofs.Text.Pattern

/-!
# Labels as parts of file names

Names of steps and namespaces are made of letters, digits and hyphens, up to a line feed at the end
of a step's name. So they can be put together to names of files without ever leading out of a
directory.

## Main definitions

* `FileSafe` — texts that hold no separator of paths
* `Label.Spelled` — texts of characters that labels are made of

## Main results

* `Label.spelled_of_isNamespace`, `Label.spelled_of_isStepName` — the characters of labels
* `Label.Spelled.fileSafe` — these are no separators
* `Artifact.fileNameDefect?_eq` — what keeps a text from being the name of a file
-/

namespace StreamMesh

/-- A text that holds no separator of paths. -/
def FileSafe (s : String) : Prop := '/' ∉ s.toList ∧ '\\' ∉ s.toList

instance (s : String) : Decidable (FileSafe s) := inferInstanceAs (Decidable (_ ∧ _))

section FileSafe

variable {a b : String}

@[simp] theorem fileSafe_append_iff : FileSafe (a ++ b) ↔ FileSafe a ∧ FileSafe b := by
  simp only [FileSafe, String.toList_append, List.mem_append, not_or]
  exact and_and_and_comm

theorem any_separator_iff :
    (a.toList.any fun c => c == '/' || c == '\\') = true ↔ ¬ FileSafe a := by
  rw [List.any_eq_true, FileSafe, not_and_or, not_not, not_not]
  constructor
  · rintro ⟨c, hc, hsep⟩
    rcases Bool.or_eq_true_iff.mp hsep with hsep | hsep
    · exact .inl (eq_of_beq hsep ▸ hc)
    · exact .inr (eq_of_beq hsep ▸ hc)
  · rintro (hc | hc)
    · exact ⟨_, hc, rfl⟩
    · exact ⟨_, hc, rfl⟩

/-- A text that is not empty can only be no name of a file for a separator. -/
theorem Artifact.fileNameDefect?_eq (h : a ≠ "") : Artifact.fileNameDefect? a =
    if FileSafe a then none else some (.mismatch "^[^/\\\\]+$") := by
  unfold Artifact.fileNameDefect?
  rw [if_neg fun hempty => h (String.isEmpty_iff.mp hempty)]
  by_cases hsafe : FileSafe a
  · rw [if_pos hsafe, if_neg fun hany => any_separator_iff.mp hany hsafe]
  · rw [if_neg hsafe, if_pos (any_separator_iff.mpr hsafe)]

/-- With its ending, every name is one of a file if it holds no separator. -/
theorem Artifact.fileNameDefect?_yaml : Artifact.fileNameDefect? (a ++ ".yaml") =
    if FileSafe a then none else some (.mismatch "^[^/\\\\]+$") := by
  have hext : FileSafe ".yaml" := by decide
  have hne : a ++ ".yaml" ≠ "" := fun h => by
    have := congrArg String.length h
    simp at this
  rw [fileNameDefect?_eq hne]
  simp only [fileSafe_append_iff, hext, and_true]

end FileSafe

namespace Label

open Text (Pattern)

variable {a b : String} {c : Char}

/-- A character of labels, or the line feed that a step's name may end in. -/
def IsPart (c : Char) : Prop := ('a' ≤ c ∧ c ≤ 'z') ∨ ('0' ≤ c ∧ c ≤ '9') ∨ c = '-' ∨ c = '\n'

instance (c : Char) : Decidable (IsPart c) := inferInstanceAs (Decidable (_ ∨ _))

/-- A text of such characters. -/
def Spelled (a : String) : Prop := ∀ c ∈ a.toList, IsPart c

-- Looking at the characters of the text is enough, there are far too many others.
instance (a : String) : Decidable (Spelled a) :=
  decidable_of_iff (a.toList.all fun c => decide (IsPart c)) (by simp [Spelled])

@[simp] theorem spelled_append_iff : Spelled (a ++ b) ↔ Spelled a ∧ Spelled b := by
  simp only [Spelled, String.toList_append, List.forall_mem_append]

/-- A separator of paths is no such character. -/
theorem Spelled.fileSafe (h : Spelled a) : FileSafe a :=
  ⟨fun hc => absurd (h _ hc) (by decide), fun hc => absurd (h _ hc) (by decide)⟩

theorem over_pattern : pattern.Over IsPart := by
  have halphanumeric : alphanumeric.Over IsPart := by
    refine ⟨fun c hc => .inl ?_, fun c hc => .inr (.inl ?_)⟩
    · simpa using hc
    · simpa using hc
  have hhyphen : (Pattern.char '-').Over IsPart := fun c hc => .inr (.inr (.inl (eq_of_beq hc)))
  exact ⟨halphanumeric, ⟨⟨hhyphen, halphanumeric⟩, halphanumeric⟩, trivial⟩

theorem spelled_of_isNamespace (h : isNamespace a = true) : Spelled a :=
  over_pattern.of_matches (Pattern.accepts_iff.mp h)

theorem spelled_of_isStepName (h : isStepName a = true) : Spelled a := by
  have hline : pattern.acceptsLine a.toList = true := (Bool.and_eq_true_iff.mp h).2
  rcases Bool.or_eq_true_iff.mp hline with h | h
  · exact spelled_of_isNamespace h
  · obtain ⟨hlast, hinit⟩ := Bool.and_eq_true_iff.mp h
    have hsplit : a.toList = a.toList.dropLast ++ ['\n'] := by
      have hsome : a.toList.getLast? = some '\n' := eq_of_beq hlast
      exact (List.dropLast_append_getLast? _ hsome).symm
    intro c hc
    rw [hsplit] at hc
    rcases List.mem_append.mp hc with hc | hc
    · exact over_pattern.of_matches (Pattern.accepts_iff.mp hinit) c hc
    · rw [List.mem_singleton.mp hc]
      decide

end Label

end StreamMesh
