import StreamMesh.Proofs.Artifact
import StreamMesh.Proofs.Files.PathText
import StreamMesh.Proofs.Files.Write

/-!
# Null characters in paths

The system does not take a path with a null character. No other path fails for this reason, neither
itself nor when the directories above it are made.

## Main definitions

* `Path.NullFree` — paths whose names hold no null character

## Main results

* `Path.nullFree_ofText` — the path of a text without null characters
* `Tree.exists_holdsNull_of_writeArtifacts` — below such a path, only a file name can be at fault
-/

namespace StreamMesh

variable {s s' : String} {p : Path} {names : List String} {t t' : Tree}

namespace Tree

theorem holdsNull_eq_false_iff : holdsNull s = false ↔ Char.ofNat 0 ∉ s.toList := by
  rw [holdsNull, ← Bool.not_eq_true, List.contains_iff_mem]

theorem holdsNull_append : holdsNull (s ++ s') = (holdsNull s || holdsNull s') := by
  rw [holdsNull, String.toList_append, List.contains_append]
  rfl

end Tree

namespace Path

/-- A path whose names hold no null character. -/
def NullFree (p : Path) : Prop := ∀ name ∈ p.names, Tree.holdsNull name = false

theorem nullFree_ofText (h : Tree.holdsNull s = false) : (ofText s).NullFree := by
  intro name hname
  obtain ⟨piece, hpiece, rfl⟩ := List.mem_map.mp (List.mem_filter.mp hname).1
  rw [Tree.holdsNull_eq_false_iff, String.toList_ofList]
  exact fun hc => Tree.holdsNull_eq_false_iff.mp h (Text.mem_of_mem_pieces hpiece hc)

theorem NullFree.child (h : p.NullFree) (hs : Tree.holdsNull s = false) : (p.child s).NullFree := by
  intro name hname
  rcases List.mem_append.mp hname with hname | hname
  · exact h name hname
  · rw [List.mem_singleton.mp (List.mem_filter.mp hname).1]
    exact hs

theorem holdsNull_intercalate (h : ∀ name ∈ names, Tree.holdsNull name = false) :
    Tree.holdsNull (String.intercalate "/" names) = false := by
  induction names with
  | nil => rfl
  | cons name names ih =>
    rw [List.forall_mem_cons] at h
    cases names with
    | nil =>
      rw [String.intercalate_singleton]
      exact h.1
    | cons next rest =>
      rw [String.intercalate_cons_cons, Tree.holdsNull_append, Tree.holdsNull_append, h.1, ih h.2]
      rfl

theorem NullFree.text (h : p.NullFree) : Tree.holdsNull p.text = false := by
  unfold Path.text
  split
  · decide
  · rw [Tree.holdsNull_append, holdsNull_intercalate h, Bool.or_false,
      Tree.holdsNull_eq_false_iff, String.toList_ofList]
    exact fun hc => absurd (List.eq_of_mem_replicate hc) (by decide)

end Path

namespace Tree

variable {f : FileError} {root : Path} {a : Artifact} {as : List Artifact}

theorem place_ne_nullCharacter (h : p.NullFree) : t.place p ≠ .error .nullCharacter := by
  intro hplace
  rcases fault_of_place hplace with ⟨-, hnull⟩ | hfault
  · rw [h.text] at hnull
    cases hnull
  · simp at hfault

theorem fault_writeText {text : RawText} (h : p.NullFree)
    (hfail : t.writeText p text = (t', some f)) : f.fault ≠ .nullCharacter := by
  obtain ⟨⟨fault, hplace, rfl⟩ | ⟨-, rfl⟩, -⟩ | ⟨_, b, -, -, -, rfl, -⟩ :=
    writeText_eq_failed_iff.mp hfail
  · rintro rfl
    exact place_ne_nullCharacter h hplace
  · nofun
  · nofun

/-- Below a path without null characters, writing meets one only in the name of a file. -/
theorem exists_holdsNull_of_writeArtifacts (hroot : root.NullFree)
    (hfail : t.writeArtifacts root as = (t', some f)) (hfault : f.fault = .nullCharacter) :
    ∃ a ∈ as, holdsNull a.fileName = true := by
  have hdirectory : ∀ a : Artifact, (a.directory root).NullFree := fun a =>
    hroot.child (by cases a.category <;> decide)
  induction as generalizing t with
  | nil => cases hfail
  | cons a as ih =>
    -- either a later artifact fails, or this one does: for its directory, or for its file
    unfold writeArtifacts at hfail
    split at hfail
    · obtain ⟨b, hb, hname⟩ := ih hfail
      exact ⟨b, .tail _ hb, hname⟩
    · rename_i hwrite
      cases hfail
      refine ⟨a, .head _, ?_⟩
      unfold writeArtifact at hwrite
      split at hwrite
      · rename_i hensure
        cases hwrite
        refine absurd hfault (fault_ensureDirectory (P := fun fault => fault ≠ .nullCharacter) nofun
          (fun t q fault hnames hplace => ?_) hensure)
        rintro rfl
        exact place_ne_nullCharacter (fun n hn => hdirectory a n (hnames n hn)) hplace
      · cases hname : holdsNull a.fileName with
        | true => rfl
        | false => exact absurd hfault (fault_writeText ((hdirectory a).child hname) hwrite)

end Tree

end StreamMesh
