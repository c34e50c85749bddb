import Mathlib.Data.List.Basic
import StreamMesh.Text.Pieces

/-!
# The pieces of a text

## Main results

* `Text.mem_of_mem_pieces`, `Text.not_mem_of_mem_pieces` — the characters of pieces
* `Text.pieces_eq_splitOn` — pieces as those of a list
* `Text.flatMap_pieces` — pieces put together again
-/

namespace StreamMesh.Text

variable {sep c : Char} {cs piece : List Char}

theorem pieces_cons_self : pieces sep (sep :: cs) = [] :: pieces sep cs := by
  rw [pieces, if_pos rfl]

/-- A character that does not separate belongs to the first piece. -/
theorem exists_pieces_cons (h : c ≠ sep) (cs : List Char) : ∃ first rest,
    pieces sep cs = first :: rest ∧ pieces sep (c :: cs) = (c :: first) :: rest := by
  have hne : pieces sep cs ≠ [] := by
    cases cs with
    | nil => nofun
    | cons b cs =>
      unfold pieces
      split
      · nofun
      · unfold ontoFirst
        split <;> nofun
  obtain ⟨first, rest, hcs⟩ := List.exists_cons_of_ne_nil hne
  refine ⟨first, rest, hcs, ?_⟩
  rw [pieces, if_neg h, hcs, ontoFirst]

theorem mem_of_mem_pieces (hpiece : piece ∈ pieces sep cs) (hc : c ∈ piece) : c ∈ cs := by
  induction cs generalizing piece with
  | nil =>
    rw [List.mem_singleton.mp hpiece] at hc
    cases hc
  | cons b cs ih =>
    by_cases hb : b = sep
    · rw [hb, pieces_cons_self] at hpiece
      rcases List.mem_cons.mp hpiece with rfl | hpiece
      · cases hc
      · exact List.mem_cons_of_mem _ (ih hpiece hc)
    · obtain ⟨first, rest, hcs, hcons⟩ := exists_pieces_cons hb cs
      rw [hcons] at hpiece
      rcases List.mem_cons.mp hpiece with rfl | hpiece
      · rcases List.mem_cons.mp hc with rfl | hc
        · exact List.mem_cons_self ..
        · exact List.mem_cons_of_mem _ (ih (hcs ▸ List.mem_cons_self ..) hc)
      · exact List.mem_cons_of_mem _ (ih (hcs ▸ List.mem_cons_of_mem _ hpiece) hc)

theorem not_mem_of_mem_pieces (hpiece : piece ∈ pieces sep cs) : sep ∉ piece := by
  induction cs generalizing piece with
  | nil =>
    rw [List.mem_singleton.mp hpiece]
    exact List.not_mem_nil
  | cons b cs ih =>
    by_cases hb : b = sep
    · rw [hb, pieces_cons_self] at hpiece
      rcases List.mem_cons.mp hpiece with rfl | hpiece
      · exact List.not_mem_nil
      · exact ih hpiece
    · obtain ⟨first, rest, hcs, hcons⟩ := exists_pieces_cons hb cs
      rw [hcons] at hpiece
      rcases List.mem_cons.mp hpiece with rfl | hpiece
      · exact List.not_mem_cons_of_ne_of_not_mem (Ne.symm hb) (ih (hcs ▸ List.mem_cons_self ..))
      · exact ih (hcs ▸ List.mem_cons_of_mem _ hpiece)

theorem pieces_eq_splitOn (sep : Char) (cs : List Char) : pieces sep cs = cs.splitOn sep := by
  induction cs with
  | nil => simp [pieces]
  | cons c cs ih =>
    rw [List.splitOn, List.splitOnP_cons_eq_if_modifyHead, ← List.splitOn, ← ih]
    by_cases hc : c = sep
    · rw [hc, pieces_cons_self, if_pos (beq_self_eq_true sep)]
    · obtain ⟨first, rest, hcs, hcons⟩ := exists_pieces_cons hc cs
      rw [hcons, if_neg (by simpa using hc), hcs, List.modifyHead_cons]

/-- A text is its pieces with the separator behind each but the last. -/
theorem flatMap_pieces : (pieces sep cs).flatMap (· ++ [sep]) = cs ++ [sep] := by
  induction cs with
  | nil => rfl
  | cons c cs ih =>
    by_cases hc : c = sep
    · rw [hc, pieces_cons_self, List.flatMap_cons, ih]
      rfl
    · obtain ⟨first, rest, hcs, hcons⟩ := exists_pieces_cons hc cs
      rw [hcs, List.flatMap_cons] at ih
      rw [hcons, List.flatMap_cons, List.cons_append, List.cons_append, ih, List.cons_append]

end StreamMesh.Text
