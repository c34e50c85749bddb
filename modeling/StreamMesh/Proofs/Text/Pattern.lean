import StreamMesh.Text.Pattern

/-!
# Texts of patterns

What can be said of the texts of a pattern from the parts that it is built from.

## Main definitions

* `Pattern.Over` — patterns over the characters of a set

## Main results

* `Pattern.Over.of_matches` — the characters of a text that matches
* `Pattern.mem_of_matches_inOrder` — a character that every text of a sequence holds
* `Pattern.matches_many` — the texts of a repetition of single characters
-/

namespace StreamMesh.Text.Pattern

variable {allowed : Char → Prop} {c : Char} {cs : List Char} {p : Pattern} {ps : List Pattern}

/-- A pattern whose characters are all of a set. -/
def Over (allowed : Char → Prop) : Pattern → Prop
  | never => True
  | blank => True
  | one set => ∀ c, set c = true → allowed c
  | seq p q => p.Over allowed ∧ q.Over allowed
  | alt p q => p.Over allowed ∧ q.Over allowed
  | many p => p.Over allowed

theorem Over.of_matches (h : Matches p cs) (hp : p.Over allowed) : ∀ c ∈ cs, allowed c := by
  induction h with
  | blank => nofun
  | one h =>
    intro c hc
    rw [List.mem_singleton.mp hc]
    exact hp _ h
  | seq _ _ ihp ihq =>
    intro c hc
    rcases List.mem_append.mp hc with hc | hc
    · exact ihp hp.1 c hc
    · exact ihq hp.2 c hc
  | left _ ih => exact ih hp.1
  | right _ ih => exact ih hp.2
  | done => nofun
  | more _ _ ihp ihq =>
    intro c hc
    rcases List.mem_append.mp hc with hc | hc
    · exact ihp hp c hc
    · exact ihq hp c hc

/-- A character that a sequence asks for is in every text of the sequence. -/
theorem mem_of_matches_inOrder (h : Matches (inOrder ps) cs) (hc : char c ∈ ps) : c ∈ cs := by
  induction ps generalizing cs with
  | nil => exact absurd hc List.not_mem_nil
  | cons q ps ih =>
    obtain ⟨a, b, rfl, ha, hb⟩ := matches_seq_iff.mp h
    rcases List.mem_cons.mp hc with rfl | hc
    · obtain ⟨d, hd, rfl⟩ := matches_one_iff.mp ha
      obtain rfl : d = c := beq_iff_eq.mp hd
      exact List.mem_append_left _ (List.mem_singleton.mpr rfl)
    · exact List.mem_append_right _ (ih hb hc)

theorem exists_of_matches_oneOf (h : Matches (oneOf ps) cs) : ∃ p ∈ ps, Matches p cs := by
  induction ps with
  | nil => exact absurd h not_matches_never
  | cons q ps ih =>
    rcases matches_alt_iff.mp h with h | h
    · exact ⟨q, List.mem_cons_self .., h⟩
    · obtain ⟨p, hp, hcs⟩ := ih h
      exact ⟨p, List.mem_cons_of_mem _ hp, hcs⟩

theorem matches_oneOf (hp : p ∈ ps) (h : Matches p cs) : Matches (oneOf ps) cs := by
  induction ps with
  | nil => exact absurd hp List.not_mem_nil
  | cons q ps ih =>
    rcases List.mem_cons.mp hp with rfl | hp
    · exact .left h
    · exact .right (ih hp)

/-- A repetition of single characters takes every text of such characters. -/
theorem matches_many (h : ∀ c ∈ cs, Matches p [c]) : Matches (many p) cs := by
  induction cs with
  | nil => exact .done
  | cons c cs ih =>
    rw [List.forall_mem_cons] at h
    exact .more h.1 (ih h.2)

theorem accepts_never : never.accepts cs = false := by
  induction cs with
  | nil => rfl
  | cons c cs ih => exact ih

/-- Without a line feed at the end, no line feed is passed over. -/
theorem acceptsLine_eq_accepts (h : cs.getLast? ≠ some '\n') : p.acceptsLine cs = p.accepts cs := by
  simp [acceptsLine, h]

end StreamMesh.Text.Pattern
