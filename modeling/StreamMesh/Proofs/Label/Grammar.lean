import StreamMesh.Proofs.Label
import StreamMesh.Spec

/-!
# The grammar of labels

A label in the sense of RFC 1123 has 1 to 63 characters, which are lower-case letters, digits and
hyphens, with a letter or a digit at both ends. The pattern for names says all of this but the
length. Names of namespaces are held against the pattern alone, so they can be longer. Names of
steps are measured as well, but a line feed at their end is passed over.

## Main definitions

* `Label.Hyphenated` — what the pattern asks for: a label of any length
* `Label.IsDnsLabel` — a label
* `Step.Nameable` — the texts that a step takes for its name

## Main results

* `Label.isNamespace_iff` — the names of namespaces
* `Label.isStepName_iff`, `Step.nameDefect?_eq_none_iff` — the names of steps
-/

namespace StreamMesh

namespace Label

open Text (Pattern)
open Text.Pattern

variable {c : Char} {cs : List Char} {s t : String}

/-- A lower-case letter or a digit. -/
def IsAlphanumeric (c : Char) : Prop := ('a' ≤ c ∧ c ≤ 'z') ∨ ('0' ≤ c ∧ c ≤ '9')

instance (c : Char) : Decidable (IsAlphanumeric c) := inferInstanceAs (Decidable (_ ∨ _))

/-- Letters, digits and hyphens, with a letter or a digit at both ends. -/
structure Hyphenated (s : String) : Prop where
  chars : ∀ c ∈ s.toList, IsAlphanumeric c ∨ c = '-'
  first : ∃ c, s.toList.head? = some c ∧ IsAlphanumeric c
  last : ∃ c, s.toList.getLast? = some c ∧ IsAlphanumeric c

/-- A label in the sense of RFC 1123. -/
structure IsDnsLabel (s : String) : Prop extends Hyphenated s where
  length_pos : 1 ≤ s.length
  length_le : s.length ≤ 63

theorem Hyphenated.length_pos (h : Hyphenated s) : 1 ≤ s.length := by
  obtain ⟨c, hc, -⟩ := h.first
  obtain ⟨rest, hrest⟩ := List.head?_eq_some_iff.mp hc
  rw [← String.length_toList, hrest]
  exact Nat.succ_pos _

/-- The length is all that the pattern leaves open. -/
theorem isDnsLabel_iff : IsDnsLabel s ↔ Hyphenated s ∧ s.length ≤ 63 :=
  ⟨fun h => ⟨h.toHyphenated, h.length_le⟩, fun ⟨h, hle⟩ => ⟨h, h.length_pos, hle⟩⟩

section Pattern

theorem matches_alphanumeric_iff :
    Matches alphanumeric cs ↔ ∃ c, IsAlphanumeric c ∧ cs = [c] := by
  unfold alphanumeric between digit between
  simp only [matches_alt_iff, matches_one_iff, Bool.and_eq_true, decide_eq_true_eq]
  constructor
  · rintro (⟨c, hc, rfl⟩ | ⟨c, hc, rfl⟩)
    · exact ⟨c, .inl hc, rfl⟩
    · exact ⟨c, .inr hc, rfl⟩
  · rintro ⟨c, hc | hc, rfl⟩
    · exact .inl ⟨c, hc, rfl⟩
    · exact .inr ⟨c, hc, rfl⟩

/-- What may stand between the ends. -/
theorem matches_inside_iff : Matches (many (alt (char '-') alphanumeric)) cs ↔
    ∀ c ∈ cs, IsAlphanumeric c ∨ c = '-' := by
  constructor
  · intro h
    refine Over.of_matches h ⟨fun c hc => .inr (eq_of_beq hc), fun c hc => ?_, fun c hc => ?_⟩
    · exact .inl (.inl (by simpa using hc))
    · exact .inl (.inr (by simpa using hc))
  · intro h
    refine matches_many fun c hc => ?_
    rcases h c hc with hc | rfl
    · exact .right (matches_alphanumeric_iff.mpr ⟨c, hc, rfl⟩)
    · exact .left (.one rfl)

/-- The pattern asks for one character, or for two ends and what stands between them. -/
theorem matches_pattern_iff : Matches pattern cs ↔
    (∀ c ∈ cs, IsAlphanumeric c ∨ c = '-') ∧ (∃ c, cs.head? = some c ∧ IsAlphanumeric c) ∧
      ∃ c, cs.getLast? = some c ∧ IsAlphanumeric c := by
  constructor
  · intro h
    obtain ⟨a, b, rfl, ha, hb⟩ := matches_seq_iff.mp h
    obtain ⟨c, hc, rfl⟩ := matches_alphanumeric_iff.mp ha
    rcases matches_alt_iff.mp hb with hb | hb
    · obtain ⟨inside, e, rfl, hinside, he⟩ := matches_seq_iff.mp hb
      obtain ⟨d, hd, rfl⟩ := matches_alphanumeric_iff.mp he
      have hlast : ([c] ++ (inside ++ [d])).getLast? = some d := by
        rw [← List.append_assoc, List.getLast?_concat]
      refine ⟨?_, ⟨c, rfl, hc⟩, d, hlast, hd⟩
      simp only [List.singleton_append, List.forall_mem_cons, List.forall_mem_append]
      exact ⟨.inl hc, matches_inside_iff.mp hinside, .inl hd, nofun⟩
    · obtain rfl := matches_blank_iff.mp hb
      exact ⟨fun x hx => .inl (List.mem_singleton.mp hx ▸ hc), ⟨c, rfl, hc⟩, c, rfl, hc⟩
  · rintro ⟨hall, ⟨c, hfirst, hc⟩, d, hlast, hd⟩
    obtain ⟨rest, rfl⟩ := List.head?_eq_some_iff.mp hfirst
    refine .seq (s := [c]) (matches_alphanumeric_iff.mpr ⟨c, hc, rfl⟩) ?_
    rcases List.eq_nil_or_concat rest with rfl | ⟨inside, e, rfl⟩
    · exact .right .blank
    · rw [List.concat_eq_append] at hall hlast ⊢
      -- the last character of the rest is the last of all
      obtain rfl : e = d := by
        rw [← List.cons_append, List.getLast?_concat] at hlast
        exact Option.some.inj hlast
      rw [List.forall_mem_cons, List.forall_mem_append] at hall
      exact .left (.seq (matches_inside_iff.mpr hall.2.1)
        (matches_alphanumeric_iff.mpr ⟨e, hd, rfl⟩))

end Pattern

/-- A namespace is named by a label of any length. -/
theorem isNamespace_iff : isNamespace s = true ↔ Hyphenated s := by
  rw [isNamespace, accepts_iff, matches_pattern_iff]
  exact ⟨fun ⟨hall, hfirst, hlast⟩ => ⟨hall, hfirst, hlast⟩, fun h => ⟨h.chars, h.first, h.last⟩⟩

instance (s : String) : Decidable (Hyphenated s) := decidable_of_iff _ isNamespace_iff

instance (s : String) : Decidable (IsDnsLabel s) := decidable_of_iff _ isDnsLabel_iff.symm

theorem not_hyphenated_append_newline : ¬ Hyphenated (t ++ "\n") := by
  intro h
  refine absurd (h.chars '\n' ?_) (by decide)
  rw [String.toList_append]
  exact List.mem_append_right _ (List.mem_singleton_self _)

/-- A text that ends in a line feed, split there. -/
theorem exists_line_iff {P : List Char → Prop} :
    (s.toList.getLast? = some '\n' ∧ P s.toList.dropLast) ↔ ∃ t : String, s = t ++ "\n" ∧
      P t.toList := by
  constructor
  · rintro ⟨hlast, hp⟩
    refine ⟨String.ofList s.toList.dropLast, ?_, by rwa [String.toList_ofList]⟩
    apply String.toList_injective
    rw [String.toList_append, String.toList_ofList]
    exact (List.dropLast_append_getLast? _ hlast).symm
  · rintro ⟨t, rfl, hp⟩
    have hsame : (t.toList ++ "\n".toList).dropLast = t.toList := List.dropLast_concat
    rw [String.toList_append, hsame]
    exact ⟨List.getLast?_concat .., hp⟩

/-- A step is named by a label, or by a shorter one and a line feed. -/
theorem isStepName_iff : isStepName s = true ↔
    IsDnsLabel s ∨ ∃ t, s = t ++ "\n" ∧ IsDnsLabel t ∧ t.length < 63 := by
  have hline : (s.toList.getLast? == some '\n' && pattern.accepts s.toList.dropLast) = true ↔
      ∃ t : String, s = t ++ "\n" ∧ Hyphenated t := by
    rw [Bool.and_eq_true, beq_iff_eq, exists_line_iff (P := fun cs => pattern.accepts cs = true)]
    simp only [← isNamespace_iff, isNamespace]
  have hself : pattern.accepts s.toList = true ↔ Hyphenated s := isNamespace_iff
  rw [isStepName, acceptsLine, Bool.and_eq_true, Bool.or_eq_true, decide_eq_true_eq, hself, hline,
    and_or_left, isDnsLabel_iff, and_comm]
  refine or_congr_right ⟨?_, ?_⟩
  · rintro ⟨hle, t, rfl, ht⟩
    have hlength : t.length + 1 ≤ 63 := by rwa [String.length_append] at hle
    exact ⟨t, rfl, isDnsLabel_iff.mpr ⟨ht, Nat.le_of_succ_le hlength⟩, hlength⟩
  · rintro ⟨t, rfl, ht, hlength⟩
    refine ⟨?_, t, rfl, ht.toHyphenated⟩
    rw [String.length_append]
    exact hlength

end Label

open Label

/-- The texts that a step takes for its name: nothing, which is left to the reading of the steps, a
label, or a label with a line feed behind it. -/
inductive Step.Nameable : String → Prop
  | empty : Nameable ""
  | label {name : String} (h : IsDnsLabel name) : Nameable name
  | line {name : String} (h : IsDnsLabel name) (hlength : name.length < 63) :
      Nameable (name ++ "\n")

theorem Step.nameable_iff {name : String} : Step.Nameable name ↔ name = "" ∨ IsDnsLabel name ∨
    ∃ t, name = t ++ "\n" ∧ IsDnsLabel t ∧ t.length < 63 := by
  constructor
  · intro h
    cases h with
    | empty => exact .inl rfl
    | label h => exact .inr (.inl h)
    | line h hlength => exact .inr (.inr ⟨_, rfl, h, hlength⟩)
  · rintro (rfl | h | ⟨t, rfl, h, hlength⟩)
    · exact .empty
    · exact .label h
    · exact .line h hlength

theorem Step.nameDefect?_eq_none_iff {name : String} :
    Step.nameDefect? name = none ↔ Step.Nameable name := by
  rw [Step.nameable_iff, ← isStepName_iff, ← String.isEmpty_iff, ← Bool.or_eq_true,
    Step.nameDefect?]
  split <;> simp [*]

end StreamMesh
