import Mathlib.Data.List.Forall2

/-!
# Lists member by member

Lists that correspond to each other, and lists that are cut at a member.

## Main results

* `exists_right_of_forall₂`, `exists_left_of_forall₂` — every member has its partner
* `map_eq_map_of_forall₂` — lists of what partners share
* `filter_of_forall₂` — choices that partners share
* `exists_filter_eq_singleton` — a choice that only one member's partner meets
* `append_eq_append_cons_iff` — two lists in a row, cut at a member
-/

namespace StreamMesh

variable {α β : Type} {R : α → β → Prop} {as : List α} {bs : List β} {a : α} {b : β}

theorem exists_right_of_forall₂ (h : List.Forall₂ R as bs) (ha : a ∈ as) : ∃ b ∈ bs, R a b := by
  induction h with
  | nil => cases ha
  | @cons a' b' _ _ hab _ ih =>
    rcases List.mem_cons.mp ha with rfl | ha
    · exact ⟨b', List.mem_cons_self .., hab⟩
    · obtain ⟨b, hb, hab⟩ := ih ha
      exact ⟨b, List.mem_cons_of_mem _ hb, hab⟩

theorem exists_left_of_forall₂ (h : List.Forall₂ R as bs) (hb : b ∈ bs) : ∃ a ∈ as, R a b :=
  exists_right_of_forall₂ h.flip hb

/-- What is the same for all partners is the same for the lists. -/
theorem map_eq_map_of_forall₂ {γ : Type} {f : α → γ} {g : β → γ} (h : List.Forall₂ R as bs)
    (heq : ∀ a b, R a b → g b = f a) : bs.map g = as.map f := by
  induction h with
  | nil => rfl
  | cons hab _ ih => rw [List.map_cons, List.map_cons, heq _ _ hab, ih]

/-- A choice that is the same for partners keeps partners together. -/
theorem filter_of_forall₂ {f : α → Bool} {g : β → Bool} (h : List.Forall₂ R as bs)
    (heq : ∀ a b, R a b → g b = f a) : List.Forall₂ R (as.filter f) (bs.filter g) := by
  refine List.rel_filter ?_ h
  intro a b hab
  simp only [heq a b hab]

/-- A choice that only the partner of one member meets leaves that partner. -/
theorem exists_filter_eq_singleton {g : β → Bool} (h : List.Forall₂ R as bs) (hnodup : as.Nodup)
    (ha : a ∈ as) (hg : ∀ x y, R x y → (g y = true ↔ x = a)) : ∃ b, bs.filter g = [b] ∧ R a b := by
  induction h with
  | nil => cases ha
  | @cons x y xs ys hxy hrest ih =>
    rw [List.nodup_cons] at hnodup
    by_cases hx : x = a
    · subst hx
      -- the member is not repeated, so the choice leaves nothing of the rest
      have hnone : ys.filter g = [] := by
        apply List.filter_eq_nil_iff.mpr
        intro y' hy' hgy'
        obtain ⟨x', hx', hxy'⟩ := exists_left_of_forall₂ hrest hy'
        exact hnodup.1 ((hg x' y' hxy').mp hgy' ▸ hx')
      refine ⟨y, ?_, hxy⟩
      rw [List.filter_cons_of_pos ((hg _ _ hxy).mpr rfl), hnone]
    · obtain ⟨b, hb, hab⟩ := ih hnodup.2 ((List.mem_cons.mp ha).resolve_left (Ne.symm hx))
      refine ⟨b, ?_, hab⟩
      rw [List.filter_cons_of_neg fun h => hx ((hg _ _ hxy).mp h), hb]

/-- Where two lists in a row are cut at a member, it is one of the second or one of the first. -/
theorem append_eq_append_cons_iff {xs ys before after : List α} {x : α} :
    xs ++ ys = before ++ x :: after ↔
      (∃ rest, before = xs ++ rest ∧ ys = rest ++ x :: after) ∨
        ∃ rest, xs = before ++ x :: rest ∧ after = rest ++ ys := by
  rw [List.append_eq_append_iff]
  refine or_congr_right' fun hleft => ?_
  constructor
  · rintro ⟨rest, hxs, hrest⟩
    rcases List.cons_eq_append_iff.mp hrest with ⟨rfl, hys⟩ | ⟨rest, rfl, hafter⟩
    · exact absurd ⟨[], by simp [hxs], hys⟩ hleft
    · exact ⟨rest, hxs, hafter⟩
  · rintro ⟨rest, hxs, hafter⟩
    exact ⟨x :: rest, hxs, by rw [hafter, List.cons_append]⟩

end StreamMesh
