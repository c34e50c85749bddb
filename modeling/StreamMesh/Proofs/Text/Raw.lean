import StreamMesh.Text.Raw

/-!
# Texts by their code points

A text is told by its code points, so that what holds of lists holds of texts: one text is put after
another by putting the code points behind each other, and a string keeps its characters.

## Main definitions

* `BrokenText.half` — a text that is no string

## Main results

* `RawText.points_ofPoints`, `RawText.ofPoints_points` — a text and its code points
* `RawText.points_append` — the code points of two texts in a row
* `RawText.exists_whole_iff` — when a text is a string
* `RawText.infix_join` — each of some texts is part of their row
-/

namespace StreamMesh

namespace Point

variable {p : Point} {c : Char} {n : Nat}

@[simp] theorem isChar_char : (char c).isChar = true := rfl

theorem isChar_iff : p.isChar = true ↔ ∃ c, p = char c := by
  cases p <;> simp [isChar, char?]

/-- A code point is told by its number. -/
@[simp] theorem ofCode_code (p : Point) : ofCode p.code = p := by
  cases p with
  | char c =>
    have hvalid := c.valid
    have hc : ¬ (0xD800 ≤ c.toNat ∧ c.toNat < 0xE000) := by
      simp only [UInt32.isValidChar, Nat.isValidChar] at hvalid
      simp only [Char.toNat]
      omega
    rw [code, ofCode, if_neg hc, Char.ofNat_toNat]
  | surrogate n =>
    have hn := n.isLt
    rw [code, ofCode, if_pos (by omega), Nat.add_sub_cancel_left]
    exact congrArg surrogate (Fin.ext (Nat.mod_eq_of_lt hn))

theorem code_le : p.code ≤ 0x10FFFF := by
  cases p with
  | char c =>
    have hvalid := c.valid
    simp only [UInt32.isValidChar, Nat.isValidChar] at hvalid
    simp only [code, Char.toNat]
    omega
  | surrogate n =>
    have hn := n.isLt
    simp only [code]
    omega

end Point

/-- The text of one surrogate alone. -/
def BrokenText.half : BrokenText := ⟨[.surrogate ⟨0, by decide⟩], rfl⟩

namespace RawText

variable {a b : RawText} {s : String} {t : BrokenText} {cs : List Char} {ps : List Point}

@[simp] theorem points_whole : (whole s).points = s.toList.map .char := rfl

@[simp] theorem points_broken : (broken t).points = t.points := rfl

@[simp] theorem ofPoints_map_char : ofPoints (cs.map .char) = whole (String.ofList cs) := by
  rw [ofPoints, dif_neg (by simp)]
  simp [List.filterMap_map, Function.comp_def, Point.char?]

/-- A text is made of its code points. -/
@[simp] theorem ofPoints_points (a : RawText) : ofPoints a.points = a := by
  cases a with
  | whole s => simp
  | broken t => exact dif_pos t.broken

/-- The text of some code points has these. -/
@[simp] theorem points_ofPoints (ps : List Point) : (ofPoints ps).points = ps := by
  rw [ofPoints]
  split
  · rfl
  · rename_i h
    rw [Bool.not_eq_false, List.all_eq_true] at h
    rw [points_whole, String.toList_ofList]
    induction ps with
    | nil => rfl
    | cons p ps ih =>
      rw [List.forall_mem_cons] at h
      obtain ⟨c, rfl⟩ := Point.isChar_iff.mp h.1
      exact congrArg _ (ih h.2)

theorem points_injective (h : a.points = b.points) : a = b := by
  rw [← ofPoints_points a, h, ofPoints_points]

/-- The code points of two texts in a row. -/
@[simp] theorem points_append (a b : RawText) : (a ++ b).points = a.points ++ b.points := by
  change (RawText.append a b).points = _
  unfold RawText.append
  split
  · simp
  · exact points_ofPoints _

/-- A text is a string if all its code points are characters. -/
theorem exists_whole_iff : (∃ s, a = whole s) ↔ ∀ p ∈ a.points, p.isChar = true := by
  constructor
  · rintro ⟨s, rfl⟩
    simp
  · intro h
    cases a with
    | whole s => exact ⟨s, rfl⟩
    | broken t =>
      have hall : t.points.all Point.isChar = true := List.all_eq_true.mpr h
      rw [t.broken] at hall
      cases hall

/-- What is put behind a surrogate leaves it there. -/
theorem exists_broken_append_whole : ∃ longer, broken t ++ whole s = broken longer := by
  cases h : broken t ++ whole s with
  | broken longer => exact ⟨longer, rfl⟩
  | whole u =>
    have hwhole := exists_whole_iff.mp ⟨u, h⟩
    rw [points_append] at hwhole
    obtain ⟨u', hu⟩ := exists_whole_iff.mpr fun p hp =>
      hwhole p (List.mem_append_left _ (show p ∈ (broken t).points from hp))
    cases hu

theorem isEmpty_iff : a.isEmpty = true ↔ a = whole "" := by
  cases a <;> simp [isEmpty]

theorem join_cons_cons {between t u : RawText} {rest : List RawText} :
    join between (t :: u :: rest) = t ++ between ++ join between (u :: rest) := rfl

/-- Each of some texts is part of their row. -/
theorem infix_join (between : RawText) {t : RawText} {parts : List RawText} (h : t ∈ parts) :
    t.points <:+: (join between parts).points := by
  induction parts with
  | nil => cases h
  | cons first rest ih =>
    cases rest with
    | nil =>
      obtain rfl := List.mem_singleton.mp h
      exact List.infix_rfl
    | cons second rest =>
      rw [join_cons_cons, points_append, points_append]
      rcases List.mem_cons.mp h with rfl | h
      · rw [List.append_assoc]
        exact (List.prefix_append _ _).isInfix
      · exact (ih h).trans (List.suffix_append _ _).isInfix

/-- Strings in a row are a string. -/
theorem join_map_whole (between : String) (parts : List String) :
    join between (parts.map whole) = whole (String.intercalate between parts) := by
  induction parts with
  | nil => rfl
  | cons first rest ih =>
    cases rest with
    | nil =>
      have hjoined : String.intercalate between [first] = first := String.intercalate_singleton
      rw [hjoined]
      rfl
    | cons second rest =>
      rw [List.map_cons, List.map_cons, join_cons_cons, ← List.map_cons, ih, whole_append,
        whole_append, String.intercalate_cons_cons]

/-- A part of a string is made of characters. -/
theorem infix_of_map_char {ds : List Char} (h : cs.map Point.char <:+: ds.map Point.char) :
    cs <:+: ds := by
  obtain ⟨before, after, h⟩ := h
  obtain ⟨front, last, rfl, hfront, rfl⟩ := List.map_eq_append_iff.mp h.symm
  obtain ⟨first, middle, rfl, rfl, hmiddle⟩ := List.map_eq_append_iff.mp hfront
  have hcs : middle = cs := (List.map_inj_right fun _ _ => Point.char.inj).mp hmiddle
  exact ⟨first, last, by rw [hcs]⟩

end RawText

end StreamMesh
