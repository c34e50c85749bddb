import StreamMesh.Files.Path
import StreamMesh.Proofs.Text.Pieces

/-!
# Paths and their texts

A path is shown as its names with slashes between them. Since no name that was read from a text
holds a slash or is empty, the text that is shown reads as the same path.

## Main definitions

* `Path.Read` — paths as they are read from texts

## Main results

* `Path.ofText_text` — the text of a path reads as the path
-/

namespace StreamMesh

namespace Path

variable {p : Path} {name : String} {names : List (List Char)}

/-- A path as it is read from a text. -/
structure Read (p : Path) : Prop where
  slashes : p.slashes ≤ 2
  counts : ∀ name ∈ p.names, Path.counts name = true
  slashFree : ∀ name ∈ p.names, '/' ∉ name.toList

theorem read_ofText (s : String) : (ofText s).Read where
  slashes := by
    simp only [ofText, leadingSlashes]
    split <;> omega
  counts name hname := (List.mem_filter.mp hname).2
  slashFree name hname := by
    obtain ⟨piece, hpiece, rfl⟩ := List.mem_map.mp (List.mem_filter.mp hname).1
    rw [String.toList_ofList]
    exact Text.not_mem_of_mem_pieces hpiece

theorem Read.child (h : p.Read) (hname : '/' ∉ name.toList) : (p.child name).Read where
  slashes := h.slashes
  counts n hn := by
    rcases List.mem_append.mp hn with hn | hn
    · exact h.counts n hn
    · exact (List.mem_filter.mp hn).2
  slashFree n hn := by
    rcases List.mem_append.mp hn with hn | hn
    · exact h.slashFree n hn
    · rw [List.mem_singleton.mp (List.mem_filter.mp hn).1]
      exact hname

theorem intercalate_replicate (h : names ≠ []) (k : Nat) :
    ['/'].intercalate (List.replicate k [] ++ names) =
      List.replicate k '/' ++ ['/'].intercalate names := by
  induction k with
  | zero => rfl
  | succ k ih =>
    have hrest : List.replicate k [] ++ names ≠ [] := by simp [h]
    obtain ⟨first, rest, heq⟩ := List.exists_cons_of_ne_nil hrest
    rw [List.replicate_succ, List.cons_append, heq, List.intercalate_cons_cons, ← heq, ih]
    rfl

/-- The names of a path are shown with slashes between them, and each slash in front like one after
an empty name. -/
theorem toList_text (h : p.names ≠ []) : p.text.toList =
    ['/'].intercalate (List.replicate p.slashes [] ++ p.names.map String.toList) := by
  have hnames : p.names.map String.toList ≠ [] := by simpa using h
  rw [text, if_neg (by simp [h]), intercalate_replicate hnames, String.toList_append,
    String.toList_ofList, String.toList_intercalate]
  rfl

theorem parts_text (hp : p.Read) (h : p.names ≠ []) :
    parts p.text = List.replicate p.slashes "" ++ p.names := by
  have hfree : ∀ l ∈ List.replicate p.slashes [] ++ p.names.map String.toList, '/' ∉ l := by
    intro l hl
    rcases List.mem_append.mp hl with hl | hl
    · rw [List.eq_of_mem_replicate hl]
      exact List.not_mem_nil
    · obtain ⟨name, hname, rfl⟩ := List.mem_map.mp hl
      exact hp.slashFree name hname
  rw [parts, toList_text h, Text.pieces_eq_splitOn,
    List.splitOn_intercalate '/' hfree (by simp [h])]
  simp

theorem leadingSlashes_text (hp : p.Read) (h : p.names ≠ []) :
    leadingSlashes p.text = p.slashes := by
  obtain ⟨first, rest, hnames⟩ := List.exists_cons_of_ne_nil h
  have hmem : first ∈ p.names := hnames ▸ List.mem_cons_self ..
  -- the first name is not empty, and its first character ends the slashes in front
  obtain ⟨c, cs, hfirst⟩ : ∃ c cs, first.toList = c :: cs := by
    apply List.exists_cons_of_ne_nil
    intro hempty
    have hcounts := hp.counts first hmem
    rw [String.toList_eq_nil_iff.mp hempty] at hcounts
    cases hcounts
  have hc : (c == '/') = false := by
    have hfree := hp.slashFree first hmem
    rw [hfirst] at hfree
    exact beq_false_of_ne fun heq => hfree (heq ▸ List.mem_cons_self ..)
  have hshown : ∃ more, ['/'].intercalate (p.names.map String.toList) = c :: more := by
    rw [hnames, List.map_cons, hfirst]
    cases rest with
    | nil => exact ⟨cs, by simp⟩
    | cons second rest => exact ⟨_, by rw [List.map_cons, List.intercalate_cons_cons]; rfl⟩
  obtain ⟨more, hmore⟩ := hshown
  have hgiven : (p.text.toList.takeWhile (· == '/')).length = p.slashes := by
    rw [toList_text h, intercalate_replicate (by simpa using h), hmore,
      List.takeWhile_append_of_pos (by simp +contextual), List.takeWhile_cons_of_neg (by simp [hc])]
    simp
  simp only [leadingSlashes, hgiven, if_pos hp.slashes]

/-- The text of a path reads as the path. -/
theorem ofText_text (hp : p.Read) (h : p.names ≠ []) : ofText p.text = p := by
  have hempty : (List.replicate p.slashes "").filter counts = [] := by
    rw [List.filter_replicate_of_neg (by decide)]
  rw [ofText, leadingSlashes_text hp h, parts_text hp h, List.filter_append, hempty,
    List.nil_append, List.filter_eq_self.mpr hp.counts]

end Path

end StreamMesh
