import StreamMesh.Files.Tree

/-!
# Where paths lead

A path leads to one place as long as the directories along it stand. So it keeps leading there in
every later tree, since no directory is ever taken away. Which paths lead anywhere depends on the
tree, but also on the path: the system takes no path that is too long or holds a null character.

## Main definitions

* `Path.Fits` — the paths that the system takes
* `Tree.Keeps` — the directories of a tree stand in a later one

## Main results

* `Tree.fits_of_place` — a path that leads to a place fits
* `Tree.fault_of_place` — why a path leads nowhere
* `Tree.place_child_eq_ok_iff` — a name leads from a directory to the place below
* `Tree.Keeps.place` — a path leads to the same place in a later tree
-/

namespace StreamMesh

namespace Path

variable {p : Path} {name : String}

/-- A path that the system takes. -/
structure Fits (p : Path) : Prop where
  noNull : Tree.holdsNull p.text = false
  path : p.text.utf8ByteSize ≤ maxBytes
  names : ∀ name ∈ p.names, name.utf8ByteSize ≤ maxNameBytes

theorem fits_iff : p.Fits ↔ Tree.holdsNull p.text = false ∧ p.text.utf8ByteSize ≤ maxBytes ∧
    ∀ name ∈ p.names, name.utf8ByteSize ≤ maxNameBytes :=
  ⟨fun h => ⟨h.noNull, h.path, h.names⟩, fun h => ⟨h.1, h.2.1, h.2.2⟩⟩

instance (p : Path) : Decidable p.Fits := decidable_of_iff' _ fits_iff

theorem names_child (h : counts name = true) : (p.child name).names = p.names ++ [name] := by
  rw [child, List.filter_cons_of_pos h, List.filter_nil]

/-- The path of a file below shows the path above in front, unless that is the working directory. -/
theorem text_child (h : counts name = true) :
    p.text = "." ∨ ∃ rest, (p.child name).text = p.text ++ rest := by
  -- the working directory is shown as a dot, which the path of its file does not start with
  by_cases hempty : p.slashes = 0 ∧ p.names = []
  · exact .inl (if_pos hempty)
  · refine .inr ?_
    have hchild : ¬((p.child name).slashes = 0 ∧ (p.child name).names = []) := by
      rw [names_child h]
      simp
    rw [text, text, if_neg hempty, if_neg hchild, names_child h]
    by_cases hnames : p.names = []
    · rw [hnames]
      exact ⟨name, by simp [child]⟩
    · rw [String.intercalate_append_of_ne_nil hnames (List.cons_ne_nil name [])]
      exact ⟨"/" ++ name, by simp [child, String.append_assoc]⟩

/-- A path fits if one of a file below does. -/
theorem Fits.of_child (hname : counts name = true) (h : (p.child name).Fits) : p.Fits := by
  have hnames : ∀ n ∈ p.names, n.utf8ByteSize ≤ maxNameBytes := by
    intro n hn
    refine h.names n ?_
    rw [names_child hname]
    exact List.mem_append_left _ hn
  rcases text_child (p := p) hname with hdot | ⟨rest, hrest⟩
  · exact ⟨by rw [hdot]; decide, by rw [hdot]; decide, hnames⟩
  · refine ⟨?_, ?_, hnames⟩
    · have hnull := h.noNull
      rw [hrest, Tree.holdsNull, String.toList_append, List.contains_append, Bool.or_eq_false_iff]
        at hnull
      exact hnull.1
    · have hpath := h.path
      rw [hrest, String.utf8ByteSize_append] at hpath
      omega

end Path

namespace Tree

variable {t t' t'' : Tree} {p : Path} {a b x : List String} {name : String}
  {names more : List String}

section Follow

/-- A name leads on from a directory only. -/
theorem step_eq_ok_iff : t.step a name = .ok b ↔ t.at? a = some .directory ∧
    (name = ".." ∧ b = a.dropLast ∨
      name ≠ ".." ∧ name.utf8ByteSize ≤ Path.maxNameBytes ∧ b = a ++ [name]) := by
  unfold step
  cases t.at? a with
  | none => simp
  | some e =>
    cases e with
    | file s => simp
    | directory =>
      by_cases hup : name = ".."
      · simp [hup, eq_comm]
      · by_cases hlong : Path.maxNameBytes < name.utf8ByteSize
        · have hnot : ¬ name.utf8ByteSize ≤ Path.maxNameBytes := by omega
          simp [hup, hlong, hnot]
        · have hfits : name.utf8ByteSize ≤ Path.maxNameBytes := by omega
          simp [hup, hlong, hfits, eq_comm]

theorem follow_cons_eq_ok_iff : t.follow a (name :: names) = .ok x ↔
    ∃ b, t.step a name = .ok b ∧ t.follow b names = .ok x := by
  rw [follow]
  cases t.step a name <;> simp

theorem follow_append_eq_ok_iff : t.follow a (names ++ more) = .ok x ↔
    ∃ b, t.follow a names = .ok b ∧ t.follow b more = .ok x := by
  induction names generalizing a with
  | nil => simp [follow]
  | cons name names ih =>
    simp only [List.cons_append, follow_cons_eq_ok_iff, ih]
    constructor
    · rintro ⟨c, hstep, b, hnames, hmore⟩
      exact ⟨b, ⟨c, hstep, hnames⟩, hmore⟩
    · rintro ⟨b, ⟨c, hstep, hnames⟩, hmore⟩
      exact ⟨c, hstep, b, hnames, hmore⟩

theorem fits_of_follow (h : t.follow a names = .ok x) :
    ∀ name ∈ names, name.utf8ByteSize ≤ Path.maxNameBytes := by
  induction names generalizing a with
  | nil => nofun
  | cons name names ih =>
    obtain ⟨b, hstep, hrest⟩ := follow_cons_eq_ok_iff.mp h
    intro n hn
    rcases List.mem_cons.mp hn with rfl | hn
    · rcases (step_eq_ok_iff.mp hstep).2 with ⟨rfl, -⟩ | ⟨-, hfits, -⟩
      · decide
      · exact hfits
    · exact ih hrest n hn

/-- A name leads nowhere for what is missing or in the way, or because it is too long. -/
theorem fault_of_follow {f : FileFault} (h : t.follow a names = .error f) :
    f ∈ [.notFound, .notDirectory, .nameTooLong] := by
  induction names generalizing a with
  | nil => cases h
  | cons name names ih =>
    unfold follow at h
    split at h
    · exact ih h
    · rename_i hstep
      cases h
      unfold step at hstep
      split at hstep
      · cases hstep
        simp
      · cases hstep
        simp
      · split at hstep
        · cases hstep
        · split at hstep
          · cases hstep
            simp
          · cases hstep

end Follow

section Place

/-- A path leads nowhere for a null character, or as its names do. -/
theorem fault_of_place {f : FileFault} (h : t.place p = .error f) :
    f = .nullCharacter ∧ holdsNull p.text = true ∨
      f ∈ [.notFound, .notDirectory, .nameTooLong] := by
  unfold place at h
  split at h
  · rename_i hnull
    cases h
    exact .inl ⟨rfl, hnull⟩
  · split at h
    · cases h
      exact .inr (by simp)
    · exact .inr (fault_of_follow h)

theorem place_eq_ok_iff : t.place p = .ok x ↔ Tree.holdsNull p.text = false ∧
    p.text.utf8ByteSize ≤ Path.maxBytes ∧
    t.follow (if p.slashes = 0 then t.home else []) p.names = .ok x := by
  unfold place
  by_cases hnull : holdsNull p.text = true
  · simp [hnull]
  · by_cases hlong : Path.maxBytes < p.text.utf8ByteSize
    · have hnot : ¬ p.text.utf8ByteSize ≤ Path.maxBytes := by omega
      simp [hnull, hlong, hnot]
    · have hfits : p.text.utf8ByteSize ≤ Path.maxBytes := by omega
      simp [hnull, hlong, hfits]

/-- A path that leads to a place fits. -/
theorem fits_of_place (h : t.place p = .ok x) : p.Fits := by
  obtain ⟨hnull, hpath, hfollow⟩ := place_eq_ok_iff.mp h
  exact ⟨hnull, hpath, fits_of_follow hfollow⟩

/-- A name leads from a directory to the place below. -/
theorem place_child_eq_ok_iff (hname : Path.counts name = true) (hup : name ≠ "..") :
    t.place (p.child name) = .ok x ↔ (p.child name).Fits ∧
      ∃ a, t.place p = .ok a ∧ t.at? a = some .directory ∧ x = a ++ [name] := by
  constructor
  · intro h
    have hfits := fits_of_place h
    have habove := hfits.of_child hname
    obtain ⟨-, -, hfollow⟩ := place_eq_ok_iff.mp h
    rw [Path.names_child hname] at hfollow
    obtain ⟨a, hnames, hlast⟩ := follow_append_eq_ok_iff.mp hfollow
    obtain ⟨b, hstep, hx⟩ := follow_cons_eq_ok_iff.mp hlast
    cases hx
    obtain ⟨hdirectory, ⟨hdots, -⟩ | ⟨-, -, hb⟩⟩ := step_eq_ok_iff.mp hstep
    · exact absurd hdots hup
    · exact ⟨hfits, a, place_eq_ok_iff.mpr ⟨habove.noNull, habove.path, hnames⟩, hdirectory, hb⟩
  · rintro ⟨hfits, a, hplace, hdirectory, rfl⟩
    obtain ⟨-, -, hfollow⟩ := place_eq_ok_iff.mp hplace
    have hlength : name.utf8ByteSize ≤ Path.maxNameBytes := by
      refine hfits.names name ?_
      rw [Path.names_child hname]
      exact List.mem_append_right _ (List.mem_singleton_self name)
    refine place_eq_ok_iff.mpr ⟨hfits.noNull, hfits.path, ?_⟩
    rw [Path.names_child hname]
    exact follow_append_eq_ok_iff.mpr ⟨a, hfollow, follow_cons_eq_ok_iff.mpr
      ⟨_, step_eq_ok_iff.mpr ⟨hdirectory, .inr ⟨hup, hlength, rfl⟩⟩, rfl⟩⟩

end Place

/-- The directories of a tree stand in a later one. -/
structure Keeps (t t' : Tree) : Prop where
  home : t'.home = t.home
  directory : ∀ {x}, t.at? x = some .directory → t'.at? x = some .directory

namespace Keeps

theorem refl (t : Tree) : t.Keeps t := ⟨rfl, id⟩

theorem trans (h : t.Keeps t') (h' : t'.Keeps t'') : t.Keeps t'' :=
  ⟨h'.home.trans h.home, fun hx => h'.directory (h.directory hx)⟩

theorem follow (h : t.Keeps t') (hfollow : t.follow a names = .ok x) :
    t'.follow a names = .ok x := by
  induction names generalizing a with
  | nil => exact hfollow
  | cons name names ih =>
    obtain ⟨b, hstep, hrest⟩ := follow_cons_eq_ok_iff.mp hfollow
    obtain ⟨hdirectory, hname⟩ := step_eq_ok_iff.mp hstep
    exact follow_cons_eq_ok_iff.mpr ⟨b, step_eq_ok_iff.mpr ⟨h.directory hdirectory, hname⟩,
      ih hrest⟩

/-- A path leads to the same place in a later tree. -/
theorem place (h : t.Keeps t') (hplace : t.place p = .ok x) : t'.place p = .ok x := by
  obtain ⟨hnull, hpath, hfollow⟩ := place_eq_ok_iff.mp hplace
  refine place_eq_ok_iff.mpr ⟨hnull, hpath, ?_⟩
  rw [h.home]
  exact h.follow hfollow

end Keeps

end Tree

end StreamMesh
