import Mathlib.Data.Set.Card
import StreamMesh.Proofs.Artifact
import StreamMesh.Proofs.Files.Write

/-!
# Writing into an empty directory

Nothing is in the way of artifacts below an empty directory, so that all of them can be written if
only their texts can be encoded and their paths fit. In the end there is one file for every path,
and if no two artifacts share theirs, each file holds its own artifact.

## Main definitions

* `Tree.EmptyDirectory`, `Tree.filesBelow` — a directory without entries, and the files below one
* `Tree.Ready` — a directory with nothing in the way of artifacts

## Main results

* `Tree.Ready.writeArtifacts_isOk_iff` — writing succeeds exactly if texts can be encoded and all
  paths fit
* `Tree.EmptyDirectory.ncard_filesBelow_iff` — when there are as many files as artifacts
* `Tree.Ready.find_of_nodup` — when each file holds its own artifact
-/

namespace StreamMesh

namespace Tree

variable {t t' : Tree} {root : Path} {base x : List String} {text : String} {a : Artifact}
  {as : List Artifact}

/-- A directory without entries, by its path and its place. -/
structure EmptyDirectory (t : Tree) (root : Path) (base : List String) : Prop where
  place : t.place root = .ok base
  directory : t.at? base = some .directory
  empty : ∀ {x}, base <+: x → x ≠ base → t.at? x = none

/-- A directory with nothing in the way of artifacts: no file where directories go, and no directory
where files go. -/
structure Ready (t : Tree) (root : Path) (base : List String) : Prop where
  place : t.place root = .ok base
  directory : t.at? base = some .directory
  category : ∀ (k : Category) s, t.at? (base ++ [k.text]) ≠ some (.file s)
  file : ∀ (k : Category) name, t.at? (base ++ [k.text, name]) ≠ some .directory

theorem EmptyDirectory.ready (h : t.EmptyDirectory root base) : t.Ready root base where
  place := h.place
  directory := h.directory
  category k s := by
    rw [h.empty (List.prefix_append ..) (by simp)]
    nofun
  file k name := by
    rw [h.empty (List.prefix_append ..) (by simp)]
    nofun

namespace Ready

variable {k : Category} {name : String} (h : t.Ready root base)

include h

theorem put_directory (hnone : t.at? (base ++ [k.text]) = none) :
    (t.put (base ++ [k.text]) .directory).Ready root base where
  place := (Grown.put hnone).toKeeps.place h.place
  directory := (Grown.put hnone).directory h.directory
  category k' s := by
    rw [ne_eq, (Grown.put hnone).file]
    exact h.category k' s
  file k' name := by
    have hne : base ++ [k'.text, name] ≠ base ++ [k.text] := by simp
    rw [at?_put_of_ne t hne]
    exact h.file k' name

theorem put_file : (t.put (base ++ [k.text, name]) (.file text)).Ready root base where
  place := (keeps_put_file (h.file k name)).place h.place
  directory := (keeps_put_file (h.file k name)).directory h.directory
  category k' s := by
    have hne : base ++ [k'.text] ≠ base ++ [k.text, name] := by simp
    rw [at?_put_of_ne t hne]
    exact h.category k' s
  file k' name' := by
    by_cases heq : base ++ [k'.text, name'] = base ++ [k.text, name]
    · rw [heq, at?_put, if_neg (by simp), if_pos rfl]
      nofun
    · rw [at?_put_of_ne t heq]
      exact h.file k' name'

end Ready

/-- The place of an artifact below a directory. -/
theorem place_path_eq_ok_iff (hplain : a.Plain) : t.place (a.path root) = .ok x ↔
    (a.path root).Fits ∧ ∃ base, t.place root = .ok base ∧ t.at? base = some .directory ∧
      t.at? (base ++ [a.category.text]) = some .directory ∧
      x = base ++ [a.category.text, a.fileName] := by
  simp only [Artifact.path, Artifact.directory, place_child_eq_ok_iff hplain.counts hplain.up,
    place_child_eq_ok_iff a.category.counts_text a.category.text_ne_up]
  constructor
  · rintro ⟨hfits, _, ⟨-, base, hplace, hbase, rfl⟩, hdirectory, rfl⟩
    exact ⟨hfits, base, hplace, hbase, hdirectory, by simp⟩
  · rintro ⟨hfits, base, hplace, hbase, hdirectory, rfl⟩
    exact ⟨hfits, _, ⟨hfits.of_child hplain.counts, base, hplace, hbase, rfl⟩, hdirectory, by simp⟩

namespace Ready

variable (h : t.Ready root base)

include h

/-- With nothing in the way, an artifact is written if its path fits. -/
theorem writeArtifact (hplain : a.Plain) (hcontent : a.content = .whole text)
    (hfits : (a.path root).Fits) :
    ∃ t', t.writeArtifact root a = (t', none) ∧ t'.Ready root base := by
  -- the path of the directory is shorter, so it fits as well
  have hplace : t.place (a.directory root) = .ok (base ++ [a.category.text]) :=
    (place_child_eq_ok_iff a.category.counts_text a.category.text_ne_up).mpr
      ⟨hfits.of_child hplain.counts, base, h.place, h.directory, rfl⟩
  -- the directory of the category is made, or stands already
  obtain ⟨t₁, hensure, hready, hdirectory⟩ :
    ∃ t₁, t.ensureDirectory (a.directory root) = (t₁, none) ∧
      t₁.Ready root base ∧ t₁.at? (base ++ [a.category.text]) = some .directory := by
    have hensure := ensureDirectory_of_place hplace (h.category a.category)
    cases hfound : t.at? (base ++ [a.category.text]) with
    | none =>
      rw [if_pos hfound] at hensure
      exact ⟨_, hensure, h.put_directory hfound, by simp [at?_put]⟩
    | some e =>
      rw [if_neg (by simp [hfound])] at hensure
      cases e with
      | directory => exact ⟨t, hensure, h, hfound⟩
      | file s => exact absurd hfound (h.category a.category s)
  have hwrite : t₁.writeText (a.path root) a.content =
      (t₁.put (base ++ [a.category.text, a.fileName]) (.file text), none) :=
    writeText_eq_done_iff.mpr ⟨_, text, hcontent, (place_path_eq_ok_iff hplain).mpr
      ⟨hfits, base, hready.place, hready.directory, hdirectory, rfl⟩, hready.file _ _, rfl⟩
  refine ⟨t₁.put (base ++ [a.category.text, a.fileName]) (.file text), ?_, hready.put_file⟩
  simp only [Tree.writeArtifact, hensure, hwrite]

theorem exists_writeArtifacts (hplain : ∀ a ∈ as, a.Plain)
    (hcontent : ∀ a ∈ as, ∃ s, a.content = .whole s) (hfits : ∀ a ∈ as, (a.path root).Fits) :
    ∃ t', t.writeArtifacts root as = (t', none) := by
  induction as generalizing t with
  | nil => exact ⟨t, rfl⟩
  | cons a as ih =>
    rw [List.forall_mem_cons] at hplain hcontent hfits
    obtain ⟨⟨text, htext⟩, hcontent⟩ := hcontent
    obtain ⟨t₁, hwrite, hready⟩ := h.writeArtifact hplain.1 htext hfits.1
    obtain ⟨t', hrest⟩ := ih hready hplain.2 hcontent hfits.2
    exact ⟨t', by simp only [writeArtifacts, hwrite, hrest]⟩

/-- With nothing in the way, writing succeeds exactly if all texts can be encoded and all paths
fit. -/
theorem writeArtifacts_isOk_iff (hplain : ∀ a ∈ as, a.Plain) :
    (∃ t', t.writeArtifacts root as = (t', none)) ↔
      (∀ a ∈ as, ∃ s, a.content = .whole s) ∧ ∀ a ∈ as, (a.path root).Fits := by
  constructor
  · intro ⟨t', hwrite⟩
    have hwritten := written_of_writeArtifacts hwrite
    refine ⟨hwritten.content, fun a ha => ?_⟩
    obtain ⟨x, hplace⟩ := hwritten.place a ha
    exact fits_of_place hplace
  · rintro ⟨hcontent, hfits⟩
    exact h.exists_writeArtifacts hplain hcontent hfits

end Ready

namespace Written

variable (h : Written root as t t') (hplace : t.place root = .ok base) (hplain : ∀ a ∈ as, a.Plain)

include h hplace hplain

/-- In the tree that is left, the path of an artifact leads to its place. -/
theorem place_path (ha : a ∈ as) :
    t'.place (a.path root) = .ok (base ++ [a.category.text, a.fileName]) := by
  obtain ⟨x, hx⟩ := h.place a ha
  obtain ⟨-, base', hbase, -, -, rfl⟩ := (place_path_eq_ok_iff (hplain a ha)).mp hx
  cases (h.keeps.place hplace).symm.trans hbase
  exact hx

/-- Artifacts go to one place exactly if they have one path. -/
theorem place_path_eq_iff {b : Artifact} (ha : a ∈ as) (hb : b ∈ as) :
    t'.place (a.path root) = t'.place (b.path root) ↔ a.relativePath = b.relativePath := by
  rw [h.place_path hplace hplain ha, h.place_path hplace hplain hb,
    (hplain a ha).relativePath_eq, (hplain b hb).relativePath_eq]
  constructor
  · intro heq
    simp only [Except.ok.injEq, List.append_cancel_left_eq, List.cons.injEq, and_true] at heq
    rw [heq.1, heq.2]
  · intro heq
    obtain ⟨hcategory, hfile⟩ := Category.text_append_inj heq
    rw [hcategory, hfile]

/-- If no two artifacts share a path, each file holds its own artifact. -/
theorem find_of_nodup (hnodup : (as.map Artifact.relativePath).Nodup) (ha : a ∈ as) :
    t'.Holds (a.path root) a.content := by
  have hpath := h.place_path hplace hplain ha
  -- the last artifact at the place has the same path, so it is the same artifact
  obtain ⟨b, hlast⟩ := exists_lastAt ⟨a, ha, hpath⟩
  have hsame : b.relativePath = a.relativePath :=
    (h.place_path_eq_iff hplace hplain hlast.mem ha).mp (hlast.place.trans hpath.symm)
  obtain rfl := List.inj_on_of_nodup_map hnodup hlast.mem ha hsame
  obtain ⟨s, hs, hfile⟩ := h.holdsAt hlast
  exact ⟨s, hs, by simp only [find, hpath, hfile]⟩

end Written

/-- The places of the files below a directory. -/
def filesBelow (t : Tree) (base : List String) : Set (List String) :=
  {x | base <+: x ∧ ∃ s, t.at? x = some (.file s)}

namespace EmptyDirectory

variable (h : t.EmptyDirectory root base) (hplain : ∀ a ∈ as, a.Plain)
  (hwrite : t.writeArtifacts root as = (t', none))

include h hplain hwrite

/-- The files below what was an empty directory are those of the artifacts. -/
theorem filesBelow_eq : t'.filesBelow base =
    ((as.map fun a => base ++ [a.category.text, a.fileName]).toFinset : Set (List String)) := by
  have hwritten := written_of_writeArtifacts hwrite
  ext x
  simp only [filesBelow, Set.mem_ofPred_eq, List.coe_toFinset, List.mem_map]
  constructor
  · rintro ⟨hbelow, s, hs⟩
    rcases hwritten.file.mp hs with ⟨a, hlast, -⟩ | ⟨-, hbefore⟩
    · have hpath := hwritten.place_path h.place hplain hlast.mem
      exact ⟨a, hlast.mem, Except.ok.inj (hpath.symm.trans hlast.place)⟩
    · -- no file was there before
      by_cases hbase : x = base
      · rw [hbase, h.directory] at hbefore
        cases hbefore
      · rw [h.empty hbelow hbase] at hbefore
        cases hbefore
  · rintro ⟨a, ha, rfl⟩
    obtain ⟨b, hlast⟩ := exists_lastAt ⟨a, ha, hwritten.place_path h.place hplain ha⟩
    obtain ⟨s, -, hfile⟩ := hwritten.holdsAt hlast
    exact ⟨List.prefix_append .., s, hfile⟩

/-- There are no more files than artifacts. -/
theorem ncard_filesBelow_le : (t'.filesBelow base).ncard ≤ as.length := by
  rw [h.filesBelow_eq hplain hwrite, Set.ncard_coe_finset, ← List.length_map fun a : Artifact =>
    base ++ [a.category.text, a.fileName]]
  exact List.toFinset_card_le _

/-- There are as many files as artifacts exactly if no two artifacts share a path. -/
theorem ncard_filesBelow_iff :
    (t'.filesBelow base).ncard = as.length ↔ (as.map Artifact.relativePath).Nodup := by
  have hwritten := written_of_writeArtifacts hwrite
  have hpaths : (as.map fun a => base ++ [a.category.text, a.fileName]).Nodup ↔
      (as.map Artifact.relativePath).Nodup := by
    simp only [List.Nodup, List.pairwise_map]
    refine List.Pairwise.iff_of_mem fun {a b} ha hb => not_congr ?_
    rw [← hwritten.place_path_eq_iff h.place hplain ha hb, hwritten.place_path h.place hplain ha,
      hwritten.place_path h.place hplain hb, Except.ok.injEq]
  rw [h.filesBelow_eq hplain hwrite, Set.ncard_coe_finset, ← hpaths, List.card_toFinset]
  -- dropping repetitions keeps the length exactly if there are none
  constructor
  · intro hlength
    rw [← (List.dedup_sublist _).eq_of_length (hlength.trans (List.length_map _).symm)]
    exact List.nodup_dedup _
  · intro hnodup
    rw [hnodup.dedup, List.length_map]

end EmptyDirectory

end Tree

end StreamMesh
