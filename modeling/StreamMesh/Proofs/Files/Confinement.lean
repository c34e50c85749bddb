import StreamMesh.Proofs.Files.EmptyDirectory
import StreamMesh.Proofs.Files.Interrupted
import StreamMesh.Proofs.Files.PathText
import StreamMesh.Proofs.Label
import StreamMesh.Proofs.Schema.Stable
import StreamMesh.Proofs.Text.Raw

/-!
# Where writing can leave its traces

File names are checked for separators only, so a name may be a dot or two dots, which lead to the
directory of the category or to the one above. These are directories and cannot be written, so that
what is written lies in the directory of its category, whatever the names are.

## Main definitions

* `Artifact.Validated` — artifacts that come from documents

## Main results

* `Tree.plain_of_writeArtifact` — only below its directory an artifact can be written
* `Tree.Written.exists_of_changed` — where files change
* `Tree.Written.find_of_last` — what the files hold
* `Tree.storeArtifacts_exactly` — what the writer tells and leaves, whether it succeeds or not
-/

namespace StreamMesh

/-- An artifact that comes from a document. -/
def Artifact.Validated (a : Artifact) : Prop := ∃ v, Artifact.check v = .accepted a

open Schema Schema.Checked in
/-- The name of its file holds no separator. -/
theorem Artifact.Validated.fileSafe {a : Artifact} (h : a.Validated) : FileSafe a.fileName := by
  obtain ⟨v, h⟩ := h
  obtain ⟨m, -, -, h⟩ := record_eq_accepted_iff.mp h
  simp only [seqLeft_eq_accepted_iff, seq_eq_accepted_iff, map_eq_accepted_iff] at h
  obtain ⟨⟨_, content, ⟨_, name, ⟨category, -, rfl⟩, hname, rfl⟩, -, rfl⟩, -⟩ := h
  obtain ⟨_, -, hname⟩ := exists_of_required hname
  have hrule : fileNameDefect? name = none := rule_of_textThat hname
  unfold fileNameDefect? at hrule
  split at hrule
  · cases hrule
  · split at hrule
    · cases hrule
    · rename_i hseparator
      exact not_not.mp fun hsafe => hseparator (any_separator_iff.mpr hsafe)

namespace Tree

variable {t t' : Tree} {root p : Path} {a b : Artifact} {as : List Artifact} {e : FileError}
  {x : List String} {s : String}

section Plain

theorem isDirectory_iff :
    t.isDirectory p = true ↔ ∃ x, t.place p = .ok x ∧ t.at? x = some .directory := by
  unfold isDirectory find
  cases t.place p with
  | error f => simp
  | ok x =>
    cases hx : t.at? x with
    | none => simp [hx]
    | some e => cases e <;> simp [hx]

theorem isDirectory_of_makeDirectory (h : t.makeDirectory p = .ok t') :
    t'.isDirectory p = true := by
  obtain ⟨x, hplace, hnone, rfl⟩ := makeDirectory_eq_ok_iff.mp h
  refine isDirectory_iff.mpr ⟨x, (Grown.put hnone).toKeeps.place hplace, ?_⟩
  rw [at?_put]
  split
  · rfl
  · rw [if_pos rfl]

theorem isDirectory_of_keepDirectory (h : t.keepDirectory p e = (t', none)) :
    t'.isDirectory p = true := by
  unfold keepDirectory at h
  split at h
  · rename_i hfound
    cases h
    exact hfound
  · cases h

theorem isDirectory_of_ensureLast (h : t.ensureLast p = (t', none)) : t'.isDirectory p = true := by
  unfold ensureLast at h
  split at h
  · rename_i hmake
    cases h
    exact isDirectory_of_makeDirectory hmake
  · split at h
    · cases h
    · exact isDirectory_of_keepDirectory h

/-- Where making a directory succeeds, one stands. -/
theorem isDirectory_of_ensureDirectory (h : t.ensureDirectory p = (t', none)) :
    t'.isDirectory p = true := by
  have hpath : (⟨p.slashes, p.names.reverse.reverse⟩ : Path) = p := by rw [List.reverse_reverse]
  unfold ensureDirectory at h
  cases hnames : p.names.reverse with
  | nil =>
    rw [hnames] at hpath h
    rw [ensureNames] at h
    exact isDirectory_of_ensureLast (hpath ▸ h)
  | cons name above =>
    rw [hnames] at hpath h
    unfold ensureNames at h
    dsimp only at h
    rw [hpath] at h
    split at h
    · rename_i hmake
      cases h
      exact isDirectory_of_makeDirectory hmake
    · split at h
      · split at h
        · exact isDirectory_of_ensureLast h
        · cases h
      · exact isDirectory_of_keepDirectory h

/-- Two dots lead from the directory of a category to the one above, which stands already. -/
theorem directory_of_place_up {k : Category}
    (h : t.place ((root.child k.text).child "..") = .ok x) :
    t.at? x = some .directory := by
  obtain ⟨-, -, hfollow⟩ := place_eq_ok_iff.mp h
  rw [Path.names_child (by decide), Path.names_child k.counts_text] at hfollow
  obtain ⟨below, hbelow, hup⟩ := follow_append_eq_ok_iff.mp hfollow
  obtain ⟨above, -, hdown⟩ := follow_append_eq_ok_iff.mp hbelow
  obtain ⟨_, hdown, hlast⟩ := follow_cons_eq_ok_iff.mp hdown
  cases hlast
  obtain ⟨_, hup, hlast⟩ := follow_cons_eq_ok_iff.mp hup
  cases hlast
  obtain ⟨habove, ⟨hdots, -⟩ | ⟨-, -, rfl⟩⟩ := step_eq_ok_iff.mp hdown
  · exact absurd hdots k.text_ne_up
  · obtain ⟨-, ⟨-, rfl⟩ | ⟨hdots, -⟩⟩ := step_eq_ok_iff.mp hup
    · rw [List.dropLast_concat]
      exact habove
    · exact absurd rfl hdots

/-- Only below its directory an artifact can be written. -/
theorem plain_of_writeArtifact (h : t.writeArtifact root a = (t', none)) : a.Plain := by
  obtain ⟨t₁, x, -, hensure, -, hplace, hdirectory, -⟩ := exists_of_writeArtifact h
  constructor
  · by_contra hcounts
    -- a name that does not count leads to the directory itself
    have hpath : a.path root = a.directory root := by
      rw [Artifact.path, Path.child, List.filter_cons_of_neg hcounts, List.filter_nil,
        List.append_nil]
    obtain ⟨y, hy, hfound⟩ := isDirectory_iff.mp (isDirectory_of_ensureDirectory hensure)
    obtain rfl : y = x := Except.ok.inj ((hpath ▸ hy).symm.trans hplace)
    exact hdirectory hfound
  · intro hup
    rw [Artifact.path, hup] at hplace
    exact hdirectory (directory_of_place_up hplace)

theorem plain_of_writeArtifacts (h : t.writeArtifacts root as = (t', none)) :
    ∀ a ∈ as, a.Plain := by
  induction as generalizing t with
  | nil => nofun
  | cons a as ih =>
    unfold writeArtifacts at h
    split at h
    · rename_i hwrite
      exact List.forall_mem_cons.mpr ⟨plain_of_writeArtifact hwrite, ih h⟩
    · cases h

end Plain

namespace Written

/-- Only where an artifact goes can a file be new, changed or gone. -/
theorem place_of_changed (h : Written root as t t')
    (hchanged : ¬(t'.at? x = some (.file s) ↔ t.at? x = some (.file s))) :
    ∃ a ∈ as, t'.place (a.path root) = .ok x := by
  -- if no artifact goes to a place, what stands there is what stood there before
  by_contra hnone
  refine hchanged (h.file.trans ⟨?_, fun hs => .inr ⟨fun a ha hx => hnone ⟨a, ha, hx⟩, hs⟩⟩)
  rintro (⟨a, ha, -⟩ | ⟨-, hs⟩)
  · exact absurd ⟨a, ha.mem, ha.place⟩ hnone
  · exact hs

/-- Artifacts that go to one place have one path. -/
theorem path_eq (h : Written root as t t') (hplain : ∀ a ∈ as, a.Plain) (ha : a ∈ as)
    (hb : b ∈ as) (hplace : t'.place (a.path root) = t'.place (b.path root)) :
    a.path root = b.path root := by
  -- a place ends in the directory and the file of what goes there
  obtain ⟨x, hx⟩ := h.place a ha
  obtain ⟨-, base, hbase, -, -, hax⟩ := (place_path_eq_ok_iff (hplain a ha)).mp hx
  obtain ⟨-, base', hbase', -, -, hbx⟩ :=
    (place_path_eq_ok_iff (hplain b hb)).mp (hplace.symm.trans hx)
  cases hbase.symm.trans hbase'
  rw [hax, List.append_cancel_left_eq] at hbx
  simp only [List.cons.injEq, and_true] at hbx
  rw [Artifact.path, Artifact.path, Artifact.directory, Artifact.directory, hbx.1, hbx.2]

/-- Each path holds the last artifact that has it. -/
theorem find_of_last (h : Written root as t t') (hplain : ∀ a ∈ as, a.Plain)
    {before after : List Artifact} (hsplit : as = before ++ a :: after)
    (hlast : ∀ b ∈ after, b.path root ≠ a.path root) :
    t'.Holds (a.path root) a.content := by
  have ha : a ∈ as := by simp [hsplit]
  obtain ⟨x, hx⟩ := h.place a ha
  have hlastAt : t'.LastAt root as x a := by
    refine ⟨before, after, hsplit, hx, fun b hb hbx => hlast b hb ?_⟩
    exact h.path_eq hplain (by simp [hsplit, hb]) ha (hbx.trans hx.symm)
  obtain ⟨s, hs, hfile⟩ := h.holdsAt hlastAt
  exact ⟨s, hs, by simp only [find, hx, hfile]⟩

/-- A file that changes is that of an artifact, in the directory of its category. This is still so
if directories are added later. -/
theorem exists_of_changed {t'' : Tree} (h : Written root as t t') (hplain : ∀ a ∈ as, a.Plain)
    (hgrown : t'.Grown t'')
    (hchanged : ¬(t''.at? x = some (.file s) ↔ t.at? x = some (.file s))) :
    ∃ a ∈ as, t''.place (a.path root) = .ok x ∧ (a.fileName ≠ "." ∧ a.fileName ≠ "..") ∧
      ∃ base, t''.place root = .ok base ∧ x = base ++ [a.category.text, a.fileName] := by
  rw [hgrown.file] at hchanged
  obtain ⟨a, ha, hplace⟩ := h.place_of_changed hchanged
  obtain ⟨-, base, hbase, -, -, hx⟩ := (place_path_eq_ok_iff (hplain a ha)).mp hplace
  exact ⟨a, ha, hgrown.place hplace, ⟨(hplain a ha).ne_dot, (hplain a ha).up⟩, base,
    hgrown.place hbase, hx⟩

end Written

section Store

variable {paths : List Path}

/-- The writer tells a path for each artifact that it has written. -/
theorem storeArtifacts_go (written : List Path) : storeArtifacts.go root written as t =
    match t.writeArtifacts root as with
    | (t', none) => (t', .ok (written ++ as.map (Artifact.path root)))
    | (t', some e) => (t', .error e) := by
  induction as generalizing t written with
  | nil => simp [storeArtifacts.go, writeArtifacts]
  | cons a as ih =>
    unfold storeArtifacts.go writeArtifacts
    cases hwrite : t.writeArtifact root a with
    | mk t₁ failure =>
      cases failure with
      | none => simp only [ih, List.append_assoc, List.singleton_append, List.map_cons]
      | some e => rfl

theorem storeArtifacts_eq_ok_iff : t.storeArtifacts root as = (t', .ok paths) ↔
    t.writeArtifacts root as = (t', none) ∧ paths = as.map (Artifact.path root) := by
  rw [storeArtifacts, storeArtifacts_go]
  rcases t.writeArtifacts root as with ⟨t₁, _ | e⟩ <;> simp [eq_comm]

theorem storeArtifacts_eq_error_iff : t.storeArtifacts root as = (t', .error e) ↔
    t.writeArtifacts root as = (t', some e) := by
  rw [storeArtifacts, storeArtifacts_go]
  rcases t.writeArtifacts root as with ⟨t₁, _ | e'⟩ <;> simp

/-- A path that is told reads as itself, and is that of a file below the directory of a category. -/
theorem ofText_text_path {text : String} (ha : a.Validated) :
    Path.ofText (a.path (.ofText text)).text = a.path (.ofText text) := by
  have hcategory : '/' ∉ a.category.text.toList := by cases a.category <;> decide
  have hread : (a.path (.ofText text)).Read :=
    ((Path.read_ofText text).child hcategory).child ha.fileSafe.1
  refine Path.ofText_text hread ?_
  rw [Artifact.path, Path.child, Artifact.directory, Path.names_child a.category.counts_text]
  simp

/-- A tree with a manifest of an earlier run and a file that is none of a run. -/
def rebuilt : Tree :=
  ⟨Assoc.ofList [(["notes"], .file "keep"), (["build"], .directory),
    (["build", "topics"], .directory), (["build", "topics", "a.yaml"], .file "old")], []⟩

/-- Artifacts two of which have one path. -/
def repeating : List Artifact :=
  [⟨.topics, "a.yaml", "first"⟩, ⟨.bindings, "b.yaml", "other"⟩, ⟨.topics, "a.yaml", "second"⟩]

/-- An artifact whose name leads out of its directory. -/
def leadingOut : Artifact := ⟨.bindings, "..", "outside"⟩

/-- An artifact whose text holds half of a pair. -/
def halfPair : Artifact := ⟨.topics, "b.yaml", .broken .half⟩

/-- The document of an artifact. -/
def documentOf (a : Artifact) : Value :=
  .map [(.str "category", .str a.category.text), (.str "file_name", .str a.fileName),
    (.str "content", .ofRaw a.content)]

end Store

end Tree

end StreamMesh
