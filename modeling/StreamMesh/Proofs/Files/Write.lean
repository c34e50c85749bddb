import StreamMesh.Files.Write
import StreamMesh.Proofs.Files.Place

/-!
# What writing leaves

Writing artifacts adds directories and changes the files at the places of the artifacts, and nothing
else: at each place stands the last artifact that goes there, and everywhere else what stood there
before.

## Main definitions

* `Tree.Grown` — a later tree with the same files
* `Tree.Holds`, `Tree.HoldsAt` — what a file holds
* `Tree.LastAt` — the last of several artifacts that goes to a place
* `Tree.Written` — what writing artifacts leaves

## Main results

* `Tree.grown_of_ensureDirectory` — making a directory changes no file
* `Tree.ensureDirectory_of_place` — when a directory can be made
* `Tree.written_of_writeArtifacts` — what a run of the writer leaves
-/

namespace StreamMesh

namespace Tree

variable {t t' t'' : Tree} {p root : Path} {a b x base : List String} {text s : String}
  {raw : RawText} {e : Entry}

/-- A file holds a text. -/
def Holds (t : Tree) (p : Path) (text : RawText) : Prop :=
  ∃ s, text = .whole s ∧ t.find p = .ok (.file s)

/-- At a place stands a file that holds a text. -/
def HoldsAt (t : Tree) (x : List String) (text : RawText) : Prop :=
  ∃ s, text = .whole s ∧ t.at? x = some (.file s)

theorem at?_put : (t.put a e).at? x =
    if x = [] then some .directory else if x = a then some e else t.at? x := by
  by_cases hx : x = a
  · subst hx
    simp [at?, put]
  · rw [if_neg hx, at?_put_of_ne t hx, at?]
    split <;> rfl

/-- A later tree with the same files. -/
structure Grown (t t' : Tree) : Prop extends t.Keeps t' where
  file : ∀ {x s}, t'.at? x = some (.file s) ↔ t.at? x = some (.file s)

namespace Grown

theorem refl (t : Tree) : t.Grown t := ⟨.refl t, Iff.rfl⟩

theorem trans (h : t.Grown t') (h' : t'.Grown t'') : t.Grown t'' :=
  ⟨h.toKeeps.trans h'.toKeeps, h'.file.trans h.file⟩

theorem put (h : t.at? a = none) : t.Grown (t.put a .directory) where
  home := rfl
  directory {x} hx := by
    rw [at?_put]
    split
    · rfl
    · split
      · rfl
      · exact hx
  file {x s} := by
    rw [at?_put]
    by_cases hempty : x = []
    · simp [hempty, at?]
    · by_cases hx : x = a
      · simp [hx, h]
      · simp [hempty, hx]

end Grown

section Directory

theorem makeDirectory_eq_ok_iff : t.makeDirectory p = .ok t' ↔
    ∃ x, t.place p = .ok x ∧ t.at? x = none ∧ t' = t.put x .directory := by
  unfold makeDirectory
  cases t.place p with
  | error f => simp
  | ok x => cases hx : t.at? x <;> simp [hx, eq_comm]

theorem grown_of_makeDirectory (h : t.makeDirectory p = .ok t') : t.Grown t' := by
  obtain ⟨x, -, hnone, rfl⟩ := makeDirectory_eq_ok_iff.mp h
  exact .put hnone

theorem keepDirectory_fst {f : FileError} : (t.keepDirectory p f).1 = t := by
  unfold keepDirectory
  split <;> rfl

theorem grown_ensureLast : t.Grown (t.ensureLast p).1 := by
  unfold ensureLast
  split
  · rename_i h
    exact grown_of_makeDirectory h
  · split
    · exact .refl t
    · rw [keepDirectory_fst]
      exact .refl t

/-- Making directories changes no file, whether it succeeds or not. -/
theorem grown_ensureNames {slashes : Nat} {names : List String} :
    t.Grown (ensureNames slashes names t).1 := by
  induction names generalizing t with
  | nil => exact grown_ensureLast
  | cons name above ih =>
    unfold ensureNames
    dsimp only
    split
    · rename_i h
      exact grown_of_makeDirectory h
    · split
      · split
        -- what has been made above stays, even if this directory is not made then
        · rename_i h
          have habove : t.Grown _ := ih
          rw [h] at habove
          exact habove.trans grown_ensureLast
        · rename_i h
          have habove : t.Grown _ := ih
          rw [h] at habove
          exact habove
      · rw [keepDirectory_fst]
        exact .refl t

theorem grown_of_ensureDirectory {failure : Option FileError}
    (h : t.ensureDirectory p = (t', failure)) : t.Grown t' := by
  have hgrown : t.Grown (t.ensureDirectory p).1 := grown_ensureNames
  rwa [h] at hgrown

section Fault

/-! A directory cannot be made for what is said of the place of its path, or of a path above it. -/

variable {P : FileFault → Prop} {f : FileError} (hoccupied : P .occupied)

include hoccupied

theorem fault_makeDirectory (h : ∀ fault, t.place p = .error fault → P fault)
    (hfail : t.makeDirectory p = .error f) : P f.fault := by
  unfold makeDirectory at hfail
  split at hfail
  · rename_i hplace
    cases hfail
    exact h _ hplace
  · split at hfail
    · cases hfail
      exact hoccupied
    · cases hfail

theorem fault_ensureLast (h : ∀ fault, t.place p = .error fault → P fault)
    (hfail : t.ensureLast p = (t', some f)) : P f.fault := by
  unfold ensureLast at hfail
  split at hfail
  · cases hfail
  · rename_i f' hmake
    have hfault := fault_makeDirectory hoccupied h hmake
    split at hfail
    · cases hfail
      exact hfault
    · unfold keepDirectory at hfail
      split at hfail <;> cases hfail
      exact hfault

theorem fault_ensureNames {slashes : Nat} {names : List String}
    (h : ∀ (t : Tree) (p : Path) fault, (∀ name ∈ p.names, name ∈ names) →
      t.place p = .error fault → P fault)
    (hfail : ensureNames slashes names t = (t', some f)) : P f.fault := by
  induction names generalizing t' f with
  | nil => exact fault_ensureLast hoccupied (fun fault => h t ⟨slashes, []⟩ fault nofun) hfail
  | cons name above ih =>
    have hp : ∀ (t : Tree) fault, t.place ⟨slashes, (name :: above).reverse⟩ = .error fault →
        P fault :=
      fun t fault => h t _ fault fun _ => List.mem_reverse.mp
    unfold ensureNames at hfail
    dsimp only at hfail
    split at hfail
    · cases hfail
    · rename_i f' hmake
      -- where the directory above is missing, it is made first, and then this one again
      split at hfail
      · split at hfail
        · exact fault_ensureLast hoccupied (hp _) hfail
        · rename_i habove
          cases hfail
          exact ih (fun t p fault hnames => h t p fault fun n hn => .tail _ (hnames n hn)) habove
      · unfold keepDirectory at hfail
        split at hfail <;> cases hfail
        exact fault_makeDirectory hoccupied (hp _) hmake

theorem fault_ensureDirectory
    (h : ∀ (t : Tree) (q : Path) fault, (∀ name ∈ q.names, name ∈ p.names) →
      t.place q = .error fault → P fault)
    (hfail : t.ensureDirectory p = (t', some f)) : P f.fault :=
  fault_ensureNames hoccupied (fun t q fault hnames =>
    h t q fault fun name hname => List.mem_reverse.mp (hnames name hname)) hfail

end Fault

/-- Unless something above is missing, a directory is made at the first try or not at all. -/
theorem ensureDirectory_eq_ensureLast (h : ∀ f, t.makeDirectory p = .error f →
    f.fault ≠ .notFound) :
    t.ensureDirectory p = t.ensureLast p := by
  have hpath : (⟨p.slashes, p.names.reverse.reverse⟩ : Path) = p := by rw [List.reverse_reverse]
  unfold ensureDirectory
  cases hnames : p.names.reverse with
  | nil =>
    rw [hnames] at hpath
    rw [ensureNames]
    exact congrArg t.ensureLast hpath
  | cons name above =>
    rw [hnames] at hpath
    unfold ensureNames ensureLast
    dsimp only
    rw [hpath]
    cases hmake : t.makeDirectory p with
    | ok t' => rfl
    | error f => simp only [h f hmake, if_false]

/-- A directory below one that stands is made, or found. -/
theorem ensureDirectory_of_place (hplace : t.place p = .ok x)
    (hfile : ∀ s, t.at? x ≠ some (.file s)) :
    t.ensureDirectory p = (if t.at? x = none then t.put x .directory else t, none) := by
  -- what is there is nothing, or a directory
  cases hx : t.at? x with
  | none =>
    have hmake : t.makeDirectory p = .ok (t.put x .directory) :=
      makeDirectory_eq_ok_iff.mpr ⟨x, hplace, hx, rfl⟩
    have hfirst : ∀ f, t.makeDirectory p = .error f → f.fault ≠ .notFound := by
      intro f hf
      rw [hmake] at hf
      cases hf
    rw [ensureDirectory_eq_ensureLast hfirst, ensureLast, hmake, if_pos rfl]
  | some e =>
    have hdirectory : e = .directory := by
      cases e with
      | directory => rfl
      | file s => exact absurd hx (hfile s)
    subst hdirectory
    have hmake : t.makeDirectory p = .error ⟨.occupied, p⟩ := by
      simp only [makeDirectory, hplace, hx]
    have hfirst : ∀ f, t.makeDirectory p = .error f → f.fault ≠ .notFound := by
      intro f hf
      rw [hmake] at hf
      cases hf
      exact nofun
    have hfound : t.isDirectory p = true := by
      simp only [isDirectory, find, hplace, hx]
    rw [ensureDirectory_eq_ensureLast hfirst, ensureLast, hmake, if_neg (by simp)]
    simp [keepDirectory, hfound]

end Directory

section Text

theorem writeText_eq_done_iff : t.writeText p raw = (t', none) ↔
    ∃ x s, raw = .whole s ∧ t.place p = .ok x ∧ t.at? x ≠ some .directory ∧
      t' = t.put x (.file s) := by
  unfold writeText
  cases t.place p with
  | error f => simp
  | ok x =>
    cases raw <;> cases hx : t.at? x with
    | none => simp [hx, eq_comm]
    | some e => cases e <;> simp [hx, eq_comm]

/-- A text is not written for what is said of its path, and then nothing changes, or because it
cannot be encoded, and then an empty file is left at the path. -/
theorem writeText_eq_failed_iff {f : FileError} : t.writeText p raw = (t', some f) ↔
    ((∃ fault, t.place p = .error fault ∧ f = ⟨fault, p⟩) ∨
      (∃ x, t.place p = .ok x ∧ t.at? x = some .directory) ∧ f = ⟨.isDirectory, p⟩) ∧ t' = t ∨
    ∃ x b, raw = .broken b ∧ t.place p = .ok x ∧ t.at? x ≠ some .directory ∧
      f = ⟨.unencodable b, p⟩ ∧ t' = t.put x (.file "") := by
  unfold writeText
  cases t.place p with
  | error fault => simp [eq_comm, and_comm]
  | ok x =>
    cases raw <;> cases hx : t.at? x with
    | none => simp [hx, eq_comm, and_comm]
    | some e => cases e <;> simp [hx, eq_comm, and_comm]

/-- Putting a file where no directory stands leaves the directories. -/
theorem keeps_put_file (h : t.at? a ≠ some .directory) : t.Keeps (t.put a (.file text)) where
  home := rfl
  directory {x} hx := by
    have hne : x ≠ a := by
      intro heq
      subst heq
      exact h hx
    rw [at?_put_of_ne t hne]
    exact hx

theorem at?_put_file_iff (h : t.at? a ≠ some .directory) :
    (t.put a (.file text)).at? x = some (.file s) ↔
      x = a ∧ text = s ∨ x ≠ a ∧ t.at? x = some (.file s) := by
  have hne : a ≠ [] := by
    intro heq
    subst heq
    exact h rfl
  by_cases hx : x = a
  · subst hx
    simp [at?_put, hne]
  · rw [at?_put_of_ne t hx]
    simp [hx]

end Text

/-- The last of some artifacts that goes to a place. -/
def LastAt (t : Tree) (root : Path) (as : List Artifact) (x : List String) (a : Artifact) : Prop :=
  ∃ before after, as = before ++ a :: after ∧ t.place (a.path root) = .ok x ∧
    ∀ b ∈ after, t.place (b.path root) ≠ .ok x

section LastAt

variable {a b : Artifact} {as : List Artifact}

theorem LastAt.mem (h : t.LastAt root as x a) : a ∈ as := by
  obtain ⟨before, after, rfl, -⟩ := h
  simp

theorem LastAt.place (h : t.LastAt root as x a) : t.place (a.path root) = .ok x := by
  obtain ⟨_, _, -, hplace, -⟩ := h
  exact hplace

theorem lastAt_cons_iff : t.LastAt root (a :: as) x b ↔ t.LastAt root as x b ∨
    b = a ∧ t.place (a.path root) = .ok x ∧ ∀ b ∈ as, t.place (b.path root) ≠ .ok x := by
  constructor
  · rintro ⟨before, after, hsplit, hplace, hlast⟩
    cases before with
    | nil =>
      cases hsplit
      exact .inr ⟨rfl, hplace, hlast⟩
    | cons a' before =>
      cases hsplit
      exact .inl ⟨before, after, rfl, hplace, hlast⟩
  · rintro (⟨before, after, rfl, hplace, hlast⟩ | ⟨rfl, hplace, hlast⟩)
    · exact ⟨a :: before, after, rfl, hplace, hlast⟩
    · exact ⟨[], as, rfl, hplace, hlast⟩

/-- Where some artifact goes, there is a last one. -/
theorem exists_lastAt (h : ∃ a ∈ as, t.place (a.path root) = .ok x) :
    ∃ b, t.LastAt root as x b := by
  induction as with
  | nil =>
    obtain ⟨a, ha, -⟩ := h
    cases ha
  | cons c as ih =>
    by_cases hrest : ∃ a ∈ as, t.place (a.path root) = .ok x
    · obtain ⟨b, hb⟩ := ih hrest
      exact ⟨b, lastAt_cons_iff.mpr (.inl hb)⟩
    · obtain ⟨a, ha, hplace⟩ := h
      rcases List.mem_cons.mp ha with rfl | ha
      · exact ⟨a, lastAt_cons_iff.mpr (.inr ⟨rfl, hplace, fun b hb hb' => hrest ⟨b, hb, hb'⟩⟩)⟩
      · exact absurd ⟨a, ha, hplace⟩ hrest

end LastAt

/-- What writing artifacts leaves of a tree. -/
structure Written (root : Path) (as : List Artifact) (t t' : Tree) : Prop where
  keeps : t.Keeps t'
  place : ∀ a ∈ as, ∃ x, t'.place (a.path root) = .ok x
  content : ∀ a ∈ as, ∃ s, a.content = .whole s
  file : ∀ {x s}, t'.at? x = some (.file s) ↔ (∃ a, t'.LastAt root as x a ∧ a.content = .whole s) ∨
    (∀ a ∈ as, t'.place (a.path root) ≠ .ok x) ∧ t.at? x = some (.file s)

section Run

variable {a : Artifact} {as : List Artifact}

/-- One artifact changes the file at its place, below a directory that may have been made. -/
theorem exists_of_writeArtifact (h : t.writeArtifact root a = (t', none)) :
    ∃ t₁ x s, t.ensureDirectory (a.directory root) = (t₁, none) ∧ a.content = .whole s ∧
      t₁.place (a.path root) = .ok x ∧ t₁.at? x ≠ some .directory ∧ t' = t₁.put x (.file s) := by
  unfold writeArtifact at h
  split at h
  · cases h
  · rename_i t₁ hensure
    obtain ⟨x, s, hcontent, hplace, hdirectory, rfl⟩ := writeText_eq_done_iff.mp h
    exact ⟨t₁, x, s, hensure, hcontent, hplace, hdirectory, rfl⟩

theorem writeArtifacts_append {bs : List Artifact} : t.writeArtifacts root (as ++ bs) =
    match t.writeArtifacts root as with
    | (t', none) => t'.writeArtifacts root bs
    | (t', some e) => (t', some e) := by
  induction as generalizing t with
  | nil => rfl
  | cons a as ih =>
    rw [List.cons_append, writeArtifacts, writeArtifacts]
    rcases t.writeArtifact root a with ⟨t₁, _ | e⟩
    · exact ih
    · rfl

/-- Writing leaves at each place the last artifact that goes there, and everywhere else what stood
there before. -/
theorem written_of_writeArtifacts (h : t.writeArtifacts root as = (t', none)) :
    Written root as t t' := by
  induction as generalizing t with
  | nil =>
    cases h
    refine ⟨.refl _, nofun, nofun, fun {x s} => ?_⟩
    simp [LastAt]
  | cons a as ih =>
    unfold writeArtifacts at h
    split at h
    · rename_i t₂ hwrite
      obtain ⟨t₁, y, text, hensure, hcontent, hplace, hdirectory, rfl⟩ :=
        exists_of_writeArtifact hwrite
      have hgrown : t.Grown t₁ := grown_of_ensureDirectory hensure
      have hrest := ih h
      -- the path of the first artifact keeps leading to its place
      have hput : t₁.Keeps (t₁.put y (.file text)) := keeps_put_file hdirectory
      have hplace' : t'.place (a.path root) = .ok y := (hput.trans hrest.keeps).place hplace
      refine ⟨hgrown.toKeeps.trans (hput.trans hrest.keeps), ?_,
        List.forall_mem_cons.mpr ⟨⟨text, hcontent⟩, hrest.content⟩, fun {x s} => ?_⟩
      · intro b hb
        rcases List.mem_cons.mp hb with rfl | hb
        · exact ⟨y, hplace'⟩
        · exact hrest.place b hb
      · rw [hrest.file, at?_put_file_iff hdirectory, hgrown.file]
        simp only [lastAt_cons_iff, List.forall_mem_cons, hplace', ne_eq, Except.ok.injEq]
        -- the first artifact is the last one at its place only if no other goes there
        constructor
        · rintro (⟨b, hb, hs⟩ | ⟨hnone, ⟨rfl, hs⟩ | ⟨hne, hs⟩⟩)
          · exact .inl ⟨b, .inl hb, hs⟩
          · exact .inl ⟨a, .inr ⟨rfl, rfl, hnone⟩, hs ▸ hcontent⟩
          · exact .inr ⟨⟨fun hx => hne hx.symm, hnone⟩, hs⟩
        · rintro (⟨b, hb | ⟨rfl, rfl, hnone⟩, hs⟩ | ⟨⟨hne, hnone⟩, hs⟩)
          · exact .inl ⟨b, hb, hs⟩
          · exact .inr ⟨hnone, .inl ⟨rfl, RawText.whole.inj (hcontent.symm.trans hs)⟩⟩
          · exact .inr ⟨hnone, .inr ⟨fun hx => hne hx.symm, hs⟩⟩
    · cases h

/-- What stands at the place of the last artifact that goes there. -/
theorem Written.holdsAt {b : Artifact} (h : Written root as t t') (hb : t'.LastAt root as x b) :
    t'.HoldsAt x b.content := by
  obtain ⟨s, hs⟩ := h.content b hb.mem
  exact ⟨s, hs, h.file.mpr (.inl ⟨b, hb, hs⟩)⟩

end Run

end Tree

end StreamMesh
