import StreamMesh.Command.Run
import StreamMesh.Proofs.Deployment
import StreamMesh.Proofs.Failure
import StreamMesh.Proofs.Spec.BrokenName

/-!
# What a command has nothing to say about

A command has a complaint for documents that are not right. There are other errors, about which it
is silent: a path that the system does not take, a directory where a file is read, a text that the
loader gives up on for another reason than its syntax, and the name of a step that cannot be
encoded. Which of them loading a document ends in can be told from the tree.

## Main definitions

* `SourceError.Silent` — errors without a complaint
* `Tree.Unreadable` — how reading a document can end in such an error
* `Spec.Unloadable` — the same for loading a pipeline

## Main results

* `SourceError.report_eq_error_iff` — a command ends in an error exactly if it is silent about it
* `Spec.silent_load_iff`, `Deployment.silent_load_iff` — when loading a document ends in silence
-/

namespace StreamMesh

section Silent

/-- An error of a text that no message is made of: a scalar spells no value of its type, or the text
cannot be followed. -/
def Yaml.Error.Silent : Yaml.Error → Prop
  | .forbidden .. | .at .. => False
  | .badSpelling _ | .unknownWord _ | .tooShort | .unreadable | .tooLarge | .notText | .tooDeep =>
    True

/-- A failure that no message is made of. -/
def Failure.Silent : Failure → Prop
  | .fault _ | .invalid .. => False
  | .noNamespace | .unencodable _ | .tooLong => True

theorem Complaint.documentMessage?_eq_none_iff {source : String} {e : Yaml.Error} :
    documentMessage? source e = none ↔ e.Silent := by
  cases e <;> simp [documentMessage?, Yaml.Error.Silent]

theorem Complaint.exitCode_unwritten {f : SystemFault} {path : String} :
    (unwritten f path).exitCode = badSystem := by
  unfold unwritten
  split <;> rfl

namespace SourceError

/-- An error without a complaint. -/
def Silent : SourceError → Prop
  | .missing .. | .file _ => True
  | .document e => e.Silent
  | .failure f => f.Silent

variable {e : SourceError} {path source action : String} {before : List Notice} {t : Tree}

theorem complaint?_eq_none_iff : e.complaint? path source action = none ↔ e.Silent := by
  cases e with
  | missing | file => simp [complaint?, Silent]
  | document e =>
    rw [complaint?, Complaint.ofDocument?, Option.map_eq_none_iff,
      Complaint.documentMessage?_eq_none_iff]
    rfl
  | failure f => cases f <;> simp [complaint?, Silent, Failure.Silent]

/-- What can be complained about is not right in a document. -/
theorem exitCode_of_complaint? {c : Complaint} (h : e.complaint? path source action = some c) :
    c.exitCode = Complaint.badInput := by
  cases e with
  | missing | file => cases h
  | document e =>
    obtain ⟨_, -, rfl⟩ := Option.map_eq_some_iff.mp h
    rfl
  | failure f =>
    cases f with
    | noNamespace | unencodable | tooLong => cases h
    | fault | invalid =>
      cases h
      rfl

/-- A command ends in an error exactly if it is silent about it. -/
theorem report_eq_error_iff {x : Escape} :
    e.report path source action before t = .error x ↔ e.Silent ∧ x = ⟨e, t⟩ := by
  rw [report, ← complaint?_eq_none_iff]
  cases e.complaint? path source action <;> simp [eq_comm]

theorem exists_report_eq_error_iff {e' : SourceError} :
    (∃ x, e.report path source action before t = .error x ∧ x.error = e') ↔ e.Silent ∧ e = e' := by
  simp only [report_eq_error_iff]
  constructor
  · rintro ⟨_, ⟨hsilent, rfl⟩, rfl⟩
    exact ⟨hsilent, rfl⟩
  · rintro ⟨hsilent, rfl⟩
    exact ⟨_, ⟨hsilent, rfl⟩, rfl⟩

theorem report_eq_ok {r : Report} (h : e.report path source action before t = .ok r) :
    ∃ c : Complaint, c.exitCode = Complaint.badInput ∧ r = c.report before t := by
  unfold report at h
  split at h
  · rename_i c hc
    cases h
    exact ⟨c, exitCode_of_complaint? hc, rfl⟩
  · cases h

theorem ofFailure_eq_error_iff {α : Type} {x : Except Failure α} :
    ofFailure x = .error e ↔ ∃ f, x = .error f ∧ e = .failure f := by
  cases x <;> simp [ofFailure, eq_comm]

theorem ofFailure_map_eq_error_iff {α β : Type} {x : Except Failure α} {f : α → β} :
    ofFailure (x.map f) = .error e ↔ ofFailure x = .error e := by
  cases x <;> simp [ofFailure, Except.map]

/-- A command is silent about a document that does not fit its schema only if it has to tell a
reason that cannot be encoded. -/
theorem silent_ofChecked_iff {α : Type} {record : String} {x : Schema.Checked α} :
    (ofFailure (Failure.ofChecked record x) = .error e ∧ e.Silent) ↔
      ∃ b, x.brokenReason? = some b ∧ e = .failure (.unencodable b) := by
  simp only [← Failure.ofChecked_eq_unencodable_iff record, ofFailure_eq_error_iff]
  constructor
  · rintro ⟨⟨f, hf, rfl⟩, hsilent⟩
    obtain ⟨is, -, rfl⟩ := Failure.ofChecked_eq_error_iff.mp hf
    cases hreason : is.findSome? fun i => i.defect.unencodable? with
    | none =>
      rw [Failure.ofIssues, hreason] at hsilent
      exact hsilent.elim
    | some b =>
      rw [Failure.ofIssues, hreason] at hf ⊢
      exact ⟨b, hf, rfl⟩
  · rintro ⟨b, hf, rfl⟩
    exact ⟨⟨_, hf, rfl⟩, trivial⟩

end SourceError

end Silent

namespace Tree

variable {load : Loader} {t : Tree} {p : Path} {notice text : String} {v : Value} {e : SourceError}

theorem has_eq_error_iff {f : FileError} :
    t.has p = .error f ↔ t.find p = .error .nameTooLong ∧ f = ⟨.nameTooLong, p⟩ := by
  unfold has
  split
  · rename_i h
    simp [h]
  · rename_i h
    simp [h, eq_comm]
  · rename_i f' hne h
    simp only [h, Except.error.injEq, reduceCtorEq, false_iff, not_and]
    intro heq
    exact absurd heq hne

theorem has_eq_true_iff : t.has p = .ok true ↔ ∃ entry, t.find p = .ok entry := by
  unfold has
  split <;> simp [*]

/-- What can be read is there. -/
theorem has_of_readText (h : t.readText p = .ok text) : t.has p = .ok true := by
  unfold readText at h
  split at h <;> first | exact has_eq_true_iff.mpr ⟨_, ‹_›⟩ | cases h

theorem document_eq_ok_iff : t.document load notice p = .ok (text, v) ↔
    t.readText p = .ok text ∧ ∃ v', load text = .ok v' ∧ v = v'.orEmpty := by
  constructor
  · intro h
    unfold document at h
    split at h
    · cases h
    · cases h
    · split at h
      · cases h
      · rename_i hread
        split at h
        · cases h
        · rename_i v' hvalue
          cases h
          exact ⟨hread, v', hvalue, rfl⟩
  · rintro ⟨hread, v', hvalue, rfl⟩
    simp only [document, has_of_readText hread, hread, hvalue]

/-- How reading a document can end in an error that a command is silent about. -/
inductive Unreadable (load : Loader) (t : Tree) (p : Path) : SourceError → Prop
  /-- The system does not look for a path that is too long. -/
  | tooLong (h : t.find p = .error .nameTooLong) : Unreadable load t p (.file ⟨.nameTooLong, p⟩)
  | directory (h : t.find p = .ok .directory) : Unreadable load t p (.file ⟨.isDirectory, p⟩)
  /-- The loader gives up on the text. -/
  | text {text : String} {e : Yaml.Error} (h : t.readText p = .ok text)
    (hvalue : load text = .error e) (hsilent : e.Silent) : Unreadable load t p (.document e)

theorem Unreadable.silent (h : t.Unreadable load p e) : e.Silent := by
  cases h with
  | tooLong | directory => trivial
  | text _ _ hsilent => exact hsilent

theorem Unreadable.has_ne_false (h : t.Unreadable load p e) : t.has p ≠ .ok false := by
  cases h with
  | tooLong h =>
    rw [has_eq_error_iff.mpr ⟨h, rfl⟩]
    nofun
  | directory h =>
    rw [has_eq_true_iff.mpr ⟨_, h⟩]
    nofun
  | text h =>
    rw [has_of_readText h]
    nofun

/-- Reading a document that is there ends in silence in these ways only. -/
theorem silent_document_iff (hthere : t.has p ≠ .ok false) :
    (t.document load notice p = .error e ∧ e.Silent) ↔ t.Unreadable load p e := by
  constructor
  · rintro ⟨h, hsilent⟩
    unfold document at h
    split at h
    · -- the place cannot be looked at, is no file, or holds what cannot be loaded
      rename_i f hhas
      cases h
      obtain ⟨hfind, rfl⟩ := has_eq_error_iff.mp hhas
      exact .tooLong hfind
    · exact absurd ‹_› hthere
    · rename_i hhas
      obtain ⟨entry, hfind⟩ := has_eq_true_iff.mp hhas
      split at h
      · -- what stands there is no file, since it could not be read
        rename_i f hread
        cases h
        cases entry with
        | directory =>
          simp only [readText, hfind, Except.error.injEq] at hread
          rw [← hread]
          exact .directory hfind
        | file s => simp [readText, hfind] at hread
      · rename_i text hread
        split at h
        · rename_i hvalue
          cases h
          exact .text hread hvalue hsilent
        · cases h
  · intro h
    refine ⟨?_, h.silent⟩
    cases h with
    | tooLong h => simp only [document, has_eq_error_iff.mpr ⟨h, rfl⟩]
    | directory h => simp only [document, has_eq_true_iff.mpr ⟨_, h⟩, readText, h]
    | text h hvalue => simp only [document, has_of_readText h, h, hvalue]

end Tree

section Load

variable {load : Loader} {t : Tree} {p : Path} {e : SourceError}

/-- How loading a pipeline can end in an error that a command is silent about. -/
inductive Spec.Unloadable (load : Loader) (t : Tree) (p : Path) : SourceError → Prop
  | unreadable {x : SourceError} (h : t.Unreadable load p x) : Unloadable load t p x
  /-- A surrogate stands in the name of a step. -/
  | name {text : String} {v : Value} {b : BrokenText} (h : t.readText p = .ok text)
    (hvalue : load text = .ok v) (hname : Spec.brokenName? v = some b) :
    Unloadable load t p (.failure (.unencodable (Step.nameReason b)))

/-- A value that counts as nothing names no steps. -/
theorem Spec.brokenName?_orEmpty {v : Value} : Spec.brokenName? v.orEmpty = Spec.brokenName? v := by
  unfold Value.orEmpty
  split
  · rename_i hblank
    cases v with
    | map m =>
      obtain rfl : m = [] := List.isEmpty_iff.mp hblank
      rfl
    | _ => rfl
  · rfl

theorem Spec.Unloadable.has_ne_false (h : Spec.Unloadable load t p e) : t.has p ≠ .ok false := by
  cases h with
  | unreadable h => exact h.has_ne_false
  | name h =>
    rw [Tree.has_of_readText h]
    nofun

theorem Spec.silent_loadText_iff (hthere : t.has p ≠ .ok false) :
    (Spec.loadText load t p = .error e ∧ e.Silent) ↔ Spec.Unloadable load t p e := by
  have hread : (t.document load "File not found" p = .error e ∧ e.Silent) ↔
      t.Unreadable load p e := Tree.silent_document_iff hthere
  unfold Spec.loadText
  cases hdocument : t.document load "File not found" p with
  | error e' =>
    rw [hdocument] at hread
    simp only [Except.error.injEq] at hread ⊢
    refine hread.trans ⟨.unreadable, fun h => ?_⟩
    cases h with
    | unreadable h => exact h
    | name h hvalue =>
      cases hdocument.symm.trans (Tree.document_eq_ok_iff.mpr ⟨h, _, hvalue, rfl⟩)
  | ok found =>
    obtain ⟨text, v⟩ := found
    obtain ⟨htext, v', hvalue, rfl⟩ := Tree.document_eq_ok_iff.mp hdocument
    rw [hdocument] at hread
    -- a document that is read is checked, and the check may have a reason that cannot be told
    simp only [SourceError.ofFailure_map_eq_error_iff, SourceError.silent_ofChecked_iff,
      Spec.brokenReason?_check, Spec.brokenName?_orEmpty, Option.map_eq_some_iff]
    constructor
    · rintro ⟨_, ⟨b, hname, rfl⟩, rfl⟩
      exact .name htext hvalue hname
    · intro h
      cases h with
      | unreadable h => cases (hread.mpr h).1
      | name h hvalue' hname =>
        cases htext.symm.trans h
        cases hvalue.symm.trans hvalue'
        exact ⟨_, ⟨_, hname, rfl⟩, rfl⟩

/-- Loading a specification that is there ends in silence exactly if it cannot be loaded. -/
theorem Spec.silent_load_iff (hthere : t.has p ≠ .ok false) :
    (Spec.load load t p = .error e ∧ e.Silent) ↔ Spec.Unloadable load t p e := by
  rw [← Spec.silent_loadText_iff hthere, Spec.load]
  cases Spec.loadText load t p <;> simp [Except.map]

/-- Where the system does not even look, loading ends with its answer. -/
theorem Spec.unloadable_iff_of_has_eq_error {f : FileError} (h : t.has p = .error f) :
    Spec.Unloadable load t p e ↔ e = .file f := by
  have hthere : t.has p ≠ .ok false := by
    rw [h]
    nofun
  simp only [← Spec.silent_loadText_iff hthere, Spec.loadText, Tree.document, h,
    Except.error.injEq]
  constructor
  · rintro ⟨rfl, -⟩
    rfl
  · rintro rfl
    exact ⟨rfl, trivial⟩

/-- Loading a configuration that is there ends in silence exactly if it cannot be read. -/
theorem Deployment.silent_load_iff (hthere : t.has p ≠ .ok false) :
    (Deployment.load load t p = .error e ∧ e.Silent) ↔ t.Unreadable load p e := by
  have hread : (t.document load "Deployment config not found" p = .error e ∧ e.Silent) ↔
      t.Unreadable load p e := Tree.silent_document_iff hthere
  rw [← hread]
  unfold Deployment.load
  cases t.document load "Deployment config not found" p with
  | error e' => simp only [Except.error.injEq]
  | ok found =>
    refine iff_of_false (fun h => ?_) nofun
    obtain ⟨b, hreason, -⟩ := SourceError.silent_ofChecked_iff.mp h
    rw [Deployment.tellable_check found.2] at hreason
    cases hreason

end Load

end StreamMesh
