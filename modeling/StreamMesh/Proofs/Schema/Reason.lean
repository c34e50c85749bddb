import StreamMesh.Failure
import StreamMesh.Proofs.Schema.Stable

/-!
# Reasons that cannot be encoded

A rule that refuses a value may quote the value in its reason, surrogates and all. A check with such
a reason does not end in its issues but in the failure to tell the first reason of this kind. Most
checks only have reasons that can be told.

## Main definitions

* `Checked.brokenReason?` — the first reason of a check that cannot be encoded
* `Tellable` — checks without such reasons

## Main results

* `Failure.ofChecked_eq_unencodable_iff`, `Failure.exists_ofChecked_eq_invalid_iff` — when a check
  ends in the failure to tell a reason, and when in its issues
* `Schema.Checked.brokenReason?_seq` and its siblings — the first such reason of checks side by side
* `Schema.tellable_record` — a record is tellable if its fields are
-/

namespace StreamMesh

namespace Schema

variable {α β : Type}

namespace Checked

/-- The first reason of a check that cannot be encoded. -/
def brokenReason? (x : Checked α) : Option BrokenText :=
  x.issues.findSome? fun i => i.defect.unencodable?

variable {f : α → β} {g : Checked (α → β)} {x : Checked α} {y : Checked β} {a : α} {d : Defect}

@[simp] theorem brokenReason?_accepted : (accepted a).brokenReason? = none := by
  simp [brokenReason?, issues]

@[simp] theorem brokenReason?_fail : (fail d : Checked α).brokenReason? = d.unencodable? := by
  simp [brokenReason?, fail, issues]

@[simp] theorem brokenReason?_map : (f <$> x).brokenReason? = x.brokenReason? := by
  cases x <;> simp [brokenReason?, issues]

@[simp] theorem brokenReason?_seq :
    (g <*> x).brokenReason? = g.brokenReason?.or x.brokenReason? := by
  rw [brokenReason?, issues_seq, List.findSome?_append]
  rfl

@[simp] theorem brokenReason?_seqLeft :
    (x <* y).brokenReason? = x.brokenReason?.or y.brokenReason? := by
  have h : x <* y = Function.const β <$> x <*> y := rfl
  rw [h, brokenReason?_seq, brokenReason?_map]

@[simp] theorem brokenReason?_under {p : Place} : (x.under p).brokenReason? = x.brokenReason? := by
  cases x with
  | accepted => rfl
  | rejected is => simp [under, brokenReason?, issues, List.findSome?_map, Function.comp_def]

/-- Of a record that cannot tell its keys apart, the reasons that cannot be encoded are kept. -/
@[simp] theorem brokenReason?_spoiled : x.spoiled.brokenReason? = x.brokenReason? := by
  cases x with
  | accepted => simp [spoiled, Defect.unencodable?]
  | rejected is =>
    simp only [spoiled, brokenReason?, issues, List.findSome?_append]
    induction is with
    | nil => rfl
    | cons i is ih =>
      cases h : i.defect.unencodable? with
      | some t => simp [h]
      | none => simpa [h] using ih

@[simp] theorem brokenReason?_all {xs : List (Checked α)} :
    (all xs).brokenReason? = xs.findSome? brokenReason? := by
  induction xs with
  | nil => simp [all]
  | cons x xs ih =>
    rw [all, brokenReason?_seq, brokenReason?_map, ih, List.findSome?_cons]
    cases x.brokenReason? <;> rfl

/-- A rule that can tell its reasons adds none that cannot be told. -/
theorem brokenReason?_bind {k : α → Checked β} (h : ∀ a, (k a).brokenReason? = none) :
    (x.bind k).brokenReason? = x.brokenReason? := by
  cases x with
  | accepted a => rw [Checked.bind, h, brokenReason?_accepted]
  | rejected is => rfl

end Checked

open Checked

/-- A check whose reasons can all be encoded. -/
def Tellable (check : Value → Checked α) : Prop := ∀ v, (check v).brokenReason? = none

variable {check : Value → Checked α} {absent : α} {key : String} {known : List String}
  {entries m : List (Value × Value)} {v : Value}

section Scalars

@[simp] theorem tellable_text : Tellable text := by
  intro v
  unfold text
  split
  · simp
  · simp
  · split <;> simp [Defect.unencodable?]
  · simp [Defect.unencodable?]

@[simp] theorem tellable_string : Tellable string := by
  intro v
  rw [string, brokenReason?_bind, tellable_text v]
  intro t
  cases t <;> simp [Defect.unencodable?]

theorem tellable_textThat {rule : String → Option Defect}
    (h : ∀ s d, rule s = some d → d.unencodable? = none) : Tellable (textThat rule) := by
  intro v
  rw [textThat, brokenReason?_bind, tellable_string v]
  intro s
  cases hrule : rule s with
  | none => rfl
  | some d => rw [brokenReason?_fail, h s d hrule]

@[simp] theorem tellable_nonEmptyText : Tellable nonEmptyText := by
  refine tellable_textThat fun s d h => ?_
  split at h
  · cases h
    rfl
  · cases h

theorem brokenReason?_wholeOfText {s : String} : (wholeOfText s).brokenReason? = none := by
  unfold wholeOfText
  dsimp only
  split
  · simp [Defect.unencodable?]
  · unfold strictWhole
    split
    split
    · simp [Defect.unencodable?]
    · split <;> simp [Defect.unencodable?]

theorem brokenReason?_wholeOfFloat {x : Float} : (wholeOfFloat x).brokenReason? = none := by
  unfold wholeOfFloat
  split
  · simp [Defect.unencodable?]
  · split
    · simp [Defect.unencodable?]
    · split <;> simp [Defect.unencodable?]

theorem tellable_whole : Tellable whole := by
  intro v
  unfold whole
  split <;> try simp [Defect.unencodable?, brokenReason?_wholeOfText, brokenReason?_wholeOfFloat]
  split <;> simp [Defect.unencodable?, brokenReason?_wholeOfText]

theorem unencodable?_of_defect? {b : Bounds} {n : Int} {d : Defect} (h : b.defect? n = some d) :
    d.unencodable? = none := by
  have hlow : ∀ {d}, Bounds.defect?.lowDefect? b n = some d → d.unencodable? = none := by
    intro d hd
    unfold Bounds.defect?.lowDefect? at hd
    split at hd <;> cases hd
    rfl
  unfold Bounds.defect? at h
  split at h
  · split at h
    · cases h
      rfl
    · exact hlow h
  · exact hlow h

@[simp] theorem tellable_wholeIn (b : Bounds) : Tellable (wholeIn b) := by
  intro v
  rw [wholeIn, brokenReason?_bind, tellable_whole v]
  intro n
  cases hdefect : b.defect? n with
  | none => rfl
  | some d => rw [brokenReason?_fail, unencodable?_of_defect? hdefect]

@[simp] theorem tellable_share : Tellable share := by
  intro v
  have hnumber : Tellable number := by
    intro v
    unfold number
    split <;> try simp [Defect.unencodable?]
    all_goals split <;> simp [Defect.unencodable?]
  rw [share, brokenReason?_bind, hnumber v]
  intro x
  split
  · simp [Defect.unencodable?]
  · split <;> simp [Defect.unencodable?]

@[simp] theorem tellable_truth : Tellable truth := by
  have hwhole : ∀ n, (truthOfWhole n).brokenReason? = none := by
    intro n
    unfold truthOfWhole
    split
    · simp
    · split <;> simp [Defect.unencodable?]
  have htext : ∀ s, (truthOfText s).brokenReason? = none := by
    intro s
    unfold truthOfText
    dsimp only
    split
    · simp
    · split <;> simp [Defect.unencodable?]
  intro v
  unfold truth
  split <;> try simp [Defect.unencodable?, htext]
  all_goals split <;> simp [Defect.unencodable?, hwhole, htext]

end Scalars

section Parts

theorem brokenReason?_record {name : String} {fields : List (Value × Value) → Checked α} :
    (record name fields (.map m)).brokenReason? = (fields m).brokenReason? := by
  unfold record
  dsimp only
  split <;> simp

theorem brokenReason?_record_of_not_map {name : String} {fields : List (Value × Value) → Checked α}
    (h : ∀ m, v ≠ .map m) : (record name fields v).brokenReason? = none := by
  cases v <;> first | exact absurd rfl (h _) | rfl

/-- A record is tellable if its fields are. -/
theorem tellable_record {name : String} {fields : List (Value × Value) → Checked α}
    (h : ∀ m, (fields m).brokenReason? = none) : Tellable (record name fields) := by
  intro v
  by_cases hmap : ∃ m, v = .map m
  · obtain ⟨m, rfl⟩ := hmap
    rw [brokenReason?_record, h]
  · exact brokenReason?_record_of_not_map fun m hm => hmap ⟨m, hm⟩

theorem brokenReason?_optional : (optional key absent check m).brokenReason? =
    (Value.entry? key m).bind fun v => (check v).brokenReason? := by
  unfold optional
  split <;> simp [*]

@[simp] theorem brokenReason?_optional_of_tellable (h : Tellable check) :
    (optional key absent check m).brokenReason? = none := by
  rw [brokenReason?_optional]
  cases Value.entry? key m with
  | none => rfl
  | some v => exact h v

@[simp] theorem brokenReason?_required_of_tellable (h : Tellable check) :
    (required key check m).brokenReason? = none := by
  rw [required, brokenReason?_under]
  split
  · exact h _
  · simp [Defect.unencodable?]

@[simp] theorem brokenReason?_noOthers : (noOthers known m).brokenReason? = none := by
  unfold noOthers
  dsimp only
  split
  · rfl
  · refine List.findSome?_eq_none_iff.mpr fun i hi => ?_
    obtain ⟨e, -, he⟩ := List.mem_filterMap.mp hi
    unfold keyIssue at he
    split at he
    · split at he <;> cases he
      rfl
    · cases he
      rfl

theorem brokenReason?_nullable (hnull : (check .null).brokenReason? = none) :
    (nullable check v).brokenReason? = (check v).brokenReason? := by
  unfold nullable
  split
  · rw [hnull]
    rfl
  · rw [brokenReason?_map]

@[simp] theorem Tellable.nullable (h : Tellable check) : Tellable (nullable check) := fun v =>
  (brokenReason?_nullable (h _)).trans (h v)

theorem brokenReason?_items : (items check v).brokenReason? =
    (members? v).bind fun xs => xs.findSome? fun x => (check x).brokenReason? := by
  unfold items
  split
  · rename_i h
    simp [h, Defect.unencodable?]
  · rename_i xs h
    have hzip : ∀ (ys : List Value) (k : Nat), (ys.zipIdx k).findSome?
        (fun e => (check e.1).brokenReason?) = ys.findSome? fun x => (check x).brokenReason? := by
      intro ys
      induction ys with
      | nil => exact fun _ => rfl
      | cons y ys ih => intro k; simp [List.zipIdx_cons, List.findSome?_cons, ih]
    rw [h, brokenReason?_all, List.findSome?_map]
    simpa [Function.comp_def] using hzip xs 0

theorem Tellable.items (h : Tellable check) : Tellable (items check) := by
  intro v
  rw [brokenReason?_items]
  cases members? v with
  | none => rfl
  | some xs => exact List.findSome?_eq_none_iff.mpr fun x _ => h x

@[simp] theorem Tellable.someItems (h : Tellable check) : Tellable (someItems check) := by
  intro v
  rw [Schema.someItems, brokenReason?_bind, h.items v]
  intro xs
  split <;> simp [Defect.unencodable?]

@[simp] theorem tellable_texts : Tellable texts := by
  intro v
  unfold texts
  split
  · rw [brokenReason?_map, brokenReason?_all]
    refine List.findSome?_eq_none_iff.mpr fun x hx => ?_
    obtain ⟨e, -, rfl⟩ := List.mem_map.mp hx
    simp [textEntry, tellable_text _]
  · simp [Defect.unencodable?]

end Parts

end Schema

open Schema

/-- A check ends in the failure to tell a reason if that is the first reason that cannot be
encoded. -/
theorem Failure.ofChecked_eq_unencodable_iff {α : Type} {x : Checked α} {b : BrokenText}
    (record : String) :
    Failure.ofChecked record x = .error (.unencodable b) ↔ x.brokenReason? = some b := by
  cases x with
  | accepted a => simp [Failure.ofChecked]
  | rejected is =>
    have hreason : (Checked.rejected is : Checked α).brokenReason? =
        is.findSome? fun i => i.defect.unencodable? := rfl
    rw [hreason, Failure.ofChecked, Failure.ofIssues]
    cases is.findSome? fun i => i.defect.unencodable? <;> simp

/-- A check ends in its issues, one of them a given one, if it finds that and can tell every
reason. -/
theorem Failure.exists_ofChecked_eq_invalid_iff {α : Type} {x : Checked α} {i : Issue}
    {record : String} :
    (∃ issues, Failure.ofChecked record x = .error (.invalid record issues) ∧ i ∈ issues) ↔
      i ∈ x.issues ∧ x.brokenReason? = none := by
  cases x with
  | accepted a => simp [Failure.ofChecked, Checked.issues]
  | rejected is =>
    have hreason : (Checked.rejected is : Checked α).brokenReason? =
        is.findSome? fun i => i.defect.unencodable? := rfl
    rw [hreason, Failure.ofChecked, Failure.ofIssues]
    cases is.findSome? fun i => i.defect.unencodable? <;> simp [Checked.issues]

end StreamMesh
