import StreamMesh.Proofs.Schema.Reason
import StreamMesh.Proofs.Spec

/-!
# Names of steps that cannot be told

The rule for the names of steps quotes the name that it refuses. A name in which a surrogate stands
is always refused, and what is to be said of it cannot be encoded. No other part of a pipeline has
such a reason.

## Main definitions

* `Step.brokenName?`, `Spec.brokenName?` — the first name of a step in which a surrogate stands
* `Step.nameReason` — what is to be said of it

## Main results

* `Spec.brokenReason?_check` — the first reason of a pipeline that cannot be encoded
-/

namespace StreamMesh

open Schema Schema.Checked

variable {v : Value} {m : List (Value × Value)} {t : BrokenText}

/-- The name of a step in a document, if a surrogate stands in it. -/
def Step.brokenName? : Value → Option BrokenText
  | .map m => match Value.entry? "name" m with
    | some (.brokenStr t) => some t
    | _ => none
  | _ => none

/-- The first name of a step in a document in which a surrogate stands. -/
def Spec.brokenName? : Value → Option BrokenText
  | .map m =>
    ((Value.entry? "steps" m).bind members?).bind fun steps => steps.findSome? Step.brokenName?
  | _ => none

/-- What is to be said of a name in which a surrogate stands. -/
def Step.nameReason (t : BrokenText) : BrokenText :=
  ⟨(Step.nameRule (.broken t)).points, by simp [Step.nameRule, t.broken]⟩

theorem Step.nameRule_broken : Step.nameRule (.broken t) = .broken (Step.nameReason t) :=
  RawText.points_injective rfl

theorem EnvEntry.tellable_check : Tellable EnvEntry.check := by
  have hvalue : Tellable fun v => (EnvEntry.valueText v).bind text := by
    intro v
    dsimp only
    rw [brokenReason?_bind fun a => tellable_text a]
    unfold valueText
    split <;> try rfl
    split <;> rfl
  exact tellable_record fun m => by simp [hvalue]

namespace Step

theorem brokenReason?_checkName_broken :
    (checkName (.brokenStr t)).brokenReason? = some (nameReason t) := by
  change (fail (.refused (nameRule (.broken t))) : Checked String).brokenReason? = _
  rw [nameRule_broken]
  rfl

/-- What is said of any other value as a name can be encoded. -/
theorem brokenReason?_checkName_of_ne (h : ∀ t, v ≠ .brokenStr t) :
    (checkName v).brokenReason? = none := by
  have hstring : ∀ s, (textThat nameDefect? (.str s)).brokenReason? = none := by
    refine fun s => tellable_textThat (fun s d hd => ?_) (.str s)
    unfold nameDefect? at hd
    split at hd <;> cases hd
    rfl
  cases v with
  | brokenStr t => exact absurd rfl (h t)
  | str s => exact hstring s
  | bytes data =>
    cases htext : textOfBytes? data with
    | none =>
      simp only [checkName, text, htext]
      rfl
    | some s =>
      simp only [checkName, text, htext]
      exact hstring s
  | _ => rfl

/-- A step has a reason that cannot be encoded exactly if its name cannot be. -/
theorem brokenReason?_check : (Step.check v).brokenReason? = (brokenName? v).map nameReason := by
  cases v with
  | map m =>
    have hname : (optional "name" none (nullable checkName) m).brokenReason? =
        (brokenName? (.map m)).map nameReason := by
      rw [brokenReason?_optional, brokenName?]
      cases Value.entry? "name" m with
      | none => rfl
      | some v =>
        rw [Option.bind_some, brokenReason?_nullable rfl]
        by_cases hv : ∃ t, v = .brokenStr t
        · obtain ⟨t, rfl⟩ := hv
          exact brokenReason?_checkName_broken
        · have hne : ∀ t, v ≠ .brokenStr t := fun t ht => hv ⟨t, ht⟩
          rw [brokenReason?_checkName_of_ne hne]
          cases v <;> first | exact absurd rfl (hne _) | rfl
    rw [Step.check, brokenReason?_record]
    simp [hname, EnvEntry.tellable_check.items]
  | _ => exact brokenReason?_record_of_not_map nofun

end Step

/-- The first reason of a pipeline that cannot be encoded is that for the first name of a step that
cannot be. -/
theorem Spec.brokenReason?_check :
    (Spec.check v).brokenReason? = (brokenName? v).map Step.nameReason := by
  cases v with
  | map m =>
    have hsteps : (optional "steps" none (nullable (items Step.check)) m).brokenReason? =
        (brokenName? (.map m)).map Step.nameReason := by
      rw [brokenReason?_optional, brokenName?]
      cases Value.entry? "steps" m with
      | none => rfl
      | some v =>
        rw [Option.bind_some, Option.bind_some, brokenReason?_nullable rfl, brokenReason?_items]
        cases members? v with
        | none => rfl
        | some xs =>
          simp only [Option.bind_some, Step.brokenReason?_check, List.map_findSome?]
          rfl
    rw [Spec.check, brokenReason?_record]
    simp [hsteps]
  | _ => exact brokenReason?_record_of_not_map nofun

end StreamMesh
