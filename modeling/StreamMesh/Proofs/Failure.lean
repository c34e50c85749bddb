import StreamMesh.Failure

/-!
# Steps that can fail

Steps in a row succeed exactly where each of them does, and fail with the failure of the first that
does not.

## Main results

* `bind_eq_ok_iff`, `bind_eq_error_iff`, `bind_ne_error` — two steps in a row
* `Failure.ofFault_eq_ok_iff`, `Failure.ofFault_eq_error_iff`, `Failure.ofChecked_eq_ok_iff`,
  `Failure.ofChecked_eq_error_iff` — steps with failures of other kinds
-/

namespace StreamMesh

section Bind

variable {ε α β : Type} {x : Except ε α} {next : α → Except ε β} {e : ε} {b : β}

theorem bind_eq_ok_iff : (x >>= next) = .ok b ↔ ∃ a, x = .ok a ∧ next a = .ok b := by
  cases x <;> simp [bind, Except.bind]

theorem bind_eq_error_iff :
    (x >>= next) = .error e ↔ x = .error e ∨ ∃ a, x = .ok a ∧ next a = .error e := by
  cases x <;> simp [bind, Except.bind]

/-- Two steps in a row do not fail with what neither of them fails with. -/
theorem bind_ne_error (hx : x ≠ .error e) (hnext : ∀ a, next a ≠ .error e) :
    (x >>= next) ≠ .error e := by
  intro h
  rcases bind_eq_error_iff.mp h with h | ⟨a, -, h⟩
  · exact hx h
  · exact hnext a h

end Bind

namespace Failure

variable {α : Type} {a : α} {f : Failure}

theorem ofFault_eq_ok_iff {x : Except Fault α} : ofFault x = .ok a ↔ x = .ok a := by
  cases x <;> simp [ofFault]

theorem ofFault_eq_error_iff {x : Except Fault α} :
    ofFault x = .error f ↔ ∃ e, x = .error e ∧ f = .fault e := by
  cases x <;> simp [ofFault, eq_comm]

theorem ofChecked_eq_ok_iff {record : String} {x : Schema.Checked α} :
    ofChecked record x = .ok a ↔ x = .accepted a := by
  cases x <;> simp [ofChecked]

theorem ofChecked_eq_error_iff {record : String} {x : Schema.Checked α} :
    ofChecked record x = .error f ↔ ∃ issues, x = .rejected issues ∧
      f = ofIssues record issues := by
  cases x <;> simp [ofChecked, eq_comm]

/-- Issues whose reasons can be encoded are told as they are. -/
theorem ofIssues_eq_invalid {record : String} {issues : List Schema.Issue}
    (h : ∀ i ∈ issues, i.defect.unencodable? = none) : ofIssues record issues =
      invalid record issues := by
  rw [ofIssues, List.findSome?_eq_none_iff.mpr h]

end Failure

end StreamMesh
