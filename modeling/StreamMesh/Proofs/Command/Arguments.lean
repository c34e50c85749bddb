import StreamMesh.Command.Invocation
import StreamMesh.Proofs.Failure

/-!
# What arguments can ask for

Options are looked at before a command is started. So a compilation is never asked for with a path
that holds a null character, and where no configuration is named, the one that is looked for is
always the same.

## Main definitions

* `CompileRequest.Accepted` — the requests that arguments can ask for

## Main results

* `Invocation.ofArguments_eq_compile` — what arguments ask for is accepted
-/

namespace StreamMesh

/-- A request that arguments can ask for. -/
structure CompileRequest.Accepted (r : CompileRequest) : Prop where
  output : Tree.holdsNull r.output = false
  /-- A configuration that is not asked for is looked for in one place. -/
  looked : r.configGiven = false → r.config = "./deployment.yaml"

namespace Invocation

variable {given : List Given} {name : OptionName} {v standard : String} {i : Invocation}
  {r : CompileRequest} {args : List String} {flags : List Flag}
  {request : List Given → Invocation}

theorem mem_of_value? (h : value? given name = some v) : ⟨name, v⟩ ∈ given := by
  obtain ⟨g, hg, rfl⟩ := Option.map_eq_some_iff.mp h
  have hname : g.name = name := eq_of_beq
    (List.find?_some (p := fun g : Given => g.name == name) hg)
  rw [← hname]
  exact List.mem_reverse.mp (List.mem_of_find?_eq_some hg)

/-- The value of an option with a path holds no null character, given or not. -/
theorem holdsNull_valueOr (hgiven : hasNullPath given = false) (hname : name ≠ .target)
    (hstandard : Tree.holdsNull standard = false) :
    Tree.holdsNull (valueOr given name standard) = false := by
  rw [valueOr]
  cases hv : value? given name with
  | none => exact hstandard
  | some v =>
    have hnull := List.any_eq_false.mp hgiven _ (mem_of_value? hv)
    simpa [hname] using hnull

/-- What is asked for at once is no command. -/
theorem eq_of_atOnce? (h : atOnce? given = some i) : i = help ∨ i = version := by
  obtain ⟨g, -, hg⟩ := List.exists_of_findSome?_eq_some h
  split at hg
  · exact .inl (Option.some.inj hg).symm
  · exact .inr (Option.some.inj hg).symm
  · cases hg

theorem accepted_compileOf (hgiven : hasNullPath given = false) (h : compileOf given = compile r) :
    r.Accepted := by
  obtain rfl := compile.inj h
  refine ⟨holdsNull_valueOr hgiven (by decide) (by decide), fun hnone => ?_⟩
  have hconfig : value? given .config = none := by
    dsimp only at hnone
    rw [← Option.not_isSome_iff_eq_none, hnone]
    exact Bool.false_ne_true
  simp only [valueOr, hconfig, Option.getD_none]

/-- A command is asked for by its options, or by one of the options that end everything. -/
theorem ofCommand_eq_ok (h : ofCommand flags request args = .ok i) :
    (i = help ∨ i = version) ∨ ∃ given, hasNullPath given = false ∧ i = request given := by
  obtain ⟨⟨given, others⟩, -, h⟩ := bind_eq_ok_iff.mp h
  dsimp only at h
  split at h
  · rename_i hi
    cases h
    exact .inl (eq_of_atOnce? hi)
  · split at h
    · cases h
    · rename_i hnull
      split at h
      · exact .inr ⟨given, Bool.eq_false_iff.mpr hnull, (Except.ok.inj h).symm⟩
      · cases h

theorem ofUnknown_eq_ok (h : ofUnknown v args = .ok i) : i = help ∨ i = version := by
  unfold ofUnknown at h
  split at h
  · obtain ⟨⟨given, others⟩, -, h⟩ := bind_eq_ok_iff.mp h
    dsimp only at h
    split at h
    · rename_i hi
      cases h
      exact eq_of_atOnce? hi
    · cases h
  · cases h

/-- What arguments ask for is accepted. -/
theorem ofArguments_eq_compile (h : ofArguments args = .ok (compile r)) : r.Accepted := by
  unfold ofArguments at h
  split at h
  · cases h
  · obtain ⟨⟨given, others⟩, -, h⟩ := bind_eq_ok_iff.mp h
    dsimp only at h
    split at h
    · rename_i hi
      cases h
      rcases eq_of_atOnce? hi with h | h <;> cases h
    · split at h
      · cases h
      · -- the name decides which options are read, and only one of the commands compiles
        split at h
        · rcases ofCommand_eq_ok h with (h | h) | ⟨given, hgiven, h⟩
          · cases h
          · cases h
          · exact accepted_compileOf hgiven h.symm
        · split at h
          · rcases ofCommand_eq_ok h with (h | h) | ⟨given, -, h⟩ <;> cases h
          · rcases ofUnknown_eq_ok h with h | h <;> cases h

end Invocation

end StreamMesh
