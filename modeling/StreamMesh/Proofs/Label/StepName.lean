import StreamMesh.Proofs.Label.Grammar
import StreamMesh.Proofs.Schema.Report

/-!
# The names that steps may have

What the check of a step says of its name, whatever else the step holds. It is meant to ask for a
label, and does so up to one character: a line feed behind a label is passed over, so it ends up in
the names of objects and of their files.

## Main results

* `Step.reports_name_iff` — what is reported of a step's name
* `Step.check_name_iff` — which texts a step takes for its name
* `Step.line_taken` — a name that is taken and is no label
-/

namespace StreamMesh

open Schema Schema.Checked

namespace Step

variable {m : List (Value × Value)} {name : String} {d : Defect} {s : Step}

theorem connectionKey_cases (m : List (Value × Value)) :
    connectionKey m = "connectsTo" ∨ connectionKey m = "connects_to" := by
  unfold connectionKey
  split
  · exact .inr rfl
  · exact .inl rfl

/-- A string is a step's name if no rule refuses it. -/
theorem checkName_str (name : String) :
    checkName (.str name) = textThat nameDefect? (.str name) := rfl

/-- Of a step's name nothing but the rule for names is reported; a complaint about another key, one
that is no text, can stand at the same place. -/
theorem reports_name_iff (h : Value.entry? "name" m = some (.str name)) (hd : d ≠ .badKey) :
    (Step.check (.map m)).Reports [.key "name"] d ↔
      ¬ Nameable name ∧ d = .refused (nameRule name) ∧ hasBrokenKey m = false := by
  have hconnection : Place.key "name" ≠ .key (connectionKey m) := by
    rcases connectionKey_cases m with h | h <;> rw [h] <;> decide
  have hothers : ¬ (noOthers ["name", "kind", connectionKey m, "env"] m).Reports [.key "name"] d :=
    not_reports_noOthers (List.mem_cons_self ..) (by decide) hd
  have hname : (nullable checkName (.str name)).Reports [] d ↔
      ¬ Nameable name ∧ d = .refused (nameRule name) := by
    rw [reports_nullable_str_iff, checkName_str, reports_textThat_iff, ← nameDefect?_eq_none_iff,
      nameDefect?]
    split <;> simp [eq_comm]
  -- what is said of the name is a string, so a broken key would hide it
  have hshown : d = .refused (nameRule name) → d.unencodable? = none := by
    rintro rfl
    rfl
  simp only [Step.check, reports_record_iff, reports_seqLeft_iff, reports_seq_iff, reports_map_iff,
    reports_optional_iff h, not_reports_optional hconnection, hothers, hname, or_false, true_and,
    not_reports_optional (show Place.key "name" ≠ .key "kind" by decide),
    not_reports_optional (show Place.key "name" ≠ .key "env" by decide)]
  constructor
  · rintro ⟨⟨hrefused, rfl⟩, hkeys | hreason⟩
    · exact ⟨hrefused, rfl, hkeys⟩
    · rw [hshown rfl] at hreason
      cases hreason
  · rintro ⟨hrefused, rfl, hkeys⟩
    exact ⟨⟨hrefused, rfl⟩, .inl hkeys⟩

/-- A step that passes its check has the name that its document gives it. -/
theorem name_of_check (h : Value.entry? "name" m = some (.str name))
    (hs : Step.check (.map m) = .accepted s) : s.name = some name ∧ Nameable name := by
  obtain ⟨_, hentries, -, hs⟩ := record_eq_accepted_iff.mp hs
  cases hentries
  simp only [seqLeft_eq_accepted_iff, seq_eq_accepted_iff, map_eq_accepted_iff] at hs
  obtain ⟨⟨_, _, ⟨_, _, ⟨_, _, ⟨given, hgiven, rfl⟩, -, rfl⟩, -, rfl⟩, -, rfl⟩, -⟩ := hs
  obtain ⟨t, rfl, ht⟩ := exists_of_nullable_of_ne (v := .str name) nofun
    (of_optional_of_entry h hgiven)
  rw [checkName_str, textThat_str_eq_accepted_iff] at ht
  obtain ⟨rfl, hrule⟩ := ht
  exact ⟨rfl, nameDefect?_eq_none_iff.mp hrule⟩

/-- A step of nothing but a name. -/
theorem check_name_only (name : String) : Step.check (.map [(.str "name", .str name)]) =
    match nameDefect? name with
    | none => .accepted ⟨some name, none, none, []⟩
    | some d => .rejected [⟨[.key "name"], d⟩] := by
  have hkey : connectionKey [(.str "name", .str name)] = "connectsTo" := by
    simp [connectionKey, Value.entry?]
  have hname : nullable checkName (.str name) = some <$> match nameDefect? name with
    | none => accepted name
    | some d => fail d := rfl
  rw [Step.check, record_map rfl, hkey, optional_cons_self, hname]
  cases nameDefect? name <;> simp [fail, under, Schema.optional, Value.entry?]

/-- Which texts a step takes for its name. The name of a step, among whatever else its document
holds, is complained about exactly if it is neither empty, nor a label, nor a label of less than 63
characters with a line feed behind it, unless a key that is no string hides the complaint; and a
step that passes has the name that it was given. A step of nothing but a name passes exactly if the
name does. A name that is taken holds no other characters than those of labels and that line
feed. -/
theorem check_name_iff (name : String) :
    (∀ m, Value.entry? "name" m = some (.str name) →
      (∀ d ≠ .badKey, (Step.check (.map m)).Reports [.key "name"] d ↔
        ¬ Nameable name ∧ d = .refused (nameRule name) ∧ hasBrokenKey m = false) ∧
      ∀ s, Step.check (.map m) = .accepted s → s.name = some name ∧ Nameable name) ∧
    (Step.check (.map [(.str "name", .str name)]) = .accepted ⟨some name, none, none, []⟩ ↔
      Nameable name) ∧
    (Nameable name ↔ name = "" ∨ Label.IsDnsLabel name ∨
      ∃ label, name = label ++ "\n" ∧ Label.IsDnsLabel label ∧ label.length < 63) ∧
    (Nameable name → FileSafe name ∧
      ∀ c ∈ name.toList, Label.IsAlphanumeric c ∨ c = '-' ∨ c = '\n') := by
  refine ⟨fun m h => ⟨fun d hd => reports_name_iff h hd, fun s => name_of_check h⟩, ?_, ?_, ?_⟩
  · rw [check_name_only, ← nameDefect?_eq_none_iff]
    cases nameDefect? name <;> simp
  · exact nameable_iff
  · intro h
    have hparts : ∀ c ∈ name.toList, Label.IsAlphanumeric c ∨ c = '-' ∨ c = '\n' := by
      cases h with
      | empty => nofun
      | label h => exact fun c hc => (h.chars c hc).imp_right .inl
      | @line label h _ =>
        rw [String.toList_append, List.forall_mem_append]
        exact ⟨fun c hc => (h.chars c hc).imp_right .inl, fun c hc =>
          .inr (.inr (by simpa using hc))⟩
    -- neither separator of paths is among these characters
    exact ⟨⟨fun hc => absurd (hparts _ hc) (by decide), fun hc => absurd (hparts _ hc) (by decide)⟩,
      hparts⟩

/-- A step that is named with a capital letter, and one that is named by a label. -/
theorem check_name_iff_letters :
    (Step.check (.map [(.str "kind", .str "sink"), (.str "name", .str "Out")])).Reports
      [.key "name"] (.refused (nameRule "Out")) ∧
    Step.check (.map [(.str "name", .str "out-2")]) = .accepted ⟨some "out-2", none, none, []⟩ ∧
    FileSafe "out-2" := by
  have hout : Nameable "out-2" := .label (by decide +kernel)
  have hcapital : ¬ Nameable "Out" := by
    rw [← nameDefect?_eq_none_iff]
    decide +kernel
  refine ⟨?_, (check_name_iff "out-2").2.1.mpr hout, ((check_name_iff "out-2").2.2.2 hout).1⟩
  have hreported := ((check_name_iff "Out").1
    [(.str "kind", .str "sink"), (.str "name", .str "Out")] (by simp [Value.entry?])).1
    (.refused (nameRule "Out")) nofun
  exact hreported.mpr ⟨hcapital, rfl, rfl⟩

/-- A label with a line feed behind it is no label, and is taken for the name of a step. -/
theorem line_taken :
    Step.check (.map [(.str "name", .str "ab\n")]) = .accepted ⟨some "ab\n", none, none, []⟩ ∧
    "ab\n" ≠ "" ∧ ¬ Label.IsDnsLabel "ab\n" ∧ '\n' ∈ "ab\n".toList := by
  have hrule : nameDefect? "ab\n" = none := by decide +kernel
  refine ⟨by rw [check_name_only, hrule], by decide, ?_, by decide⟩
  exact fun h => Label.not_hyphenated_append_newline (t := "ab") h.toHyphenated

end Step

end StreamMesh
