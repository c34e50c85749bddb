import StreamMesh.Proofs.Schema.Stable

/-!
# What a check reports, and where

The parts of a record are checked side by side, and each part reports its defects at its own place.
So what is reported under a key is what the check of its value reports, whatever the other keys
hold; only the keys that a record does not know are complained about by themselves.

## Main definitions

* `Checked.Reports` — a check reports a defect at a place

## Main results

* `Checked.reports_seq_iff`, `Checked.reports_all_iff` — checks side by side report what each
  reports
* `Schema.reports_optional_iff` — what is reported at a field
* `Schema.reports_items_iff` — what is reported at an item of a list
* `Schema.exists_getElem?_of_items` — what becomes of an item of a list
* `Schema.not_reports_noOthers` — a key that a record knows is not complained about itself
* `Schema.eq_of_optional_textThat` — what a field for a text holds
-/

namespace StreamMesh.Schema

variable {α β : Type} {d : Defect} {p q : Place} {place : List Place}

namespace Checked

/-- A check reports a defect at a place. -/
def Reports (x : Checked α) (place : List Place) (d : Defect) : Prop :=
  (⟨place, d⟩ : Issue) ∈ x.issues

variable {f : α → β} {g : Checked (α → β)} {x : Checked α} {y : Checked β} {a : α}

instance (x : Checked α) (place : List Place) (d : Defect) : Decidable (x.Reports place d) :=
  inferInstanceAs (Decidable (_ ∈ _))

theorem not_reports_accepted : ¬ (accepted a).Reports place d := List.not_mem_nil

theorem reports_fail_iff {d' : Defect} :
    (fail d' : Checked α).Reports place d ↔ place = [] ∧ d = d' := by
  simp [Reports, fail, issues]

theorem reports_map_iff : (f <$> x).Reports place d ↔ x.Reports place d := by
  cases x <;> rfl

theorem reports_seq_iff :
    (g <*> x).Reports place d ↔ g.Reports place d ∨ x.Reports place d := by
  rw [Reports, issues_seq, List.mem_append]
  rfl

theorem reports_seqLeft_iff :
    (x <* y).Reports place d ↔ x.Reports place d ∨ y.Reports place d := by
  have h : x <* y = Function.const β <$> x <*> y := rfl
  rw [h, reports_seq_iff, reports_map_iff]

/-- Below a step, the defects of a check are those at places that start with the step. -/
theorem reports_under_cons_iff :
    (x.under q).Reports (p :: place) d ↔ p = q ∧ x.Reports place d := by
  cases x with
  | accepted a => simp [under, not_reports_accepted]
  | rejected is =>
    simp only [under, Reports, issues, List.mem_map, Issue.mk.injEq, List.cons.injEq]
    constructor
    · rintro ⟨⟨_, _⟩, hi, ⟨rfl, rfl⟩, rfl⟩
      exact ⟨rfl, hi⟩
    · rintro ⟨rfl, hi⟩
      exact ⟨_, hi, ⟨rfl, rfl⟩, rfl⟩

theorem reports_all_iff {xs : List (Checked α)} :
    (all xs).Reports place d ↔ ∃ x ∈ xs, x.Reports place d := by
  induction xs with
  | nil => simp [all, not_reports_accepted]
  | cons x xs ih => rw [all, reports_seq_iff, reports_map_iff, ih, List.exists_mem_cons_iff]

/-- A check that is spoiled reports that, and the reasons that cannot be encoded. -/
theorem reports_spoiled_iff : x.spoiled.Reports place d ↔
    (x.Reports place d ∧ d.unencodable?.isSome) ∨ place = [] ∧ d = .illFormedText := by
  cases x <;> simp [spoiled, fail, Reports, issues]

end Checked

open Checked

variable {check : Value → Checked α} {absent : α} {entries : List (Value × Value)}
  {key : String} {known : List String} {v : Value}

/-- With a broken key a record reports of its parts no more than the reasons that cannot be
encoded. -/
theorem reports_record_iff {record : String} {fields : List (Value × Value) → Checked α} :
    (Schema.record record fields (.map entries)).Reports (p :: place) d ↔
      (fields entries).Reports (p :: place) d ∧
        (hasBrokenKey entries = false ∨ d.unencodable?.isSome) := by
  unfold Schema.record
  dsimp only
  cases hasBrokenKey entries with
  | false => simp
  | true => simp [reports_spoiled_iff]

/-- An optional field that is there is reported on like its value. -/
theorem reports_optional_iff (h : Value.entry? key entries = some v) :
    (Schema.optional key absent check entries).Reports (p :: place) d ↔
      p = .key key ∧ (check v).Reports place d := by
  rw [Schema.optional, h]
  exact reports_under_cons_iff

/-- Nothing is reported of a field at the place of another. -/
theorem not_reports_optional (h : p ≠ .key key) :
    ¬ (Schema.optional key absent check entries).Reports (p :: place) d := by
  unfold Schema.optional
  split
  · exact fun hreports => h (reports_under_cons_iff.mp hreports).1
  · exact not_reports_accepted

theorem not_reports_required (h : p ≠ .key key) :
    ¬ (required key check entries).Reports (p :: place) d :=
  fun hreports => h (reports_under_cons_iff.mp hreports).1

/-- Of keys that a record does not know it is reported that they are there, or that they are no
texts. What is shown of a key of bytes starts like no field. -/
theorem place_of_reports_noOthers (h : (noOthers known entries).Reports (p :: place) d) :
    place = [] ∧ (d = .unexpected ∧
      ((∀ key ∈ known, p ≠ .key key) ∨ ∃ data, p = Place.ofKey (.bytes data)) ∨ d = .badKey) := by
  -- each issue is that of one key
  have hmem : (⟨p :: place, d⟩ : Issue) ∈ entries.filterMap fun e =>
      keyIssue (known.filter fun name => (Value.entry? name entries).isSome) e.1 := by
    unfold noOthers at h
    dsimp only at h
    split at h
    · exact absurd h not_reports_accepted
    · exact h
  obtain ⟨⟨k, v⟩, hentry, hissue⟩ := List.mem_filterMap.mp hmem
  dsimp only [keyIssue] at hissue
  split at hissue
  · rename_i s hs
    split at hissue
    · cases hissue
    · rename_i hgiven
      cases hissue
      refine ⟨rfl, .inl ⟨rfl, ?_⟩⟩
      rw [List.contains_iff_mem, List.mem_filter] at hgiven
      cases k with
      | str t =>
        refine .inl ?_
        rintro _ hknown heq
        cases heq
        cases hs
        exact hgiven ⟨hknown, isSome_entry?_of_mem hentry⟩
      | bytes data => exact .inr ⟨data, rfl⟩
      | _ => cases hs
  · cases hissue
    exact ⟨rfl, .inr rfl⟩

/-- What is shown of a key of bytes. -/
theorem ofKey_bytes_ne (h : key.toList.take 2 ≠ ['b', '\'']) (data : List UInt8) :
    Place.key key ≠ Place.ofKey (.bytes data) := by
  intro heq
  have hkey : key = Value.inner (.bytes data) := Place.key.inj heq
  refine h ?_
  rw [hkey, Value.inner]
  simp

/-- Of a key that a record knows nothing is reported but its value. A key that is no text is shown
as one, so it can stand at the same place. -/
theorem not_reports_noOthers (hkey : key ∈ known) (hshown : key.toList.take 2 ≠ ['b', '\''])
    (hd : d ≠ .badKey) : ¬ (noOthers known entries).Reports (.key key :: place) d := by
  intro h
  rcases (place_of_reports_noOthers h).2 with ⟨-, hknown | ⟨data, hbytes⟩⟩ | hbad
  · exact hknown key hkey rfl
  · exact ofKey_bytes_ne hshown data hbytes
  · exact hd hbad

/-- Among keys that a record knows, all are strings. -/
theorem hasBrokenKey_of_noOthers (h : noOthers known entries = accepted ()) :
    hasBrokenKey entries = false := by
  have hissues : (entries.filterMap fun e =>
      keyIssue (known.filter fun name => (Value.entry? name entries).isSome) e.1) = [] := by
    unfold noOthers at h
    dsimp only at h
    split at h
    · assumption
    · cases h
  refine List.any_eq_false.mpr fun e he => ?_
  have hissue := List.filterMap_eq_nil_iff.mp hissues e he
  obtain ⟨k, v⟩ := e
  cases k with
  | brokenStr t => cases hissue
  | _ => exact Bool.false_ne_true

/-- A value that is there is reported on by its check. -/
theorem reports_nullable_iff (h : v ≠ .null) :
    (nullable check v).Reports place d ↔ (check v).Reports place d := by
  unfold nullable
  split
  · exact absurd rfl h
  · exact reports_map_iff

theorem reports_nullable_str_iff {s : String} :
    (nullable check (.str s)).Reports place d ↔ (check (.str s)).Reports place d :=
  reports_map_iff

/-- An item of a list is reported on at its position. -/
theorem reports_items_iff {xs : List Value} (h : members? v = some xs) {k : Nat} {x : Value}
    (hx : xs[k]? = some x) :
    (items check v).Reports (.index k :: place) d ↔ (check x).Reports place d := by
  rw [items, h]
  dsimp only
  rw [reports_all_iff]
  constructor
  · rintro ⟨_, hmem, hreports⟩
    obtain ⟨⟨y, i⟩, hy, rfl⟩ := List.mem_map.mp hmem
    obtain ⟨hplace, hreports⟩ := reports_under_cons_iff.mp hreports
    -- the position tells which item it is
    have hi : xs[i]? = some y := List.mem_zipIdx_iff_getElem?.mp hy
    obtain rfl : k = i := Int.ofNat_inj.mp (Place.index.inj hplace)
    rw [hx, Option.some.injEq] at hi
    exact hi ▸ hreports
  · intro hreports
    have hmem : (x, k) ∈ xs.zipIdx := List.mem_zipIdx_iff_getElem?.mpr hx
    exact ⟨_, List.mem_map_of_mem hmem, reports_under_cons_iff.mpr ⟨rfl, hreports⟩⟩

section Accepted

variable {a : α}

/-- An optional field that is there and passes has passed its check. -/
theorem of_optional_of_entry (h : Value.entry? key entries = some v)
    (ha : Schema.optional key absent check entries = accepted a) : check v = accepted a := by
  rw [Schema.optional, h] at ha
  exact under_eq_accepted_iff.mp ha

theorem exists_of_nullable_of_ne {given : Option α} (h : v ≠ .null)
    (hgiven : nullable check v = accepted given) : ∃ a, given = some a ∧ check v = accepted a := by
  unfold nullable at hgiven
  split at hgiven
  · exact absurd rfl h
  · obtain ⟨a, ha, rfl⟩ := map_eq_accepted_iff.mp hgiven
    exact ⟨a, rfl, ha⟩

/-- An item of a list that passes has passed, and keeps its position. -/
theorem exists_getElem?_of_items {xs : List Value} {as : List α} (h : members? v = some xs)
    {k : Nat}
    {x : Value} (hx : xs[k]? = some x) (has : items check v = accepted as) :
    ∃ a, as[k]? = some a ∧ check x = accepted a := by
  rw [items, h] at has
  dsimp only at has
  have hk := congrArg (·[k]?) (all_eq_accepted_iff.mp has)
  simp only [List.getElem?_map, List.getElem?_zipIdx, hx, Option.map_some] at hk
  obtain ⟨a, ha, hchecked⟩ := Option.map_eq_some_iff.mp hk.symm
  exact ⟨a, ha, under_eq_accepted_iff.mp hchecked.symm⟩

end Accepted

section Text

variable {rule : String → Option Defect} {s t : String}

theorem textThat_str (rule : String → Option Defect) (s : String) :
    textThat rule (.str s) = match rule s with
      | none => accepted s
      | some d => fail d := rfl

/-- A text is reported on by the rule that it has to pass. -/
theorem reports_textThat_iff :
    (textThat rule (.str s)).Reports place d ↔ place = [] ∧ rule s = some d := by
  rw [textThat_str]
  cases rule s with
  | none => simp [not_reports_accepted]
  | some d' => simp [reports_fail_iff, eq_comm]

theorem textThat_str_eq_accepted_iff :
    textThat rule (.str s) = accepted t ↔ s = t ∧ rule s = none := by
  rw [textThat_str]
  cases rule s with
  | none => simp
  | some d' => simp [fail]

/-- A field for a text that passes holds the text that is there. -/
theorem eq_of_optional_textThat (h : Value.entry? key entries = some (.str s)) {absent : String}
    (ht : Schema.optional key absent (textThat rule) entries = accepted t) : t = s ∧
      rule s = none := by
  obtain ⟨rfl, hrule⟩ := textThat_str_eq_accepted_iff.mp (of_optional_of_entry h ht)
  exact ⟨rfl, hrule⟩

theorem eq_of_optional_nullable_textThat (h : Value.entry? key entries = some (.str s))
    {absent given : Option String}
    (hgiven : Schema.optional key absent (nullable (textThat rule)) entries = accepted given) :
    given = some s ∧ rule s = none := by
  obtain ⟨t, rfl, ht⟩ := exists_of_nullable_of_ne (v := .str s)
    nofun (of_optional_of_entry h hgiven)
  obtain ⟨rfl, hrule⟩ := textThat_str_eq_accepted_iff.mp ht
  exact ⟨rfl, hrule⟩

end Text

end StreamMesh.Schema
