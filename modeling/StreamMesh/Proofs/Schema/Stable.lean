import StreamMesh.Proofs.Assoc
import StreamMesh.Schema.Check

/-!
# Checks of what was accepted before

A value that a check has accepted can be written out and checked once more. A check is stable if it
then accepts the same value, so that settings survive being read, written and read again. Every
check of a scalar is stable, and lists, mappings and optional fields inherit this from their parts.

## Main definitions

* `Schema.Stable` — what a check accepts, it accepts again when written out

## Main results

* `Schema.stable_textThat`, `Schema.stable_wholeIn`, `Schema.stable_share`, `Schema.stable_truth` —
  scalars
* `Schema.Stable.someItems`, `Schema.stable_texts` — lists and mappings
* `Schema.Stable.optional` — a field that may be absent
-/

namespace StreamMesh.Schema

variable {α β : Type}

namespace Checked

variable {f : α → β} {g : Checked (α → β)} {x : Checked α} {a : α} {b : β}

/-- Checks side by side find the issues of both. -/
theorem issues_seq : (g <*> x).issues = g.issues ++ x.issues := by
  cases g <;> cases x <;> simp [issues, Seq.seq, Checked.seq]

theorem map_eq_accepted_iff : f <$> x = accepted b ↔ ∃ a, x = accepted a ∧ f a = b := by
  have h : f <$> x = Checked.seq (accepted f) x := rfl
  rw [h, seq_accepted_iff]
  simp

theorem seq_eq_accepted_iff :
    g <*> x = accepted b ↔ ∃ f a, g = accepted f ∧ x = accepted a ∧ f a = b :=
  seq_accepted_iff

theorem seqLeft_eq_accepted_iff {y : Checked β} :
    x <* y = accepted a ↔ x = accepted a ∧ ∃ b, y = accepted b := by
  have h : x <* y = Function.const β <$> x <*> y := rfl
  rw [h, seq_eq_accepted_iff]
  simp only [map_eq_accepted_iff]
  constructor
  · rintro ⟨_, b, ⟨a', hx, rfl⟩, hy, rfl⟩
    exact ⟨hx, b, hy⟩
  · rintro ⟨hx, b, hy⟩
    exact ⟨_, b, ⟨a, hx, rfl⟩, hy, rfl⟩

@[simp] theorem map_accepted (f : α → β) (a : α) : f <$> accepted a = accepted (f a) := rfl

@[simp] theorem seq_accepted (f : α → β) (a : α) : accepted f <*> accepted a = accepted (f a) := rfl

@[simp] theorem seqLeft_accepted (a : α) (b : β) : accepted a <* accepted b = accepted a := rfl

@[simp] theorem map_rejected (f : α → β) (is : List Issue) :
    f <$> (rejected is : Checked α) = rejected is := rfl

@[simp] theorem seq_rejected_accepted (is : List Issue) (a : α) :
    (rejected is : Checked (α → β)) <*> accepted a = rejected is := rfl

@[simp] theorem seqLeft_rejected_accepted (is : List Issue) (b : β) :
    (rejected is : Checked α) <* accepted b = rejected is := rfl

theorem bind_eq_accepted_iff {k : α → Checked β} :
    x.bind k = accepted b ↔ ∃ a, x = accepted a ∧ k a = accepted b := by
  cases x <;> simp [Checked.bind]

@[simp] theorem under_accepted (p : Place) (a : α) : (accepted a).under p = accepted a := rfl

theorem under_eq_accepted_iff {p : Place} : x.under p = accepted a ↔ x = accepted a := by
  cases x <;> simp [under]

theorem all_eq_accepted_iff {xs : List (Checked α)} {as : List α} :
    all xs = accepted as ↔ xs = as.map accepted := by
  induction xs generalizing as with
  | nil =>
    rw [all, accepted.injEq]
    cases as <;> simp
  | cons x rest ih =>
    rw [all, seq_eq_accepted_iff]
    simp only [map_eq_accepted_iff]
    constructor
    · rintro ⟨_, as', ⟨a, hx, rfl⟩, hrest, rfl⟩
      rw [List.map_cons, hx, ih.mp hrest]
    · intro h
      obtain ⟨a, as', rfl, hx, hrest⟩ := List.map_eq_cons_iff.mp h.symm
      exact ⟨_, as', ⟨a, hx.symm, rfl⟩, ih.mpr hrest.symm, rfl⟩

end Checked

open Checked

variable {check : Value → Checked α} {write : α → Value} {entries : List (Value × Value)}
  {key name : String} {a absent : α} {v : Value}

section Written

@[simp] theorem hasBrokenKey_nil : hasBrokenKey [] = false := by simp [hasBrokenKey]

@[simp] theorem hasBrokenKey_str_cons (s : String) :
    hasBrokenKey ((.str s, v) :: entries) = hasBrokenKey entries := by
  simp [hasBrokenKey, isBrokenKey]

/-- A record without broken keys is what its fields are. -/
@[simp] theorem record_map {fields : List (Value × Value) → Checked α}
    (h : hasBrokenKey entries = false) : record name fields (.map entries) = fields entries := by
  rw [record, h, if_neg Bool.false_ne_true]

@[simp] theorem optional_cons_self : optional key absent check ((.str key, v) :: entries) =
    (check v).under (.key key) := by
  simp [Schema.optional, Value.entry?]

@[simp] theorem optional_cons_of_ne (h : name ≠ key) :
    optional key absent check ((.str name, v) :: entries) = optional key absent check entries := by
  simp [Schema.optional, Value.entry?, h]

@[simp] theorem required_cons_self : required key check ((.str key, v) :: entries) =
    (check v).under (.key key) := by
  simp [required, Value.entry?]

@[simp] theorem required_cons_of_ne (h : name ≠ key) :
    required key check ((.str name, v) :: entries) = required key check entries := by
  simp [required, Value.entry?, h]

theorem isSome_entry?_of_mem (h : (Value.str key, v) ∈ entries) :
    (Value.entry? key entries).isSome := by
  induction entries with
  | nil => exact absurd h List.not_mem_nil
  | cons e rest ih =>
    obtain ⟨k, w⟩ := e
    rcases List.mem_cons.mp h with heq | hrest
    · cases heq
      simp [Value.entry?]
    · cases k with
      | str s =>
        by_cases hs : s = key
        · simp [Value.entry?, hs]
        · simpa [Value.entry?, hs] using ih hrest
      | _ => exact ih hrest

/-- A record that holds nothing but its fields has no others. -/
@[simp] theorem noOthers_of_known {known : List String}
    (h : ∀ e ∈ entries, ∃ s ∈ known, e.1 = .str s) : noOthers known entries = .accepted () := by
  have hnone : (entries.filterMap fun e =>
      keyIssue (known.filter fun name => (Value.entry? name entries).isSome) e.1) = [] := by
    rw [List.filterMap_eq_nil_iff]
    rintro ⟨k, w⟩ he
    obtain ⟨s, hs, rfl⟩ : ∃ s ∈ known, k = .str s := h _ he
    have hgiven : (known.filter fun name => (Value.entry? name entries).isSome).contains s := by
      rw [List.contains_iff_mem, List.mem_filter]
      exact ⟨hs, isSome_entry?_of_mem he⟩
    simp only [keyIssue, keyText?]
    rw [if_pos hgiven]
  rw [noOthers, hnone]

end Written

section Accepted

theorem spoiled_ne_accepted {x : Checked α} : x.spoiled ≠ .accepted a := by
  cases x <;> exact nofun

/-- A record that passes has no broken keys. -/
theorem record_eq_accepted_iff {fields : List (Value × Value) → Checked α} :
    record name fields v = .accepted a ↔ ∃ entries, v = .map entries ∧
      hasBrokenKey entries = false ∧ fields entries = .accepted a := by
  constructor
  · intro h
    unfold record at h
    split at h
    · split at h
      · exact absurd h spoiled_ne_accepted
      · rename_i entries hkeys
        exact ⟨entries, rfl, Bool.eq_false_iff.mpr hkeys, h⟩
    · cases h
  · rintro ⟨entries, rfl, hkeys, h⟩
    rw [record_map hkeys, h]

/-- A required field that passes is there. -/
theorem exists_of_required (h : required key check entries = .accepted a) :
    ∃ v, Value.entry? key entries = some v ∧ check v = .accepted a := by
  rw [required, under_eq_accepted_iff] at h
  split at h
  · exact ⟨_, by assumption, h⟩
  · cases h

/-- An optional field that passes is absent, or passes its check. -/
theorem absent_or_exists_of_optional (h : optional key absent check entries = .accepted a) :
    a = absent ∨ ∃ v, check v = .accepted a := by
  unfold optional at h
  split at h
  · exact .inr ⟨_, under_eq_accepted_iff.mp h⟩
  · cases h
    exact .inl rfl

theorem none_or_exists_of_nullable {a : Option α} (h : nullable check v = .accepted a) :
    a = none ∨ ∃ v b, a = some b ∧ check v = .accepted b := by
  unfold nullable at h
  split at h
  · cases h
    exact .inl rfl
  · obtain ⟨b, hb, rfl⟩ := map_eq_accepted_iff.mp h
    exact .inr ⟨_, b, rfl, hb⟩

theorem rule_of_textThat {rule : String → Option Defect} {s : String}
    (h : textThat rule v = .accepted s) : rule s = none := by
  obtain ⟨s', -, hs⟩ := bind_eq_accepted_iff.mp h
  split at hs
  · cases hs
    assumption
  · cases hs

/-- All items of a list that passes have passed. -/
theorem exists_of_mem_items {as : List α} (h : items check v = .accepted as) (ha : a ∈ as) :
    ∃ v, check v = .accepted a := by
  unfold items at h
  split at h
  · cases h
  · rename_i xs _
    have hmem : accepted a ∈ as.map accepted := List.mem_map_of_mem ha
    rw [← all_eq_accepted_iff.mp h] at hmem
    obtain ⟨⟨x, i⟩, -, hx⟩ := List.mem_map.mp hmem
    exact ⟨x, under_eq_accepted_iff.mp hx⟩

end Accepted

/-- What a check accepts, it accepts again when written out. -/
def Stable (check : Value → Checked α) (write : α → Value) : Prop :=
  ∀ ⦃v a⦄, check v = .accepted a → check (write a) = .accepted a

section Scalars

@[simp] theorem text_ofRaw (t : RawText) : text (.ofRaw t) = .accepted t := by cases t <;> rfl

theorem stable_text : Stable text .ofRaw := fun _ _ _ => text_ofRaw _

theorem stable_textThat (rule : String → Option Defect) : Stable (textThat rule) .str := by
  intro v s h
  refine bind_eq_accepted_iff.mpr ⟨s, rfl, ?_⟩
  rw [rule_of_textThat h]

theorem stable_nonEmptyText : Stable nonEmptyText .str := stable_textThat _

theorem stable_wholeIn (b : Bounds) : Stable (wholeIn b) .int := by
  intro v n h
  obtain ⟨n', -, hn⟩ := bind_eq_accepted_iff.mp h
  refine bind_eq_accepted_iff.mpr ⟨n, rfl, ?_⟩
  cases hrule : b.defect? n' with
  | none =>
    rw [hrule] at hn
    cases hn
    rw [hrule]
  | some d =>
    rw [hrule] at hn
    cases hn

theorem stable_share : Stable share .float := by
  intro v x h
  obtain ⟨x', -, hx⟩ := bind_eq_accepted_iff.mp h
  refine bind_eq_accepted_iff.mpr ⟨x, rfl, ?_⟩
  split at hx
  · cases hx
  · split at hx
    · cases hx
    · rename_i hlow hhigh
      cases hx
      rw [if_neg hlow, if_neg hhigh]

theorem stable_truth : Stable truth .bool := fun _ _ _ => rfl

end Scalars

section Parts

theorem items_map_write {as : List α} (h : ∀ a ∈ as, check (write a) = .accepted a) :
    items check (.list (as.map write)) = .accepted as := by
  rw [items, members?]
  refine all_eq_accepted_iff.mpr ?_
  -- the index of an item only places its issues, and there are none
  calc ((as.map write).zipIdx.map fun p => (check p.1).under (.index p.2))
      = as.zipIdx.map fun p => (check (write p.1)).under (.index p.2) := by
        rw [List.zipIdx_map, List.map_map]
        rfl
    _ = as.zipIdx.map (accepted ∘ Prod.fst) := by
        refine List.map_congr_left fun p hp => ?_
        exact under_eq_accepted_iff.mpr (h p.1 (List.fst_mem_of_mem_zipIdx hp))
    _ = as.map accepted := by rw [← List.map_map, List.zipIdx_map_fst]

theorem Stable.items (h : Stable check write) :
    Stable (items check) fun as => .list (as.map write) := by
  intro v as has
  refine items_map_write fun a ha => ?_
  obtain ⟨_, hv⟩ := exists_of_mem_items has ha
  exact h hv

theorem Stable.someItems (h : Stable check write) :
    Stable (someItems check) fun as => .list (as.map write) := by
  intro v as has
  obtain ⟨as', hitems, hsome⟩ := bind_eq_accepted_iff.mp has
  -- an empty list would not have passed
  have hsame : as' = as ∧ as.isEmpty = false := by
    cases hempty : as'.isEmpty with
    | true =>
      rw [hempty] at hsome
      cases hsome
    | false =>
      rw [hempty] at hsome
      cases hsome
      exact ⟨rfl, hempty⟩
  obtain ⟨rfl, hempty⟩ := hsame
  refine bind_eq_accepted_iff.mpr ⟨as', h.items hitems, ?_⟩
  rw [hempty]
  rfl

/-- A field that may be absent holds what its check accepts, if this is so of what stands for it. -/
theorem Stable.of_optional (h : Stable check write)
    (habsent : check (write absent) = .accepted absent)
    (ha : optional key absent check entries = .accepted a) : check (write a) = .accepted a := by
  rcases absent_or_exists_of_optional ha with rfl | ⟨_, hv⟩
  · exact habsent
  · exact h hv

theorem Stable.of_required (h : Stable check write)
    (ha : required key check entries = .accepted a) :
    check (write a) = .accepted a := by
  obtain ⟨_, -, hv⟩ := exists_of_required ha
  exact h hv

end Parts

section Texts

theorem textEntry_write (e : RawText × RawText) :
    textEntry (.ofRaw e.1, .ofRaw e.2) = .accepted e := by
  simp [textEntry]

theorem texts_write {m : Assoc RawText RawText} (hm : m.keys.Nodup) :
    texts (.map (m.entries.map fun e => (.ofRaw e.1, .ofRaw e.2))) = .accepted m := by
  have hall : Checked.all
      ((m.entries.map fun e => (Value.ofRaw e.1, Value.ofRaw e.2)).map textEntry) =
        .accepted m.entries := by
    rw [all_eq_accepted_iff, List.map_map]
    exact List.map_congr_left fun e _ => textEntry_write e
  -- distinct keys: no pair takes the place of an earlier one
  rw [texts, hall, map_accepted, Assoc.ofList_entries hm]

theorem nodup_keys_of_texts {m : Assoc RawText RawText} (h : texts v = .accepted m) :
    m.keys.Nodup := by
  unfold texts at h
  split at h
  · obtain ⟨pairs, -, rfl⟩ := map_eq_accepted_iff.mp h
    exact Assoc.nodup_keys_ofList pairs
  · cases h

theorem stable_texts :
    Stable texts fun m => .map (m.entries.map fun e => (.ofRaw e.1, .ofRaw e.2)) :=
  fun _ _ h => texts_write (nodup_keys_of_texts h)

end Texts

end StreamMesh.Schema
