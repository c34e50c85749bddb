import Mathlib.Data.List.Induction
import Mathlib.Data.List.Nodup
import StreamMesh.Assoc

/-!
# Tables whose keys are distinct

Where no key is listed twice, looking a key up and finding its pair among the entries are one and
the same, a new key is appended, and a table built from pairs with distinct keys holds those pairs
as they stand. A table built from any pairs has each key where it is first given, with the value
that is given last.

## Main results

* `Assoc.find?_eq_some_iff` — a lookup finds exactly the listed pairs
* `Assoc.entries_insert_of_not_mem` — a new key goes to the end
* `Assoc.entries_ofList` — pairs with distinct keys are kept as they are
* `Assoc.ofList_entries` — reading a table's entries back gives the table
* `Assoc.insert_of_find?` — giving a key the value that it has changes nothing
* `Assoc.eraseDups_concat` — one more element of a list, without repetitions
* `Assoc.keys_ofList`, `Assoc.find?_ofList_eq_some_iff` — keys and values of a table built from any
  pairs
* `Assoc.keys_insertAll_of_nodup` — pairs with distinct keys add the keys that are new
* `Assoc.map_put_of_lookup` — a change of a value that a map over the table does not see
-/

namespace StreamMesh.Assoc

variable {κ ν : Type} [DecidableEq κ] {k : κ} {v : ν} {l : List (κ × ν)} {m : Assoc κ ν}

theorem mem_of_lookup_eq_some (h : lookup k l = some v) : (k, v) ∈ l := by
  induction l with
  | nil => cases h
  | cons p rest ih =>
    obtain ⟨k', v'⟩ := p
    by_cases hk : k' = k
    · simp only [lookup, hk, if_true, Option.some.injEq] at h
      simp [hk, h]
    · simp only [lookup, hk, if_false] at h
      exact List.mem_cons_of_mem _ (ih h)

theorem lookup_eq_some_iff (hl : (l.map Prod.fst).Nodup) : lookup k l = some v ↔ (k, v) ∈ l := by
  refine ⟨mem_of_lookup_eq_some, fun hmem => ?_⟩
  have known : (lookup k l).isSome := (lookup_isSome_iff k l).mpr (List.mem_map_of_mem hmem)
  obtain ⟨v', hv'⟩ := Option.isSome_iff_exists.mp known
  have hpair : (k, v) = (k, v') :=
    List.inj_on_of_nodup_map hl hmem (mem_of_lookup_eq_some hv') rfl
  rw [hv', Option.some.injEq]
  exact (congrArg Prod.snd hpair).symm

theorem mem_entries_of_find? (h : m.find? k = some v) : (k, v) ∈ m.entries :=
  mem_of_lookup_eq_some h

/-- A lookup finds exactly the listed pairs. -/
theorem find?_eq_some_iff (hm : m.keys.Nodup) : m.find? k = some v ↔ (k, v) ∈ m.entries :=
  lookup_eq_some_iff hm

theorem find?_eq_none_iff : m.find? k = none ↔ k ∉ m.keys := by
  rw [← contains_iff, contains]
  simp

theorem put_of_not_mem (h : k ∉ l.map Prod.fst) (v : ν) : put k v l = l ++ [(k, v)] := by
  induction l with
  | nil => rfl
  | cons p rest ih =>
    rw [List.map_cons, List.mem_cons, not_or] at h
    have hne : p.1 ≠ k := fun e => h.1 e.symm
    simp [put, hne, ih h.2]

/-- A new key goes to the end. -/
theorem entries_insert_of_not_mem (h : k ∉ m.keys) (v : ν) :
    (m.insert k v).entries = m.entries ++ [(k, v)] :=
  put_of_not_mem h v

theorem keys_insert_of_mem (h : k ∈ m.keys) (v : ν) : (m.insert k v).keys = m.keys := by
  rw [keys_insert, if_pos h]

/-- Giving a key the value that it has changes nothing. -/
theorem put_of_lookup (h : lookup k l = some v) : put k v l = l := by
  induction l with
  | nil => cases h
  | cons p rest ih =>
    obtain ⟨k₁, v₁⟩ := p
    by_cases hk : k₁ = k
    · simp only [lookup, hk, if_true, Option.some.injEq] at h
      simp only [put, hk, if_true, h]
    · simp only [lookup, hk, if_false] at h
      simp only [put, hk, if_false, ih h]

theorem insert_of_find? (h : m.find? k = some v) : m.insert k v = m :=
  congrArg Assoc.mk (put_of_lookup h)

theorem mem_keys_of_find? (h : m.find? k = some v) : k ∈ m.keys :=
  List.mem_map_of_mem (mem_entries_of_find? h)

theorem entries_insertAll_of_nodup {pairs : List (κ × ν)}
    (h : (m.keys ++ pairs.map Prod.fst).Nodup) :
      (m.insertAll pairs).entries = m.entries ++ pairs := by
  induction pairs generalizing m with
  | nil => simp [insertAll]
  | cons p rest ih =>
    have hnew : p.1 ∉ m.keys := fun hmem =>
      List.disjoint_of_nodup_append h hmem (List.mem_cons_self ..)
    have hkeys : (m.insert p.1 p.2).keys = m.keys ++ [p.1] := by
      rw [keys_insert, if_neg hnew]
    have hrest : ((m.insert p.1 p.2).keys ++ rest.map Prod.fst).Nodup := by
      rw [hkeys, List.append_assoc]
      exact h
    change ((m.insert p.1 p.2).insertAll rest).entries = _
    rw [ih hrest, entries_insert_of_not_mem hnew, List.append_assoc]
    rfl

/-- Pairs with distinct keys are kept as they are. -/
theorem entries_ofList {pairs : List (κ × ν)} (h : (pairs.map Prod.fst).Nodup) :
    (ofList pairs).entries = pairs :=
  entries_insertAll_of_nodup (m := empty) h

/-- Reading a table's entries back gives the table. -/
theorem ofList_entries (hm : m.keys.Nodup) : ofList m.entries = m :=
  congrArg Assoc.mk (entries_ofList hm)

/-- Where the keys are distinct, the entries are the keys with what is found under them. -/
theorem entries_eq_map_keys (hm : m.keys.Nodup) (d : ν) :
    m.entries = m.keys.map fun k => (k, (m.find? k).getD d) := by
  rw [keys, List.map_map]
  refine (List.map_id _).symm.trans (List.map_congr_left fun e he => ?_)
  have hfind : m.find? e.1 = some e.2 := (find?_eq_some_iff hm).mpr he
  simp only [id_eq, Function.comp_apply, hfind, Option.getD_some]

section Pairs

/-- A lookup finds the first pair of its key. -/
theorem lookup_eq_some_iff_first : lookup k l = some v ↔
    ∃ before after, l = before ++ (k, v) :: after ∧ k ∉ before.map Prod.fst := by
  induction l with
  | nil => simp [lookup]
  | cons p rest ih =>
    obtain ⟨k', v'⟩ := p
    by_cases hk : k' = k
    · -- the first pair has the key, or nothing of the key stands there
      subst hk
      simp only [lookup, if_true, Option.some.injEq]
      constructor
      · rintro rfl
        exact ⟨[], rest, rfl, by simp⟩
      · rintro ⟨before, after, h, hnew⟩
        cases before with
        | nil => exact congrArg Prod.snd (List.cons.inj h).1
        | cons p before => exact absurd (by simp [← (List.cons.inj h).1]) hnew
    · simp only [lookup, hk, if_false, ih]
      constructor
      · rintro ⟨before, after, rfl, hnew⟩
        exact ⟨(k', v') :: before, after, rfl, by simp [Ne.symm hk, hnew]⟩
      · rintro ⟨before, after, h, hnew⟩
        cases before with
        | nil => exact absurd (congrArg Prod.fst (List.cons.inj h).1) hk
        | cons p before =>
          rw [List.map_cons, List.mem_cons, not_or] at hnew
          exact ⟨before, after, (List.cons.inj h).2, hnew.2⟩

theorem insertAll_append (m : Assoc κ ν) (pairs later : List (κ × ν)) :
    m.insertAll (pairs ++ later) = (m.insertAll pairs).insertAll later :=
  List.foldl_append

/-- After pairs are given, a key has the value of its last pair, or else the one it had. -/
theorem find?_insertAll (m : Assoc κ ν) (pairs : List (κ × ν)) (k : κ) :
    (m.insertAll pairs).find? k = (lookup k pairs.reverse).or (m.find? k) := by
  induction pairs using List.reverseRecOn with
  | nil => rfl
  | append_singleton pairs p ih =>
    have hlast : m.insertAll (pairs ++ [p]) = (m.insertAll pairs).insert p.1 p.2 := by
      rw [insertAll_append]
      rfl
    rw [hlast, List.reverse_append, List.reverse_singleton, List.singleton_append, lookup]
    by_cases hk : p.1 = k
    · rw [hk, find?_insert_self, if_pos rfl, Option.some_or]
    · rw [find?_insert_of_ne _ (Ne.symm hk), if_neg hk, ih]

/-- In a table built from pairs a key has the value of its last pair. -/
theorem find?_ofList_eq_some_iff {pairs : List (κ × ν)} : (ofList pairs).find? k = some v ↔
    ∃ before after, pairs = before ++ (k, v) :: after ∧ k ∉ after.map Prod.fst := by
  rw [ofList, find?_insertAll, find?_empty, Option.or_none, lookup_eq_some_iff_first]
  constructor
  · rintro ⟨after, before, hsplit, hlast⟩
    refine ⟨before.reverse, after.reverse, ?_, by simpa using hlast⟩
    rw [← List.reverse_reverse pairs, hsplit]
    simp
  · rintro ⟨before, after, rfl, hlast⟩
    exact ⟨after.reverse, before.reverse, by simp, by simpa using hlast⟩

/-- Of a list with one more element, that element comes last unless it came before. -/
theorem eraseDups_concat (l : List κ) (k : κ) :
    (l ++ [k]).eraseDups = if k ∈ l then l.eraseDups else l.eraseDups ++ [k] := by
  rw [List.eraseDups_append]
  by_cases hk : k ∈ l
  · have hnone : [k].removeAll l = [] := by simpa [List.removeAll] using hk
    rw [if_pos hk, hnone, List.eraseDups_nil, List.append_nil]
  · have hself : [k].removeAll l = [k] := by simpa [List.removeAll] using hk
    rw [if_neg hk, hself]
    rfl

/-- A table built from pairs has the key of each where it is first given. -/
theorem keys_ofList (pairs : List (κ × ν)) :
    (ofList pairs).keys = (pairs.map Prod.fst).eraseDups := by
  induction pairs using List.reverseRecOn with
  | nil => rfl
  | append_singleton pairs p ih =>
    have hlast : ofList (pairs ++ [p]) = (ofList pairs).insert p.1 p.2 := by
      rw [ofList, insertAll_append]
      rfl
    rw [hlast, keys_insert, ih, List.map_append, List.map_singleton, eraseDups_concat]
    simp only [List.mem_eraseDups]

/-- What is new beside one more key, which does not come again, was new before. -/
theorem filter_new_append {rest known : List κ} (hk : k ∉ rest) :
    (rest.filter fun x => decide (x ∉ known ++ [k])) = rest.filter fun x => decide (x ∉ known) := by
  refine List.filter_congr fun x hx => ?_
  have hne : x ≠ k := fun h => hk (h ▸ hx)
  simp [hne]

/-- Pairs with distinct keys add the keys that are new. -/
theorem keys_insertAll_of_nodup {pairs : List (κ × ν)} (h : (pairs.map Prod.fst).Nodup) :
    (m.insertAll pairs).keys =
      m.keys ++ (pairs.map Prod.fst).filter fun k => decide (k ∉ m.keys) := by
  induction pairs generalizing m with
  | nil => simp [insertAll]
  | cons p rest ih =>
    obtain ⟨hfirst, hrest⟩ := List.nodup_cons.mp h
    change ((m.insert p.1 p.2).insertAll rest).keys = _
    rw [ih hrest, keys_insert, List.map_cons]
    by_cases hk : p.1 ∈ m.keys
    · rw [if_pos hk, List.filter_cons_of_neg (by simpa using hk)]
    · rw [if_neg hk, List.filter_cons_of_pos (by simpa using hk), filter_new_append hfirst,
        List.append_assoc, List.singleton_append]

end Pairs

section Map

variable {μ : Type} {v' : ν}

theorem lookup_map (f : ν → μ) (l : List (κ × ν)) :
    lookup k (l.map fun e => (e.1, f e.2)) = (lookup k l).map f := by
  induction l with
  | nil => rfl
  | cons p rest ih =>
    by_cases hk : p.1 = k
    · simp only [List.map_cons, lookup, hk, if_true, Option.map_some]
    · simp only [List.map_cons, lookup, hk, if_false, ih]

/-- A value that looks the same as the one it replaces leaves the look of the table as it was. -/
theorem map_put_of_lookup {f : κ × ν → μ} (h : lookup k l = some v) (hf : f (k, v') = f (k, v)) :
    (put k v' l).map f = l.map f := by
  induction l with
  | nil => cases h
  | cons p rest ih =>
    obtain ⟨k₁, v₁⟩ := p
    by_cases hk : k₁ = k
    · subst hk
      simp only [lookup, if_true, Option.some.injEq] at h
      subst h
      simp only [put, if_true, List.map_cons, hf]
    · simp only [lookup, hk, if_false] at h
      simp only [put, hk, if_false, List.map_cons, ih h]

end Map

end StreamMesh.Assoc
