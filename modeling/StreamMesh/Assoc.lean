/-!
# Association lists in order of first insertion

A table is a list of pairs of a key and a value. Giving a known key a new value keeps the key's
place; a new key goes to the end. So the keys, read in order, tell when each was first given.

## Main definitions

* `Assoc` — the table
* `Assoc.find?`, `Assoc.insert`, `Assoc.ofList` — look up, set, and build from pairs

## Main results

* `Assoc.find?_insert_self`, `Assoc.find?_insert_of_ne` — setting a key changes that key only
* `Assoc.keys_insert` — a known key keeps its place, a new one goes to the end
* `Assoc.nodup_keys_insert`, `Assoc.nodup_keys_ofList` — no key is listed twice
-/

namespace StreamMesh

/-- Pairs of a key and a value, in the order in which the keys were first given. -/
structure Assoc (κ ν : Type) where
  /-- The pairs, oldest key first. -/
  entries : List (κ × ν)
  deriving DecidableEq, Repr, Inhabited

namespace Assoc

variable {κ ν : Type}

/-- The table without entries. -/
def empty : Assoc κ ν := ⟨[]⟩

/-- The keys, oldest first. -/
def keys (m : Assoc κ ν) : List κ := m.entries.map Prod.fst

/-- The values, in the order of their keys. -/
def values (m : Assoc κ ν) : List ν := m.entries.map Prod.snd

/-- How many keys the table holds. -/
def size (m : Assoc κ ν) : Nat := m.entries.length

variable [DecidableEq κ]

/-- The value of the first pair with key `k`. -/
def lookup (k : κ) : List (κ × ν) → Option ν
  | [] => none
  | (k', v) :: rest => if k' = k then some v else lookup k rest

/-- The value of a key, if the key is known. -/
def find? (m : Assoc κ ν) (k : κ) : Option ν := lookup k m.entries

/-- Whether a key is known. -/
def contains (m : Assoc κ ν) (k : κ) : Bool := (m.find? k).isSome

/-- Replaces the value of the first pair with key `k`, or appends the pair. -/
def put (k : κ) (v : ν) : List (κ × ν) → List (κ × ν)
  | [] => [(k, v)]
  | (k', v') :: rest => if k' = k then (k', v) :: rest else (k', v') :: put k v rest

/-- Gives a key a value: in place if the key is known, at the end otherwise. -/
def insert (m : Assoc κ ν) (k : κ) (v : ν) : Assoc κ ν := ⟨put k v m.entries⟩

/-- Gives the keys their values one pair after the other. -/
def insertAll (m : Assoc κ ν) (pairs : List (κ × ν)) : Assoc κ ν :=
  pairs.foldl (fun m p => m.insert p.1 p.2) m

/-- The table of a list of pairs: each key at its first place with its last value. -/
def ofList (pairs : List (κ × ν)) : Assoc κ ν := empty.insertAll pairs

@[simp] theorem entries_insert (m : Assoc κ ν) (k : κ) (v : ν) :
    (m.insert k v).entries = put k v m.entries := rfl

theorem lookup_put_self (k : κ) (v : ν) (l : List (κ × ν)) : lookup k (put k v l) = some v := by
  induction l with
  | nil => simp [put, lookup]
  | cons p rest ih => by_cases h : p.1 = k <;> simp [put, lookup, h, ih]

theorem lookup_put_of_ne {k k' : κ} (hne : k' ≠ k) (v : ν) (l : List (κ × ν)) :
    lookup k' (put k v l) = lookup k' l := by
  induction l with
  | nil => simp [put, lookup, hne.symm]
  | cons p rest ih =>
    by_cases h : p.1 = k
    · simp [put, lookup, h, hne.symm]
    · by_cases h' : p.1 = k' <;> simp [put, lookup, h, h', ih, hne]

@[simp] theorem find?_empty (k : κ) : (empty : Assoc κ ν).find? k = none := rfl

@[simp] theorem find?_insert_self (m : Assoc κ ν) (k : κ) (v : ν) :
    (m.insert k v).find? k = some v :=
  lookup_put_self k v m.entries

theorem find?_insert_of_ne (m : Assoc κ ν) {k k' : κ} (hne : k' ≠ k) (v : ν) :
    (m.insert k v).find? k' = m.find? k' :=
  lookup_put_of_ne hne v m.entries

theorem map_fst_put (k : κ) (v : ν) (l : List (κ × ν)) :
    (put k v l).map Prod.fst =
      if k ∈ l.map Prod.fst then l.map Prod.fst else l.map Prod.fst ++ [k] := by
  induction l with
  | nil => simp [put]
  | cons p rest ih =>
    by_cases h : p.1 = k
    · simp [put, h]
    · have h' : ¬ k = p.1 := fun e => h e.symm
      simp only [put, h, if_false, List.map_cons, ih, List.mem_cons, h', false_or]
      split <;> simp

/-- A known key keeps its place, a new one goes to the end. -/
theorem keys_insert (m : Assoc κ ν) (k : κ) (v : ν) :
    (m.insert k v).keys = if k ∈ m.keys then m.keys else m.keys ++ [k] :=
  map_fst_put k v m.entries

theorem nodup_keys_insert {m : Assoc κ ν} (h : m.keys.Nodup) (k : κ) (v : ν) :
    (m.insert k v).keys.Nodup := by
  rw [keys_insert]
  split
  · exact h
  · rename_i hk
    rw [List.nodup_append]
    refine ⟨h, by simp, ?_⟩
    intro a ha b hb hab
    simp only [List.mem_singleton] at hb
    exact hk (hb ▸ hab ▸ ha)

theorem nodup_keys_insertAll {m : Assoc κ ν} (h : m.keys.Nodup) (pairs : List (κ × ν)) :
    (m.insertAll pairs).keys.Nodup := by
  induction pairs generalizing m with
  | nil => exact h
  | cons p rest ih => exact ih (nodup_keys_insert h p.1 p.2)

/-- No key of a table built from pairs is listed twice. -/
theorem nodup_keys_ofList (pairs : List (κ × ν)) : (ofList pairs).keys.Nodup :=
  nodup_keys_insertAll (by simp [empty, keys]) pairs

theorem lookup_isSome_iff (k : κ) (l : List (κ × ν)) :
    (lookup k l).isSome ↔ k ∈ l.map Prod.fst := by
  induction l with
  | nil => simp [lookup]
  | cons p rest ih =>
    by_cases h : p.1 = k
    · simp [lookup, h]
    · have h' : ¬ k = p.1 := fun e => h e.symm
      simpa [lookup, h, h'] using ih

theorem contains_iff (m : Assoc κ ν) (k : κ) : m.contains k ↔ k ∈ m.keys :=
  lookup_isSome_iff k m.entries

end Assoc

end StreamMesh
