import Mathlib.Order.Nat
import StreamMesh.Proofs.Failure
import StreamMesh.Proofs.Yaml.Reading
import StreamMesh.Schema.Issue

/-!
# What stands at a place

A document is a tree of nodes and is read as a tree of values. Merged entries count as entries of
their mapping, and of several entries with one key the last counts. So a node that stands at a place
of the document is read as the value that stands there.

## Main definitions

* `Value.At` — a value at a place in another
* `Node.Lies` — a node at a place in another

## Main results

* `Value.At.unique` — at a place there is one value
* `Node.depth_le_of_mem_allEntries` — the parts of a mapping are less deep than the mapping
* `Node.Lies.exists_at` — a node is read as the value at its place
-/

namespace StreamMesh

open Schema (Place)

namespace Value

variable {s t key : String} {k v w : Value} {es rs before after : List (Value × Value)}

/-- A value that stands at a place in another. -/
inductive At : Value → List Place → Value → Prop
  | here {v : Value} : At v [] v
  | item {xs : List Value} {i : Nat} {x v : Value} {place : List Place} (h : xs[i]? = some x)
    (hv : At x place v) : At (.list xs) (.index i :: place) v
  | entry {m : List (Value × Value)} {key : String} {x v : Value} {place : List Place}
    (h : entry? key m = some x) (hv : At x place v) : At (.map m) (.key key :: place) v

theorem At.exists_of_index {i : Nat} {place : List Place} (h : At v (.index i :: place) w) :
    ∃ xs x, v = .list xs ∧ xs[i]? = some x ∧ At x place w := by
  generalize hplace : Place.index i :: place = whole at h
  cases h with
  | here => cases hplace
  | @item xs k x _ _ hx hw =>
    obtain ⟨hk, rfl⟩ := List.cons.inj hplace
    obtain rfl : i = k := Int.ofNat_inj.mp (Place.index.inj hk)
    exact ⟨xs, x, rfl, hx, hw⟩
  | entry => cases hplace

theorem At.exists_of_key {place : List Place} (h : At v (.key key :: place) w) :
    ∃ m x, v = .map m ∧ entry? key m = some x ∧ At x place w := by
  cases h with
  | entry hx hw => exact ⟨_, _, rfl, hx, hw⟩

theorem at_key_iff {place : List Place} (h : entry? key es = some v) :
    (map es).At (.key key :: place) w ↔ v.At place w := by
  refine ⟨fun hw => ?_, .entry h⟩
  obtain ⟨_, x, ⟨⟩, hx, hw⟩ := hw.exists_of_key
  exact Option.some.inj (h.symm.trans hx) ▸ hw

theorem at_item_iff {xs : List Value} {i : Nat} {place : List Place} (h : xs[i]? = some v) :
    (list xs).At (.index i :: place) w ↔ v.At place w := by
  refine ⟨fun hw => ?_, .item h⟩
  obtain ⟨_, x, ⟨⟩, hx, hw⟩ := hw.exists_of_index
  exact Option.some.inj (h.symm.trans hx) ▸ hw

/-- At a place there is one value. -/
theorem At.unique {place : List Place} {u : Value} (h : At v place w) (hu : At v place u) :
    w = u := by
  induction h with
  | here =>
    cases hu
    rfl
  | item hx _ ih =>
    obtain ⟨_, _, ⟨⟩, hy, hu⟩ := hu.exists_of_index
    obtain rfl := Option.some.inj (hx.symm.trans hy)
    exact ih hu
  | entry hx _ ih =>
    obtain ⟨_, _, ⟨⟩, hy, hu⟩ := hu.exists_of_key
    obtain rfl := Option.some.inj (hx.symm.trans hy)
    exact ih hu

/-- A value with parts counts for something. -/
theorem At.orEmpty_eq {step : Place} {place : List Place} (h : At v (step :: place) w) :
    v.orEmpty = v := by
  have hblank : v.isBlank = false := by
    cases h with
    | item h _ => exact List.isEmpty_eq_false_iff.mpr (List.ne_nil_of_mem (List.mem_of_getElem? h))
    | @entry m _ _ _ _ h _ =>
      refine List.isEmpty_eq_false_iff.mpr ?_
      rintro rfl
      cases h
  rw [orEmpty, hblank, if_neg Bool.false_ne_true]

theorem sameKey_str_iff : sameKey k (.str s) = true ↔ k = .str s := by
  cases k <;> simp [sameKey, whole?]

theorem entry?_cons_of_ne (h : k ≠ .str key) : entry? key ((k, v) :: es) = entry? key es := by
  cases k <;> simp_all [Value.entry?]

theorem entry?_putEntry_self : entry? key (putEntry (.str key) v es) = some v := by
  induction es with
  | nil => simp [putEntry, entry?]
  | cons e es ih =>
    obtain ⟨k, w⟩ := e
    unfold putEntry
    split
    · rename_i hsame
      rw [sameKey_str_iff.mp hsame, entry?, if_pos rfl]
    · rename_i hsame
      rw [entry?_cons_of_ne fun h => hsame (sameKey_str_iff.mpr h), ih]

/-- An entry under another key changes nothing. -/
theorem entry?_putEntry_of_ne (h : k ≠ .str key) :
    entry? key (putEntry k v es) = entry? key es := by
  induction es with
  | nil => rw [putEntry, entry?_cons_of_ne h]
  | cons e es ih =>
    obtain ⟨k', w⟩ := e
    have hhead : k'.sameKey k = true → k' ≠ .str key := by
      rintro hsame rfl
      cases k <;> simp_all [sameKey, whole?]
    unfold putEntry
    split
    · rename_i hsame
      rw [entry?_cons_of_ne (hhead hsame), entry?_cons_of_ne (hhead hsame)]
    · by_cases hk' : k' = .str key
      · rw [hk', entry?, entry?]
        simp
      · rw [entry?_cons_of_ne hk', entry?_cons_of_ne hk', ih]

/-- Of several entries with one key the last counts. -/
theorem exists_ofEntries_eq (hafter : ∀ r ∈ after, r.1 ≠ .str key) :
    ∃ m, ofEntries (before ++ (.str key, v) :: after) = .map m ∧ entry? key m = some v := by
  refine ⟨_, rfl, ?_⟩
  rw [List.foldl_append, List.foldl_cons]
  generalize before.foldl (fun entries p => putEntry p.1 p.2 entries) [] = es
  have hput : entry? key (putEntry (.str key) v es) = some v := entry?_putEntry_self
  generalize putEntry (.str key) v es = es' at hput ⊢
  -- whatever entries there are by then, those that follow leave the value under the key alone
  induction after generalizing es' with
  | nil => exact hput
  | cons r after ih =>
    rw [List.forall_mem_cons] at hafter
    exact ih hafter.2 _ ((entry?_putEntry_of_ne hafter.1).trans hput)

end Value

namespace Yaml

namespace Node

variable {n x y k v : Node} {es merged own : List (Node × Node)} {parts : List (List (Node × Node))}
  {items : List Node} {entries : List (Node × Node)} {fuel level : Nat} {d w : Value}
  {place : List Place} {mark : Mark} {t : Tag}

section Depth

theorem depth_plainKey : n.plainKey.depth = n.depth := by
  cases n <;> rfl

/-- No part of some entries is deeper than a bound. -/
def Within (bound : Nat) (es : List (Node × Node)) : Prop :=
  ∀ e ∈ es, e.1.depth ≤ bound ∧ e.2.depth ≤ bound

theorem Within.mono {bound bound' : Nat} (h : Within bound es) (hle : bound ≤ bound') :
    Within bound' es :=
  fun e he => ⟨(h e he).1.trans hle, (h e he).2.trans hle⟩

theorem Within.append {bound : Nat} {es' : List (Node × Node)} (h : Within bound es)
    (h' : Within bound es') : Within bound (es ++ es') :=
  List.forall_mem_append.mpr ⟨h, h'⟩

/-- The entries of a mapping are those that it merges and then its own. -/
theorem exists_of_allEntries (t : Tag) (mark : Mark)
    (h : allEntries (mapping t entries mark) = .ok es) :
    ∃ merged own, flattenEntries entries = .ok (merged, own) ∧ es = merged ++ own := by
  obtain ⟨⟨merged, own⟩, hentries, h⟩ := bind_eq_ok_iff.mp h
  exact ⟨merged, own, hentries, (Except.ok.inj h).symm⟩

-- by the recursion of the four functions: the entries of a mapping, and the mappings that they
-- merge

mutual

/-- What a mapping brings along stands inside it. -/
theorem within_flatten : ∀ {n : Node} {es : List (Node × Node)}, flatten n = .ok es →
    ∀ bound, n.depth ≤ bound + 1 → Within bound es
  | .mapping t entries mark, es, h, bound, hbound => by
    rw [flatten] at h
    obtain ⟨merged, own, hentries, rfl⟩ := exists_of_allEntries t mark h
    obtain ⟨hmerged, hown⟩ := within_flattenEntries hentries
    exact (hmerged.append hown).mono (Nat.le_of_succ_le_succ hbound)
  | .scalar .., _, h, _, _ => by cases h
  | .sequence .., _, h, _, _ => by cases h
  | .around .., _, h, _, _ => by
    cases h
    exact List.forall_mem_nil _

theorem within_flattenEntries : ∀ {entries merged own : List (Node × Node)},
    flattenEntries entries = .ok (merged, own) →
      Within (entriesDepth entries) merged ∧ Within (entriesDepth entries) own
  | [], _, _, h => by
    cases h
    exact ⟨List.forall_mem_nil _, List.forall_mem_nil _⟩
  | (key, v) :: rest, merged, own, h => by
    have hrest : entriesDepth rest ≤ entriesDepth ((key, v) :: rest) := Nat.le_max_right _ _
    have hhere : max key.depth v.depth ≤ entriesDepth ((key, v) :: rest) := Nat.le_max_left _ _
    have hv : v.depth ≤ entriesDepth ((key, v) :: rest) := (Nat.le_max_right _ _).trans hhere
    rw [flattenEntries] at h
    split at h
    · obtain ⟨more, hmore, h⟩ := bind_eq_ok_iff.mp h
      obtain ⟨⟨merged, own⟩, hothers, h⟩ := bind_eq_ok_iff.mp h
      cases h
      obtain ⟨hmerged, hown⟩ := within_flattenEntries hothers
      have hmore := within_flattenMerged hmore v.depth (Nat.le_succ _)
      exact ⟨(hmore.mono hv).append (hmerged.mono hrest), hown.mono hrest⟩
    · obtain ⟨⟨merged, own⟩, hothers, h⟩ := bind_eq_ok_iff.mp h
      cases h
      obtain ⟨hmerged, hown⟩ := within_flattenEntries hothers
      have hkey : key.plainKey.depth ≤ entriesDepth ((key, v) :: rest) :=
        depth_plainKey.le.trans ((Nat.le_max_left _ _).trans hhere)
      exact ⟨hmerged.mono hrest, List.forall_mem_cons.mpr ⟨⟨hkey, hv⟩, hown.mono hrest⟩⟩

theorem within_flattenMerged : ∀ {n : Node} {es : List (Node × Node)}, flattenMerged n = .ok es →
    ∀ bound, n.depth ≤ bound + 1 → Within bound es
  | .mapping t entries mark, es, h, bound, hbound => by
    rw [flattenMerged] at h
    obtain ⟨merged, own, hentries, rfl⟩ := exists_of_allEntries t mark h
    obtain ⟨hmerged, hown⟩ := within_flattenEntries hentries
    exact (hmerged.append hown).mono (Nat.le_of_succ_le_succ hbound)
  | .sequence _ items _, es, h, bound, hbound => by
    rw [flattenMerged] at h
    obtain ⟨parts, hitems, h⟩ := bind_eq_ok_iff.mp h
    cases h
    have hitemsDepth : itemsDepth items ≤ bound + 1 :=
      (Nat.le_of_succ_le_succ hbound).trans (Nat.le_succ _)
    intro e he
    obtain ⟨part, hpart, he⟩ := List.mem_flatten.mp he
    exact within_flattenItems hitems bound hitemsDepth part (List.mem_reverse.mp hpart) e he
  | .scalar .., _, h, _, _ => by cases h
  | .around .., _, h, _, _ => by
    cases h
    exact List.forall_mem_nil _

theorem within_flattenItems : ∀ {items : List Node} {parts : List (List (Node × Node))},
    flattenItems items = .ok parts →
      ∀ bound, itemsDepth items ≤ bound + 1 → ∀ part ∈ parts, Within bound part
  | [], _, h, _, _ => by
    cases h
    exact List.forall_mem_nil _
  | n :: rest, parts, h, bound, hbound => by
    rw [flattenItems] at h
    obtain ⟨part, hn, h⟩ := bind_eq_ok_iff.mp h
    obtain ⟨others, hrest, h⟩ := bind_eq_ok_iff.mp h
    cases h
    rw [itemsDepth, Nat.max_le] at hbound
    exact List.forall_mem_cons.mpr
      ⟨within_flatten hn bound hbound.1, within_flattenItems hrest bound hbound.2⟩

end

theorem depth_le_itemsDepth (h : x ∈ items) : x.depth ≤ itemsDepth items := by
  induction items with
  | nil => cases h
  | cons y items ih =>
    rcases List.mem_cons.mp h with rfl | h
    · exact Nat.le_max_left _ _
    · exact (ih h).trans (Nat.le_max_right _ _)

/-- The entries of a mapping, merged ones among them, are less deep than the mapping. -/
theorem depth_le_of_mem_allEntries (h : allEntries (mapping t entries mark) = .ok es)
    (he : (k, v) ∈ es) : k.depth ≤ entriesDepth entries ∧ v.depth ≤ entriesDepth entries := by
  obtain ⟨merged, own, hentries, rfl⟩ := exists_of_allEntries _ _ h
  obtain ⟨hmerged, hown⟩ := within_flattenEntries hentries
  exact (hmerged.append hown) _ he

end Depth

/-- A node that stands at a place in another. Of the entries of a mapping, merged ones first, those
after the one that is meant have other keys. -/
inductive Lies : Node → List Place → Node → Prop
  | here {n : Node} : Lies n [] n
  | item {items : List Node} {mark : Mark} {i : Nat} {x y : Node} {place : List Place}
    (h : items[i]? = some x) (hy : Lies x place y) :
    Lies (sequence .seq items mark) (.index i :: place) y
  | entry {entries before after : List (Node × Node)} {mark : Mark} {key : String} {k v y : Node}
    {place : List Place} (h : allEntries (mapping .map entries mark) =
      .ok (before ++ (k, v) :: after))
    (hkey : k.readScalar = .ok (.str key))
    (hafter : ∀ e ∈ after, e.1.readScalar ≠ .ok (.str key)) (hy : Lies v place y) :
    Lies (mapping .map entries mark) (.key key :: place) y

/-- Where nothing is found in a document, a node in it is read as the value at its place. -/
theorem Lies.exists_at_of_read (h : Lies n place y) (hfuel : n.depth ≤ fuel)
    (hread : n.read fuel level = (d, none)) :
    ∃ fuel level w, y.depth ≤ fuel ∧ y.read fuel level = (w, none) ∧ d.At place w := by
  -- on the way to the node: each step goes one level down, where there is fuel for what is there
  induction h generalizing fuel level d with
  | here => exact ⟨fuel, level, d, hfuel, hread, .here⟩
  | @item items mark i x y place hx hy ih =>
    obtain ⟨fuel, rfl⟩ := Nat.exists_eq_add_of_le' (Nat.lt_of_lt_of_le depth_pos hfuel)
    have hdepth : x.depth ≤ fuel := (depth_le_itemsDepth (List.mem_of_getElem? hx)).trans
      (Nat.le_of_succ_le_succ hfuel)
    rw [read_sequence, Prod.mk.injEq, firstFinding_eq_none_iff, List.forall_mem_map,
      List.forall_mem_map] at hread
    obtain ⟨rfl, hnone⟩ := hread
    have hfound := hnone _ (List.mem_of_getElem? hx)
    obtain ⟨fuel', level', w, hfuel', hw, hat⟩ := ih hdepth (Prod.ext rfl hfound)
    refine ⟨fuel', level', w, hfuel', hw, .item ?_ hat⟩
    rw [List.getElem?_map, List.getElem?_map, hx, Option.map_some, Option.map_some]
  | @entry entries before after mark key k v y place hall hkey hafter hy ih =>
    obtain ⟨fuel, rfl⟩ := Nat.exists_eq_add_of_le' (Nat.lt_of_lt_of_le depth_pos hfuel)
    have hbound : entriesDepth entries ≤ fuel := Nat.le_of_succ_le_succ hfuel
    rw [read_mapping hall, Prod.mk.injEq, firstFinding_eq_none_iff, List.forall_mem_map] at hread
    obtain ⟨rfl, hnone⟩ := hread
    have hentry : ∀ e ∈ before ++ (k, v) :: after,
        e.1.readScalar = .ok (e.1.read fuel (level + 1)).1 ∧
          e.2.read fuel (level + 1) = ((e.2.read fuel (level + 1)).1, none) := by
      intro e he
      exact of_entryFinding_eq_none ((depth_le_of_mem_allEntries hall he).1.trans hbound)
        (hnone e he)
    have hmem : (k, v) ∈ before ++ (k, v) :: after := List.mem_append_right _ (.head _)
    obtain ⟨hk, hv⟩ := hentry _ hmem
    have hkread : (k.read fuel (level + 1)).1 = .str key := Except.ok.inj (hk.symm.trans hkey)
    obtain ⟨fuel', level', w, hfuel', hw, hat⟩ :=
      ih ((depth_le_of_mem_allEntries hall hmem).2.trans hbound) hv
    -- a key is read like a scalar, so those after the entry are read as other keys
    have hothers : ∀ r ∈ after.map fun e =>
        ((e.1.read fuel (level + 1)).1, (e.2.read fuel (level + 1)).1), r.1 ≠ .str key := by
      rw [List.forall_mem_map]
      intro e he hsame
      refine hafter e he ?_
      rw [(hentry e (List.mem_append_right _ (.tail _ he))).1, hsame]
    rw [List.map_append, List.map_cons, hkread]
    obtain ⟨m, hm, hfound⟩ := Value.exists_ofEntries_eq hothers
    rw [hm]
    exact ⟨fuel', level', w, hfuel', hw, .entry hfound hat⟩

/-- A scalar of a document is read as the value at its place. -/
theorem Lies.exists_at (h : Lies n place y) (hn : n.toValue = .ok d)
    (hy : isCollectionTag y.tag = false) : ∃ w, y.toValue = .ok w ∧ d.At place w := by
  obtain ⟨fuel, level, w, hfuel, hw, hat⟩ := h.exists_at_of_read le_rfl (toValue_eq_ok_iff.mp hn)
  obtain ⟨fuel, rfl⟩ := Nat.exists_eq_add_of_le' (Nat.lt_of_lt_of_le depth_pos hfuel)
  rw [read_of_not_collection hy] at hw
  rw [toValue_of_not_collection hy]
  cases hread : y.readScalar with
  | error e => rw [hread] at hw; cases hw
  | ok w' =>
    rw [hread] at hw
    cases hw
    exact ⟨w, rfl, hat⟩

end Node

end Yaml

end StreamMesh
