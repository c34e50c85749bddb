import StreamMesh.Proofs.Yaml.Spelling

/-!
# Documents are cut into the lexemes of their manifests

The lines of a manifest are cut, from the last to the first, into lexemes that follow its tree: a
mapping has a start and an end, and so has a list, unless it stands at the column of its key.

## Main definitions

* `Manifest.Legible` — the manifests that read back
* `Manifest.lexemes` — the lexemes of a manifest

## Main results

* `reads_levels` — the lexemes of a list item, and of the value of a key
* `scan_document` — the lexemes of a document
-/

namespace StreamMesh

open Yaml

/-- Whether a text is a key that is written bare on the line of its value. -/
def isPlainKey (key : String) : Bool := isSimpleKey key.toList && writtenPlain key.toList

namespace Manifest

/-- A manifest with some levels at most whose scalars are legible, whose keys are plain and differ
within a mapping, and in which no collection is empty. -/
def Legible : Nat → Manifest → Prop
  | _, .scalar s => s.Legible
  | 0, _ => False
  | n + 1, .list items => items ≠ [] ∧ ∀ item ∈ items, Legible n item
  | n + 1, .map entries =>
    entries ≠ [] ∧ (entries.map Prod.fst).Nodup ∧
      ∀ e ∈ entries, isPlainKey e.1 = true ∧ Legible n e.2

mutual

/-- The lexemes of a manifest; a list has no start and no end where it is `flush` with its key. -/
def lexemes (flush : Bool) : Manifest → List Lexeme
  | .scalar s => [.scalar s.spelling s.bare]
  | .list items =>
    if flush then itemLexemes items else .blockSequence :: (itemLexemes items ++ [.blockEnd])
  | .map entries => .blockMapping :: (entryLexemes entries ++ [.blockEnd])

/-- The lexemes of the items of a list. -/
def itemLexemes : List Manifest → List Lexeme
  | [] => []
  | item :: rest => .entry :: (lexemes false item ++ itemLexemes rest)

/-- The lexemes of the entries of a mapping. -/
def entryLexemes : List (String × Manifest) → List Lexeme
  | [] => []
  | (key, value) :: rest =>
    .key :: .scalar (.ofChars key.toList)
      true :: .value :: (lexemes true value ++ entryLexemes rest)

end

end Manifest

namespace Yaml

open Scanner Manifest

variable {m : Manifest} {a : Mark} {i j n : Nat} {rest : List Char} {outer : List Int} {o : Int}
  {ls : List Lexeme} {items : List Manifest} {entries : List (String × Manifest)} {key : String}

section Keys

theorem isKey_of_isPlainKey (h : isPlainKey key = true) : IsKey key.toList := by
  simp only [isPlainKey, isSimpleKey, writtenPlain, Bool.and_eq_true, decide_eq_true_eq,
    Bool.not_eq_true', List.isEmpty_eq_false_iff] at h
  exact ⟨h.1.1.1, h.2.1, by simp only [maxKeyLength]; omega⟩

/-- A plain key is written as it is. -/
theorem simpleKey_of_isPlainKey (h : isPlainKey key = true) :
    simpleKey key.toList = key.toList := by
  simp only [isPlainKey, Bool.and_eq_true] at h
  rw [simpleKey, textAt, if_pos h.2, plain_of_not_folds rfl]

/-- A key with what follows it. -/
theorem entryBlocks_cons {value : Manifest} (h : isPlainKey key = true) :
    entryBlocks i ((key, value) :: entries) =
      (key.toList ++ ':' :: afterKey i (i + key.toList.length + 1) value) :: entryBlocks i
        entries := by
  have hsimple : isSimpleKey key.toList = true := by
    simp only [isPlainKey, Bool.and_eq_true] at h
    exact h.1
  rw [entryBlocks, if_pos hsimple, simpleKey_of_isPlainKey h]

theorem IsKey.ahead {cs : List Char} (h : IsKey cs) : TokenAhead (cs ++ rest) :=
  (plain_of_not_folds (p := ⟨0, false⟩) rfl : plain ⟨0, false⟩ 0 none cs = cs) ▸
    (Spelled.plain h.ne_nil h.allowed).ahead

end Keys

/-- What stands behind a block at column `i`, indented by `j`, and the lexemes that are cut from
there on, the block being open. -/
structure Continues (i j : Nat) (rest : List Char) (outer : List Int) (ls : List Lexeme) :
    Prop where
  le : j ≤ i
  follows : Follows j rest
  reads : ∀ a : Mark, a.column = j → Reads ⟨rest, a⟩ i outer ls

section Blocks

variable {block : List Char} {blocks : List (List Char)} {ls' : List Lexeme}

theorem follows_item : Follows i ('-' :: ' ' :: rest) where
  ahead := fun c hc => Option.some.inj hc ▸ by decide
  separator := fun a => by
    cases i with
    | zero => simp [Cursor.atSeparator]
    | succ i => exact Cursor.atSeparator_eq_false (.inl rfl)

theorem follows_key {cs : List Char} (h : IsKey cs) : Follows i (cs ++ ':' :: rest) where
  ahead := h.ahead
  separator := fun a => by
    cases i with
    | zero => exact h.atSeparator
    | succ i => exact Cursor.atSeparator_eq_false (.inl rfl)

theorem exists_stacked (i : Nat) (block : List Char) (blocks : List (List Char)) :
    ∃ more, stacked i (block :: blocks) = block ++ more := by
  cases blocks with
  | nil => exact ⟨[], by rw [stacked, List.append_nil]⟩
  | cons next blocks =>
    refine ⟨List.replicate i ' ' ++ stacked i (next :: blocks), ?_⟩
    rw [stacked, List.append_assoc]
    exact List.cons_ne_nil _ _

/-- A block ends to the right of what stands behind the blocks around it. -/
theorem Continues.pop (h : Continues i j rest outer ls) {i' : Nat} (hi : i < i') :
    Continues i' j rest (i :: outer) (.blockEnd :: ls) where
  le := Nat.le_trans h.le (Nat.le_of_lt hi)
  follows := h.follows
  reads := fun a ha => .pop h.follows.ahead (by have := h.le; omega) (h.reads a ha)

/-- What stands behind the first of several blocks. -/
theorem continues_stacked (h : Continues i j rest outer ls) (hnil : blocks = [] → ls' = [])
    (hfollows : blocks ≠ [] → Follows i (stacked i blocks ++ (List.replicate j ' ' ++ rest)))
    (hreads : blocks ≠ [] → ∀ a : Mark, a.column = i →
      Reads ⟨stacked i blocks ++ (List.replicate j ' ' ++ rest), a⟩ i outer (ls' ++ ls)) :
    ∃ j' rest', stacked i (block :: blocks) ++ (List.replicate j ' ' ++ rest) =
        block ++ (List.replicate j' ' ' ++ rest') ∧ Continues i j' rest' outer (ls' ++ ls) := by
  cases blocks with
  | nil =>
    obtain rfl := hnil rfl
    exact ⟨j, rest, rfl, h⟩
  | cons next blocks =>
    refine ⟨i, _, ?_, Nat.le_refl i, hfollows (List.cons_ne_nil _ _), hreads (List.cons_ne_nil _ _)⟩
    rw [stacked, List.append_assoc, List.append_assoc]
    exact List.cons_ne_nil _ _

theorem afterMark_scalar {s : Scalar} : afterMark i (.scalar s) =
    ' ' :: (scalarText ⟨i + 2, true⟩ (i + 2) s ++ ['\n']) := rfl

theorem afterKey_scalar {s : Scalar} {column : Nat} : afterKey i column (.scalar s) =
    ' ' :: (scalarText ⟨i + 2, true⟩ (column + 1) s ++ ['\n']) := rfl

theorem itemBlocks_cons {item : Manifest} :
    itemBlocks i (item :: items) = ('-' :: afterMark i item) :: itemBlocks i items := rfl

theorem afterMark_list (h : items ≠ []) :
    afterMark i (.list items) = ' ' :: stacked (i + 2) (itemBlocks (i + 2) items) := by
  obtain ⟨item, rest, rfl⟩ := List.exists_cons_of_ne_nil h
  rfl

theorem afterMark_map (h : entries ≠ []) :
    afterMark i (.map entries) = ' ' :: stacked (i + 2) (entryBlocks (i + 2) entries) := by
  obtain ⟨entry, rest, rfl⟩ := List.exists_cons_of_ne_nil h
  rfl

theorem afterKey_list (h : items ≠ []) :
    afterKey i n (.list items) =
      '\n' :: (List.replicate i ' ' ++ stacked i (itemBlocks i items)) := by
  obtain ⟨first, rest, rfl⟩ := List.exists_cons_of_ne_nil h
  rfl

theorem afterKey_map (h : entries ≠ []) :
    afterKey i n (.map entries) =
      '\n' :: (List.replicate (i + 2) ' ' ++ stacked (i + 2) (entryBlocks (i + 2) entries)) := by
  obtain ⟨first, rest, rfl⟩ := List.exists_cons_of_ne_nil h
  rfl

/-- What follows the mark of an item starts with a space. -/
theorem exists_afterMark (h : m.Legible n) : ∃ more, afterMark i m = ' ' :: more := by
  cases m with
  | scalar s => exact ⟨_, afterMark_scalar⟩
  | list items =>
    cases n with
    | zero => exact h.elim
    | succ n => exact ⟨_, afterMark_list h.1⟩
  | map entries =>
    cases n with
    | zero => exact h.elim
    | succ n => exact ⟨_, afterMark_map h.1⟩

/-- What follows the colon of a key starts with a space or a line feed. -/
theorem exists_afterKey {column : Nat} (h : m.Legible n) :
    ∃ c more, afterKey i column m = c :: more ∧ isSpaceOrBreak c = true := by
  cases m with
  | scalar s => exact ⟨_, _, afterKey_scalar, rfl⟩
  | list items =>
    cases n with
    | zero => exact h.elim
    | succ n => exact ⟨_, _, afterKey_list h.1, rfl⟩
  | map entries =>
    cases n with
    | zero => exact h.elim
    | succ n => exact ⟨_, _, afterKey_map h.1, rfl⟩

end Blocks

/-- What follows the marks of items at column `i` is cut into the lexemes of the items, for
manifests with some levels at most. -/
def ReadsAfterMark (n i : Nat) : Prop :=
  ∀ {item : Manifest} {a : Mark} {j : Nat} {rest : List Char} {outer : List Int} {ls : List Lexeme},
    item.Legible n → a.column = i + 1 → Continues i j rest outer ls →
      Reads ⟨afterMark i item ++ (List.replicate j ' ' ++ rest), a⟩
        i outer (item.lexemes false ++ ls)

/-- What follows the colons of keys at column `i` is cut into the lexemes of the values, for
manifests with some levels at most. -/
def ReadsAfterKey (n i : Nat) : Prop :=
  ∀ {value : Manifest} {column : Nat} {a : Mark} {j : Nat} {rest : List Char} {outer : List Int}
    {ls : List Lexeme}, value.Legible n → i < a.column → Continues i j rest outer ls →
      ReadsValue ⟨afterKey i column value ++ (List.replicate j ' ' ++ rest), a⟩ i outer
        (value.lexemes true ++ ls)

section Items

theorem follows_items (hitems : ∀ item ∈ items, item.Legible n) (hne : items ≠ []) :
    Follows i (stacked i (itemBlocks i items) ++ rest) := by
  obtain ⟨item, items, rfl⟩ := List.exists_cons_of_ne_nil hne
  obtain ⟨more, hmore⟩ := exists_afterMark (i := i) (hitems item (List.mem_cons_self ..))
  obtain ⟨tail, htail⟩ := exists_stacked i ('-' :: afterMark i item) (itemBlocks i items)
  rw [itemBlocks_cons, htail, hmore]
  exact follows_item

theorem itemBlocks_eq_nil : itemBlocks i items = [] ↔ items = [] := by
  cases items with
  | nil => exact iff_of_true rfl rfl
  | cons => exact iff_of_false (List.cons_ne_nil _ _) (List.cons_ne_nil _ _)

/-- The first item of a list, if its other items read. -/
theorem exists_firstItem {item : Manifest} (hmark : ReadsAfterMark n i)
    (hitems : ∀ it ∈ item :: items, it.Legible n) (h : Continues i j rest outer ls)
    (hreads : items ≠ [] → ∀ a : Mark, a.column = i →
      Reads ⟨stacked i (itemBlocks i items) ++ (List.replicate j ' ' ++ rest), a⟩ i outer
        (itemLexemes items ++ ls)) :
    ∃ more, stacked i (itemBlocks i (item :: items)) ++ (List.replicate j ' ' ++ rest) =
        '-' :: ' ' :: more ∧
      ∀ a : Mark, a.column = i → Reads ⟨' ' :: more, a.step '-'⟩ i outer
        (item.lexemes false ++ (itemLexemes items ++ ls)) := by
  rw [List.forall_mem_cons] at hitems
  -- behind the item stands the next one, or what stands behind the list
  obtain ⟨j', rest', hstacked, hcontinues⟩ : ∃ j' rest',
      stacked i (('-' :: afterMark i item) :: itemBlocks i items) ++
        (List.replicate j ' ' ++ rest) =
        '-' :: afterMark i item ++ (List.replicate j' ' ' ++ rest') ∧
      Continues i j' rest' outer (itemLexemes items ++ ls) :=
    continues_stacked h (fun hb => by rw [itemBlocks_eq_nil.mp hb, itemLexemes])
      (fun hb => follows_items hitems.2 fun he => hb (itemBlocks_eq_nil.mpr he))
      fun hb => hreads fun he => hb (itemBlocks_eq_nil.mpr he)
  obtain ⟨more, hmore⟩ := exists_afterMark (i := i) hitems.1
  rw [itemBlocks_cons, hstacked, hmore]
  refine ⟨more ++ (List.replicate j' ' ' ++ rest'), rfl, fun a ha => ?_⟩
  have hcolumn : (a.step '-').column = i + 1 := by
    rw [Mark.step, if_neg (by decide), ha]
  have hread := hmark hitems.1 hcolumn hcontinues
  rwa [hmore] at hread

variable (hmark : ReadsAfterMark n i) (hitems : ∀ item ∈ items, item.Legible n) (hne : items ≠ [])

include hmark hitems hne

/-- The items of an open list. -/
theorem reads_items (h : Continues i j rest outer ls) (ha : a.column = i) :
    Reads ⟨stacked i (itemBlocks i items) ++ (List.replicate j ' ' ++ rest), a⟩ i outer
      (itemLexemes items ++ ls) := by
  induction items generalizing a with
  | nil => exact absurd rfl hne
  | cons item items ih =>
    obtain ⟨more, hmore, hreads⟩ := exists_firstItem hmark hitems h fun hne _ ha =>
      ih (fun it hit => hitems it (List.mem_cons_of_mem _ hit)) hne ha
    rw [hmore, itemLexemes, List.cons_append, List.append_assoc]
    exact .entry (by rw [ha]) (hreads a ha)

/-- A list that starts a block. -/
theorem reads_list (h : Continues i j rest (o :: outer) ls) (ha : a.column = i) (ho : o < i) :
    Reads ⟨stacked i (itemBlocks i items) ++ (List.replicate j ' ' ++ rest), a⟩ o outer
      (.blockSequence :: (itemLexemes items ++ ls)) := by
  obtain ⟨item, items, rfl⟩ := List.exists_cons_of_ne_nil hne
  obtain ⟨more, hmore, hreads⟩ := exists_firstItem hmark hitems h fun hne _ ha =>
    reads_items hmark (fun it hit => hitems it (List.mem_cons_of_mem _ hit)) hne h ha
  rw [hmore, itemLexemes, List.cons_append, List.append_assoc]
  exact .openSequence (by rw [ha]; exact ho) (ha.symm ▸ hreads a ha)

end Items

section Entries

theorem follows_entries (hentries : ∀ e ∈ entries, isPlainKey e.1 = true ∧ e.2.Legible n)
    (hne : entries ≠ []) : Follows i (stacked i (entryBlocks i entries) ++ rest) := by
  obtain ⟨⟨key, value⟩, entries, rfl⟩ := List.exists_cons_of_ne_nil hne
  have hkey := (hentries _ (List.mem_cons_self ..)).1
  obtain ⟨tail, htail⟩ := exists_stacked i
    (key.toList ++ ':' :: afterKey i (i + key.toList.length + 1) value) (entryBlocks i entries)
  rw [entryBlocks_cons hkey, htail, List.append_assoc, List.append_assoc]
  exact follows_key (isKey_of_isPlainKey hkey)

theorem entryBlocks_eq_nil : entryBlocks i entries = [] ↔ entries = [] := by
  cases entries with
  | nil => exact iff_of_true rfl rfl
  | cons => exact iff_of_false (List.cons_ne_nil _ _) (List.cons_ne_nil _ _)

/-- The first entry of a mapping, if its other entries read. -/
theorem exists_firstEntry {value : Manifest} (hvalue : ReadsAfterKey n i)
    (hentries : ∀ e ∈ (key, value) :: entries, isPlainKey e.1 = true ∧ e.2.Legible n)
    (h : Continues i j rest outer ls)
    (hreads : entries ≠ [] → ∀ a : Mark, a.column = i →
      Reads ⟨stacked i (entryBlocks i entries) ++ (List.replicate j ' ' ++ rest), a⟩ i outer
        (entryLexemes entries ++ ls)) :
    ∃ c more, stacked i (entryBlocks i ((key, value) :: entries)) ++
      (List.replicate j ' ' ++ rest) =
        key.toList ++ ':' :: c :: more ∧ isSpaceOrBreak c = true ∧
      ∀ a : Mark, a.column = i → ReadsValue ⟨c :: more, (a.behind key.toList).step ':'⟩ i outer
        (value.lexemes true ++ (entryLexemes entries ++ ls)) := by
  rw [List.forall_mem_cons] at hentries
  obtain ⟨⟨hkey, hlegible⟩, hentries⟩ := hentries
  -- behind the value stands the next key, or what stands behind the mapping
  obtain ⟨j', rest', hstacked, hcontinues⟩ : ∃ j' rest',
      stacked i ((key.toList ++ ':' :: afterKey i (i + key.toList.length + 1) value) ::
          entryBlocks i entries) ++ (List.replicate j ' ' ++ rest) =
        key.toList ++ ':' :: afterKey i (i + key.toList.length + 1) value ++
          (List.replicate j' ' ' ++ rest') ∧
      Continues i j' rest' outer (entryLexemes entries ++ ls) :=
    continues_stacked h (fun hb => by rw [entryBlocks_eq_nil.mp hb, entryLexemes])
      (fun hb => follows_entries hentries fun he => hb (entryBlocks_eq_nil.mpr he))
      fun hb => hreads fun he => hb (entryBlocks_eq_nil.mpr he)
  obtain ⟨c, more, hmore, hc⟩ : ∃ c more,
      afterKey i (i + key.toList.length + 1) value = c :: more ∧ isSpaceOrBreak c = true :=
    exists_afterKey hlegible
  rw [entryBlocks_cons hkey, hstacked, hmore]
  refine ⟨c, more ++ (List.replicate j' ' ' ++ rest'), by simp, hc, fun a ha => ?_⟩
  have hcolumn : i < ((a.behind key.toList).step ':').column := by
    rw [Mark.step, if_neg (by decide), Mark.column_behind
      (isKey_of_isPlainKey hkey).newline_not_mem]
    simp only
    omega
  have hread : ReadsValue ⟨afterKey i (i + key.toList.length + 1) value ++
      (List.replicate j' ' ' ++ rest'), (a.behind key.toList).step ':'⟩ i outer _ :=
    hvalue hlegible hcolumn hcontinues
  rwa [hmore] at hread

variable (hvalue : ReadsAfterKey n i)
  (hentries : ∀ e ∈ entries, isPlainKey e.1 = true ∧ e.2.Legible n) (hne : entries ≠ [])

include hvalue hentries hne

/-- The entries of an open mapping. -/
theorem reads_entries (h : Continues i j rest outer ls) (ha : a.column = i) :
    Reads ⟨stacked i (entryBlocks i entries) ++ (List.replicate j ' ' ++ rest), a⟩ i outer
      (entryLexemes entries ++ ls) := by
  induction entries generalizing a with
  | nil => exact absurd rfl hne
  | cons e entries ih =>
    obtain ⟨key, value⟩ := e
    obtain ⟨c, more, hmore, hc, hreads⟩ := exists_firstEntry hvalue hentries h fun hne _ ha =>
      ih (fun e he => hentries e (List.mem_cons_of_mem _ he)) hne ha
    have hkey := isKey_of_isPlainKey (hentries _ (List.mem_cons_self ..)).1
    rw [hmore, entryLexemes]
    simp only [List.cons_append, List.append_assoc]
    exact .key hkey hc (by rw [ha]) (hreads a ha)

/-- A mapping, which starts a block. -/
theorem reads_map (h : Continues i j rest (o :: outer) ls) (ha : a.column = i) (ho : o < i) :
    Reads ⟨stacked i (entryBlocks i entries) ++ (List.replicate j ' ' ++ rest), a⟩ o outer
      (.blockMapping :: (entryLexemes entries ++ ls)) := by
  obtain ⟨⟨key, value⟩, entries, rfl⟩ := List.exists_cons_of_ne_nil hne
  obtain ⟨c, more, hmore, hc, hreads⟩ := exists_firstEntry hvalue hentries h fun hne _ ha =>
    reads_entries hvalue (fun e he => hentries e (List.mem_cons_of_mem _ he)) hne h ha
  have hkey := isKey_of_isPlainKey (hentries _ (List.mem_cons_self ..)).1
  rw [hmore, entryLexemes]
  simp only [List.cons_append, List.append_assoc]
  exact .openMapping hkey hc (by rw [ha]; exact ho) (ha.symm ▸ hreads a ha)

end Entries

section Scalars

variable {s : Scalar} (hs : s.Legible) (hwide : i + 2 < foldWidth)

include hs hwide

/-- A scalar on the line of the mark of an item, or of a key. -/
theorem gives_scalar {column taken : Nat} {allowed : Bool} (held : List Token) (ha : i < a.column)
    (h : Continues i j rest outer ls) :
    (within ⟨scalarText ⟨i + 2, true⟩ column s ++ '\n' :: (List.replicate j ' ' ++ rest), a⟩ i outer
      allowed [] held taken).Gives
        (held.map Token.lexeme ++ .scalar s.spelling s.bare :: ls) := by
  have hspelled : Spelled ⟨i + 2, true⟩ column (scalarText ⟨i + 2, true⟩ column s)
    s.spelling s.bare :=
    spelled_scalarText hs
  refine hspelled.gives (Int.ofNat_lt.mpr ha) h.follows (Int.ofNat_le.mpr h.le)
    (by simp only; omega)
    hwide (h.reads _ ?_)
  exact Mark.column_behind_newLine _ _

theorem reads_scalar (ha : a.column = i + 1) (h : Continues i j rest outer ls) :
    Reads ⟨afterMark i (.scalar s) ++ (List.replicate j ' ' ++ rest), a⟩ i outer
      (lexemes false (.scalar s) ++ ls) := by
  have hspelled : Spelled ⟨i + 2, true⟩ (i + 2) (scalarText ⟨i + 2, true⟩ (i + 2) s)
    s.spelling s.bare :=
    spelled_scalarText hs
  rw [afterMark_scalar, lexemes]
  simp only [List.cons_append, List.append_assoc, List.nil_append]
  refine Reads.spaces (n := 1) hspelled.ahead fun held taken => gives_scalar hs hwide held ?_ h
  rw [Mark.column_behind (by decide), ha]
  exact Nat.lt_succ_of_lt (Nat.lt_succ_self i)

theorem readsValue_scalar {column : Nat} (ha : i < a.column) (h : Continues i j rest outer ls) :
    ReadsValue ⟨afterKey i column (.scalar s) ++ (List.replicate j ' ' ++ rest), a⟩ i outer
      (lexemes true (.scalar s) ++ ls) := by
  have hspelled : Spelled ⟨i + 2, true⟩ (column + 1) (scalarText ⟨i + 2, true⟩ (column + 1) s)
      s.spelling s.bare := spelled_scalarText hs
  rw [afterKey_scalar, lexemes]
  simp only [List.cons_append, List.append_assoc, List.nil_append]
  refine ReadsValue.spaces (n := 1) hspelled.ahead fun taken => ?_
  refine gives_scalar hs hwide [] ?_ h
  rw [Mark.column_behind (by decide)]
  omega

end Scalars

section Levels

/-- A list item with one level more. A block of it starts on the line of the mark and ends before
what is left of it. -/
theorem readsAfterMark_succ (hwide : i + 2 < foldWidth) (hmark : ReadsAfterMark n (i + 2))
    (hkey : ReadsAfterKey n (i + 2)) : ReadsAfterMark (n + 1) i := by
  intro item a j rest outer ls hitem ha h
  have hlt : i < i + 2 := Nat.lt_add_of_pos_right (by decide)
  have hblock : (a.behind (List.replicate 1 ' ')).column = i + 2 := by
    rw [Mark.column_behind newline_not_mem_spaces, ha]
    rfl
  cases item with
  | scalar s => exact reads_scalar hitem hwide ha h
  | list items =>
    obtain ⟨hne, hitems⟩ := hitem
    rw [afterMark_list hne, lexemes, if_neg Bool.false_ne_true]
    simp only [List.cons_append, List.append_assoc, List.nil_append]
    exact Reads.spaces (n := 1) (follows_items hitems hne).ahead
      (reads_list hmark hitems hne (h.pop hlt) hblock (Int.ofNat_lt.mpr hlt))
  | map entries =>
    obtain ⟨hne, -, hentries⟩ := hitem
    rw [afterMark_map hne, lexemes]
    simp only [List.cons_append, List.append_assoc, List.nil_append]
    exact Reads.spaces (n := 1) (follows_entries hentries hne).ahead
      (reads_map hkey hentries hne (h.pop hlt) hblock (Int.ofNat_lt.mpr hlt))

/-- The value of a key with one level more. A list stands at the column of the key, so no block
starts there. -/
theorem readsAfterKey_succ (hwide : i + 2 < foldWidth) (hmark : ReadsAfterMark n i)
    (hkey : ReadsAfterKey n (i + 2)) : ReadsAfterKey (n + 1) i := by
  intro value column a j rest outer ls hvalue ha h
  have hlt : i < i + 2 := Nat.lt_add_of_pos_right (by decide)
  cases value with
  | scalar s => exact readsValue_scalar hvalue hwide ha h
  | list items =>
    obtain ⟨hne, hitems⟩ := hvalue
    rw [afterKey_list hne, lexemes, if_pos rfl]
    simp only [List.cons_append, List.append_assoc]
    exact Reads.newLine (follows_items hitems hne).ahead
      (reads_items hmark hitems hne h (Mark.column_behind_newLine _ _))
  | map entries =>
    obtain ⟨hne, -, hentries⟩ := hvalue
    rw [afterKey_map hne, lexemes]
    simp only [List.cons_append, List.append_assoc, List.nil_append]
    exact Reads.newLine (follows_entries hentries hne).ahead
      (reads_map hkey hentries hne (h.pop hlt) (Mark.column_behind_newLine _ _)
        (Int.ofNat_lt.mpr hlt))

/-- What follows marks and colons is cut into the lexemes of the manifests, as long as the lines
after the first of a text start left of where lines are folded. -/
theorem reads_levels (hwide : i + 2 * n + 2 < foldWidth) : ReadsAfterMark n i ∧
    ReadsAfterKey n i := by
  -- a level down, blocks stand two columns further to the right, except for the items below a key
  induction n generalizing i with
  | zero =>
    constructor
    · intro item a j rest outer ls hitem ha h
      cases item with
      | scalar s => exact reads_scalar hitem hwide ha h
      | list items => exact hitem.elim
      | map entries => exact hitem.elim
    · intro value column a j rest outer ls hvalue ha h
      cases value with
      | scalar s => exact readsValue_scalar hvalue hwide ha h
      | list items => exact hvalue.elim
      | map entries => exact hvalue.elim
  | succ n ih =>
    have hhere : ReadsAfterMark n i ∧ ReadsAfterKey n i := ih (by omega)
    have hinside : ReadsAfterMark n (i + 2) ∧ ReadsAfterKey n (i + 2) := ih (by omega)
    exact ⟨readsAfterMark_succ (by omega) hinside.1 hinside.2,
      readsAfterKey_succ (by omega) hhere.1 hinside.2⟩

end Levels

/-- The lexemes of a document that holds a mapping. -/
theorem scan_document (hentries : (Manifest.map entries).Legible (n + 1))
    (hwide : 2 * n + 2 < foldWidth) :
    ∃ ts, scan (document (.map entries)) = ⟨ts, none⟩ ∧
      ts.map Token.lexeme = lexemes false (.map entries) ++ [.streamEnd] := by
  obtain ⟨hne, -, hentries⟩ := hentries
  have hdocument : document (.map entries) = stacked 0 (entryBlocks 0 entries) := by
    rw [document]
    exact hne
  -- the mapping of the document is the only block around its end
  have hend : Continues 0 0 [] [-1] [.blockEnd, .streamEnd] :=
    ⟨Nat.le_refl 0, ⟨tokenAhead_nil, fun _ => rfl⟩, fun _ ha => .finish ha⟩
  have hreads : Reads ⟨stacked 0 (entryBlocks 0 entries) ++ (List.replicate 0 ' ' ++ []), ⟨0, 0, 0⟩⟩
      (-1) [] _ :=
    reads_map (reads_levels (by omega)).2 hentries hne hend rfl (by decide)
  simp only [List.replicate_zero, List.append_nil] at hreads
  obtain ⟨ts, hrun, hts⟩ := hreads [] 0 _ (Nat.lt_succ_self _)
  refine ⟨ts, ?_, ?_⟩
  · rw [hdocument]
    exact hrun
  · rw [hts, lexemes]
    simp

section Written

theorem isWritten_stacked {blocks : List (List Char)}
    (h : ∀ block ∈ blocks, ∀ c ∈ block, isWritten c = true) :
    ∀ c ∈ stacked i blocks, isWritten c = true := by
  induction blocks with
  | nil => nofun
  | cons block blocks ih =>
    rw [List.forall_mem_cons] at h
    cases blocks with
    | nil => exact h.1
    | cons next blocks =>
      rw [stacked, List.forall_mem_append, List.forall_mem_append]
      · exact ⟨⟨h.1, isWritten_spaces⟩, ih h.2⟩
      · exact List.cons_ne_nil _ _

theorem isWritten_itemBlocks (h : ∀ item ∈ items, ∀ c ∈ afterMark i item, isWritten c = true) :
    ∀ block ∈ itemBlocks i items, ∀ c ∈ block, isWritten c = true := by
  induction items with
  | nil => nofun
  | cons item items ih =>
    rw [List.forall_mem_cons] at h
    rw [itemBlocks_cons, List.forall_mem_cons, List.forall_mem_cons]
    exact ⟨⟨rfl, h.1⟩, ih h.2⟩

theorem isWritten_entryBlocks (h : ∀ e ∈ entries, isPlainKey e.1 = true ∧
      ∀ column, ∀ c ∈ afterKey i column e.2, isWritten c = true) :
    ∀ block ∈ entryBlocks i entries, ∀ c ∈ block, isWritten c = true := by
  induction entries with
  | nil => nofun
  | cons e entries ih =>
    obtain ⟨key, value⟩ := e
    rw [List.forall_mem_cons] at h
    obtain ⟨⟨hkey, hvalue⟩, hentries⟩ := h
    have hascii := isPlainAscii_of_plainAllowed (isKey_of_isPlainKey hkey).allowed
    rw [entryBlocks_cons hkey, List.forall_mem_cons, List.forall_mem_append, List.forall_mem_cons]
    exact ⟨⟨fun c hc => isWritten_of_isPlainAscii (hascii c hc), rfl, hvalue _⟩, ih hentries⟩

theorem isWritten_scalarLine {s : Scalar} {p : Placing} {column : Nat} (h : s.Legible) :
    ∀ c ∈ ' ' :: (scalarText p column s ++ ['\n']), isWritten c = true := by
  rw [List.forall_mem_cons, List.forall_mem_append]
  exact ⟨rfl, (spelled_scalarText h).isWritten, List.forall_mem_singleton.mpr rfl⟩

/-- What follows a mark or a colon is written text. -/
theorem isWritten_levels (h : m.Legible n) :
    (∀ c ∈ afterMark i m, isWritten c = true) ∧
      ∀ column, ∀ c ∈ afterKey i column m, isWritten c = true := by
  -- the induction is on the depth, since entries lie one level below
  induction n generalizing m i with
  | zero =>
    cases m with
    | scalar s =>
      simp only [afterMark_scalar, afterKey_scalar]
      exact ⟨isWritten_scalarLine h, fun _ => isWritten_scalarLine h⟩
    | list items => exact h.elim
    | map entries => exact h.elim
  | succ n ih =>
    cases m with
    | scalar s =>
      simp only [afterMark_scalar, afterKey_scalar]
      exact ⟨isWritten_scalarLine h, fun _ => isWritten_scalarLine h⟩
    | list items =>
      obtain ⟨hne, hitems⟩ := h
      have hblocks : ∀ i, ∀ c ∈ stacked i (itemBlocks i items), isWritten c = true := fun i =>
        isWritten_stacked (isWritten_itemBlocks fun item hitem => (ih (hitems item hitem)).1)
      simp only [afterMark_list hne, afterKey_list hne, List.forall_mem_cons,
        List.forall_mem_append]
      exact ⟨⟨rfl, hblocks _⟩, fun _ => ⟨rfl, isWritten_spaces, hblocks _⟩⟩
    | map entries =>
      obtain ⟨hne, -, hentries⟩ := h
      have hblocks : ∀ i, ∀ c ∈ stacked i (entryBlocks i entries), isWritten c = true := fun i =>
        isWritten_stacked (isWritten_entryBlocks fun e he =>
          ⟨(hentries e he).1, (ih (hentries e he).2).2⟩)
      simp only [afterMark_map hne, afterKey_map hne, List.forall_mem_cons, List.forall_mem_append]
      exact ⟨⟨rfl, hblocks _⟩, fun _ => ⟨rfl, isWritten_spaces, hblocks _⟩⟩

/-- A document is written text. -/
theorem isWritten_document (h : (Manifest.map entries).Legible (n + 1)) :
    ∀ c ∈ document (.map entries), isWritten c = true := by
  rw [document]
  · exact isWritten_stacked (isWritten_entryBlocks fun e he =>
      ⟨(h.2.2 e he).1, (isWritten_levels (h.2.2 e he).2).2⟩)
  · exact h.1

end Written

end Yaml

end StreamMesh
