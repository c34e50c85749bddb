import Mathlib.Data.List.Forall2
import StreamMesh.Proofs.Yaml.Reading
import StreamMesh.Proofs.Yaml.Spelling
import StreamMesh.Yaml.Document

/-!
# What nodes are read as

A node of a manifest is read as the manifest's value: no level of it fails, a scalar takes the tag
of what it was written for, and a mapping whose keys are texts merges nothing and keeps its order.

## Main definitions

* `Manifest.toValue` — a manifest as a value of a document
* `Node.Means` — what a node is read as, at every level

## Main results

* `Node.means_sequence`, `Node.means_mapping` — collections of nodes with a meaning
* `means_spelling` — a scalar is read as what it was written for
-/

namespace StreamMesh

namespace Scalar

/-- A scalar as a value of a document. -/
def toValue : Scalar → Value
  | null => .null
  | bool b => .bool b
  | int n => .int n
  | float x => .float x
  | str t => .ofRaw t

end Scalar

namespace Manifest

mutual

/-- A manifest as a value of a document: keys are texts, and the order is kept. -/
def toValue : Manifest → Value
  | .scalar s => s.toValue
  | .list items => .list (itemValues items)
  | .map entries => .map (entryValues entries)

/-- The values of the items of a list. -/
def itemValues : List Manifest → List Value
  | [] => []
  | item :: rest => item.toValue :: itemValues rest

/-- The entries of a mapping with their values. -/
def entryValues : List (String × Manifest) → List (Value × Value)
  | [] => []
  | (key, value) :: rest => (.str key, value.toValue) :: entryValues rest

end

theorem entryValues_eq_map (entries : List (String × Manifest)) :
    entryValues entries =
      (entries.map fun e => (e.1, e.2.toValue)).map fun r => (.str r.1, r.2) := by
  induction entries with
  | nil => rfl
  | cons e entries ih =>
    rw [entryValues, ih]
    rfl

end Manifest

namespace Value

variable {v : Value} {rs : List (String × Value)}

theorem putEntry_of_not_mem {key : String} (h : key ∉ rs.map Prod.fst) :
    putEntry (.str key) v (rs.map fun r => (.str r.1, r.2)) =
      (rs ++ [(key, v)]).map fun r => (.str r.1, r.2) := by
  induction rs with
  | nil => rfl
  | cons r rs ih =>
    rw [List.map_cons, List.mem_cons, not_or] at h
    rw [List.map_cons, putEntry, ih h.2, if_neg]
    · rfl
    · rw [sameKey, beq_iff_eq]
      exact fun e => h.1 e.symm

/-- Distinct texts as keys keep their order. -/
theorem ofEntries_of_nodup (h : (rs.map Prod.fst).Nodup) :
    ofEntries (rs.map fun r => (.str r.1, r.2)) = .map (rs.map fun r => (.str r.1, r.2)) := by
  -- the entries that are put already are the part of the list before the others
  have hfold : ∀ done : List (String × Value), ((done ++ rs).map Prod.fst).Nodup →
      (rs.map fun r => ((.str r.1, r.2) : Value × Value)).foldl
          (fun entries p => putEntry p.1 p.2 entries) (done.map fun r => (.str r.1, r.2)) =
        (done ++ rs).map fun r => (.str r.1, r.2) := by
    clear h
    induction rs with
    | nil =>
      intro done _
      rw [List.append_nil]
      rfl
    | cons r rs ih =>
      intro done hdone
      have hnew : r.1 ∉ done.map Prod.fst := by
        intro hmem
        rw [List.map_append, List.nodup_append] at hdone
        exact hdone.2.2 _ hmem _ (List.mem_cons_self ..) rfl
      rw [List.map_cons, List.foldl_cons, putEntry_of_not_mem hnew, ih, List.append_assoc]
      · rfl
      · rwa [List.append_assoc]
  rw [ofEntries]
  exact congrArg map (hfold [] h)

end Value

namespace Yaml

namespace Node

variable {n : Node} {v : Value} {ns : List Node} {vs : List Value} {es : List (Node × Node)}
  {rs : List (String × Value)} {t : Tag} {c : Content} {m : Mark}

/-- A node is read as a value at every level, given fuel for its levels. -/
def Means (n : Node) (v : Value) : Prop :=
  ∀ fuel level, n.depth ≤ fuel → n.read fuel level = (v, none)

theorem Means.toValue (h : n.Means v) : n.toValue = .ok v :=
  toValue_eq_ok_iff.mpr (h n.depth 0 (Nat.le_refl _))

theorem means_scalar (ht : isCollectionTag t = false) (h : (scalar t c m).readScalar = .ok v) :
    (scalar t c m).Means v := by
  intro fuel level hfuel
  cases fuel with
  | zero => simp [depth] at hfuel
  | succ fuel =>
    have hscalar : isCollectionTag (scalar t c m).tag = false := ht
    rw [read_of_not_collection hscalar, h]

theorem spelling_ofChars (cs : List Char) (bad : BrokenText → Error) :
    spelling (.ofChars cs) bad = .ok cs := by
  simp [spelling, Content.text, Content.ofChars]

/-- A whole number is read from its spelling. -/
theorem readScalar_int (cs : List Char) (m : Mark) :
    (scalar .int (.ofChars cs) m).readScalar = (wholeValue cs).map Value.int := by
  simp only [readScalar, tag, content, bind, Except.bind, spelling_ofChars]
  cases wholeValue cs <;> rfl

theorem means_raw {text : RawText} : (scalar .str ⟨text.points⟩ m).Means (.ofRaw text) :=
  means_scalar rfl (by simp [readScalar, tag, content, textValue, Content.text])

theorem means_text {s : String} : (scalar .str (.ofChars s.toList) m).Means (.str s) :=
  @means_raw _ (.whole s)

/-- A list of nodes is read as the list of what they are read as. -/
theorem means_sequence (h : List.Forall₂ Means ns vs) : (sequence .seq ns m).Means (.list vs) := by
  intro fuel level hfuel
  cases fuel with
  | zero => simp [depth] at hfuel
  | succ fuel =>
    have hitems : ns.map (read fuel (level + 1)) = vs.map fun v => (v, none) := by
      rw [depth, Nat.add_le_add_iff_right] at hfuel
      induction h with
      | nil => rfl
      | cons hn _ ih =>
        rw [itemsDepth, Nat.max_le] at hfuel
        rw [List.map_cons, List.map_cons, hn fuel _ hfuel.1, ih hfuel.2]
    have hfound : firstFinding (vs.map fun _ => none) = none :=
      firstFinding_eq_none_iff.mpr (by simp)
    simp only [read_sequence, hitems, List.map_map, Function.comp_def, List.map_id', hfound]

/-- An entry has a text as its key, and a node that is read as its value. -/
structure MeansEntry (e : Node × Node) (r : String × Value) : Prop where
  key : ∃ x, e.1 = .scalar .str (.ofChars r.1.toList) x
  value : e.2.Means r.2

/-- Among texts there is no key that marks a mapping to be merged. -/
theorem flattenEntries_of_forall (h : List.Forall₂ MeansEntry es rs) :
    flattenEntries es = .ok ([], es) := by
  induction h with
  | nil => rw [flattenEntries]
  | @cons e r _ _ hentry _ ih =>
    obtain ⟨k, v⟩ := e
    obtain ⟨x, rfl⟩ := hentry.key
    rw [flattenEntries, ih]
    rfl

/-- A mapping with distinct texts as keys is read with its entries in their order. -/
theorem means_mapping (h : List.Forall₂ MeansEntry es rs) (hnodup : (rs.map Prod.fst).Nodup) :
    (mapping .map es m).Means (.map (rs.map fun r => (.str r.1, r.2))) := by
  intro fuel level hfuel
  cases fuel with
  | zero => simp [depth] at hfuel
  | succ fuel =>
    have hall : allEntries (mapping .map es m) = .ok es := by
      rw [allEntries, flattenEntries_of_forall h]
      rfl
    -- keys are read as they are, and there is nothing to report of them
    have hentries : es.map (fun e => ((e.1.read fuel (level + 1)).1, (e.2.read fuel (level + 1)).1))
      =
          rs.map (fun r => (.str r.1, r.2)) ∧
        ∀ f ∈ es.map (entryFinding fuel (level + 1)), f = none := by
      clear hall hnodup
      rw [depth, Nat.add_le_add_iff_right] at hfuel
      induction h with
      | nil => exact ⟨rfl, List.forall_mem_nil _⟩
      | @cons e r _ _ hentry _ ih =>
        obtain ⟨k, v⟩ := e
        obtain ⟨x, rfl⟩ := hentry.key
        rw [entriesDepth, Nat.max_le, Nat.max_le] at hfuel
        have hkey := means_text fuel (level + 1) hfuel.1.1
        have hvalue := hentry.value fuel (level + 1) hfuel.1.2
        obtain ⟨hread, hnone⟩ := ih hfuel.2
        refine ⟨?_, List.forall_mem_cons.mpr ⟨?_, hnone⟩⟩
        · rw [List.map_cons, List.map_cons, hread, hkey, hvalue]
        · rw [entryFinding, hkey, hvalue]
          rfl
    rw [read_mapping hall, hentries.1, firstFinding_eq_none_iff.mpr hentries.2,
      Value.ofEntries_of_nodup hnodup]

end Node

open Reader

/-- The tag of a bare scalar without surrogates is that of its implicit type. -/
theorem scalarTag_ofChars (cs : List Char) :
    scalarTag ⟨none, none, none⟩ (.ofChars cs) true = .ofImplicit (Implicit.ofPlain cs) := by
  simp [scalarTag, spelledTag, Content.text, Content.ofChars]

/-- A text is read as a text, whether it is written bare or in quotes. -/
theorem scalarTag_text (t : RawText) :
    scalarTag ⟨none, none, none⟩ ⟨t.points⟩ (Scalar.str t).bare = .str := by
  cases hbare : (Scalar.str t).bare with
  | false => rfl
  | true =>
    cases t with
    | broken t => cases hbare
    | whole s =>
      rw [Scalar.bare, writtenPlain, Bool.and_eq_true, beq_iff_eq] at hbare
      exact (scalarTag_ofChars s.toList).trans (congrArg Tag.ofImplicit hbare.2)

/-- A scalar is read as what it was written for. -/
theorem means_spelling {s : Scalar} (h : s.Legible) {m : Mark} :
    (Node.scalar (scalarTag ⟨none, none, none⟩ s.spelling s.bare) s.spelling m).Means
      s.toValue := by
  cases s with
  | null => exact Node.means_scalar rfl rfl
  | bool b => cases b <;> exact Node.means_scalar rfl rfl
  | int n =>
    have htag : scalarTag ⟨none, none, none⟩ (.ofChars (wholeText n)) true = .int :=
      (scalarTag_ofChars _).trans (congrArg Tag.ofImplicit ofPlain_wholeText)
    have hread : (Node.scalar .int (.ofChars (wholeText n)) m).readScalar =
        (wholeValue (wholeText n)).map Value.int := Node.readScalar_int _ _
    rw [wholeValue_wholeText (of_decide_eq_true h)] at hread
    exact htag ▸ Node.means_scalar rfl hread
  | float x => exact h.elim
  | str t => exact scalarTag_text t ▸ Node.means_raw

end Yaml

end StreamMesh
