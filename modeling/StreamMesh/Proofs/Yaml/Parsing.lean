import Mathlib.Data.List.TakeDrop
import Mathlib.Data.List.TakeWhile
import StreamMesh.Proofs.Yaml.Layout
import StreamMesh.Proofs.Yaml.Meaning

/-!
# Documents are read as their manifests

The tokens of a document are taken one node at a time: what is read of a manifest's lexemes means
the manifest's value, whatever tokens follow. With the way that its text is cut into tokens, the
text of a manifest is read as its value.

## Main definitions

* `Reader.Takes` — a step of reading that passes over some lexemes

## Main results

* `Reader.takesNodes` — a node is taken from the lexemes of a manifest
* `documentValue_render` — the text of a manifest is read as its value
-/

namespace StreamMesh

namespace Yaml

open Manifest

namespace Reader

variable {α β : Type} {r r' : Reader} {m : Manifest} {n fuel : Nat} {l l' : Lexeme}
  {ls ls' : List Lexeme} {next next' : Lexeme → Prop} {P : α → Prop} {Q : β → Prop}
  {items : List Manifest} {entries : List (String × Manifest)} {key : String} {flush : Bool}

theorem bind_ok {x : Read α} {f : α → Read β} {a : α} (h : x r = .ok (a, r')) :
    (x >>= f) r = f a r' := by
  simp only [Bind.bind, StateT.bind, h, Except.bind]

theorem finishCollection_ok {x : Read α} {make : α → Node} {start : Mark} {a : α}
    (h : x r = .ok (a, r')) :
    finishCollection ⟨none, none, none⟩ start x make r = .ok (make a, r') := by
  have hx : finishCollection ⟨none, none, none⟩ start x make r = (x >>= fun a => pure (make a)) r :=
    rfl
  rw [hx, bind_ok h]
  rfl

section Steps

variable {a b : Mark} {t : Token} {ts : List Token} {e : Error} {hs : List (String × String)}
  {ns : List Node} {es : List (Node × Node)}

theorem isAmong_eq_false : isAmong ls t = false ↔ t.lexeme ∉ ls := by
  rw [isAmong, Bool.eq_false_iff, ne_eq, List.contains_iff_mem]

theorem node_blockMapping (h : blockEntries fuel ⟨ts, e, hs, []⟩ = .ok (es, r)) :
    node true flush (fuel + 1) ⟨⟨.blockMapping, a, b⟩ :: ts, e, hs, []⟩ =
      .ok (.mapping .map es a, r) := by
  have hnode : node true flush (fuel + 1) ⟨⟨.blockMapping, a, b⟩ :: ts, e, hs, []⟩ =
      finishCollection ⟨none, none, none⟩ a (do advance; blockEntries fuel) (.mapping .map · a)
        ⟨⟨.blockMapping, a, b⟩ :: ts, e, hs, []⟩ := by
    rw [node]
    rfl
  rw [hnode]
  exact finishCollection_ok h

theorem node_blockSequence (h : blockItems fuel ⟨ts, e, hs, []⟩ = .ok (ns, r)) :
    node true flush (fuel + 1) ⟨⟨.blockSequence, a, b⟩ :: ts, e, hs, []⟩ =
      .ok (.sequence .seq ns a, r) := by
  have hnode : node true flush (fuel + 1) ⟨⟨.blockSequence, a, b⟩ :: ts, e, hs, []⟩ =
      finishCollection ⟨none, none, none⟩ a (do advance; blockItems fuel) (.sequence .seq · a)
        ⟨⟨.blockSequence, a, b⟩ :: ts, e, hs, []⟩ := by
    rw [node]
    rfl
  rw [hnode]
  exact finishCollection_ok h

/-- A list at the column of its key starts with its first item. -/
theorem node_flush (h : flushItems fuel ⟨⟨.entry, a, b⟩ :: ts, e, hs, []⟩ = .ok (ns, r)) :
    node true true (fuel + 1) ⟨⟨.entry, a, b⟩ :: ts, e, hs, []⟩ = .ok (.sequence .seq ns a, r) := by
  have hnode : node true true (fuel + 1) ⟨⟨.entry, a, b⟩ :: ts, e, hs, []⟩ =
      finishCollection ⟨none, none, none⟩ a (flushItems fuel) (.sequence .seq · a)
        ⟨⟨.entry, a, b⟩ :: ts, e, hs, []⟩ := by
    rw [node]
    rfl
  rw [hnode]
  exact finishCollection_ok h

variable (h : isAmong [.entry, .key, .value, .blockEnd] t = false)

include h in
theorem blockItems_entry :
    blockItems (fuel + 1) ⟨⟨.entry, a, b⟩ :: t :: ts, e, hs, []⟩ =
      (do return (← node true false fuel) :: (← blockItems fuel)) ⟨t :: ts, e, hs, []⟩ := by
  have hamong : ¬ isAmong [.entry, .blockEnd] t = true := by
    rw [Bool.not_eq_true, isAmong_eq_false]
    intro hmem
    refine isAmong_eq_false.mp h ?_
    simp only [List.mem_cons, List.not_mem_nil, or_false] at hmem ⊢
    exact hmem.imp_right fun hend => .inr (.inr hend)
  rw [blockItems]
  exact congrFun (if_neg hamong) _

include h in
theorem flushItems_entry :
    flushItems (fuel + 1) ⟨⟨.entry, a, b⟩ :: t :: ts, e, hs, []⟩ =
      (do return (← node true false fuel) :: (← flushItems fuel)) ⟨t :: ts, e, hs, []⟩ := by
  rw [flushItems]
  exact congrFun (if_neg (Bool.eq_false_iff.mp h)) _

theorem blockEntries_key (h : isAmong [.key, .value, .blockEnd] t = false) :
    blockEntries (fuel + 1) ⟨⟨.key, a, b⟩ :: t :: ts, e, hs, []⟩ =
      (do
        let k ← node true true fuel
        let v ← blockValue fuel
        return (k, v) :: (← blockEntries fuel)) ⟨t :: ts, e, hs, []⟩ := by
  rw [blockEntries]
  exact congrFun (if_neg (Bool.eq_false_iff.mp h)) _

theorem blockValue_value (h : isAmong [.key, .value, .blockEnd] t = false) :
    blockValue (fuel + 1) ⟨⟨.value, a, b⟩ :: t :: ts, e, hs, []⟩ =
      node true true fuel ⟨t :: ts, e, hs, []⟩ := by
  rw [blockValue]
  exact congrFun (if_neg (Bool.eq_false_iff.mp h)) _

end Steps

/-- A step of reading passes over some lexemes, before any lexeme of a kind, and gives a result with
a property. -/
def Takes (x : Read α) (ls : List Lexeme) (next : Lexeme → Prop) (P : α → Prop) : Prop :=
  ∀ ⦃ts : List Token⦄ (t : Token) (rest : List Token) (e : Error) (hs : List (String × String)),
    ts.map Token.lexeme = ls → next t.lexeme →
      ∃ a, x ⟨ts ++ t :: rest, e, hs, []⟩ = .ok (a, ⟨t :: rest, e, hs, []⟩) ∧ P a

namespace Takes

/-- Two steps pass over the lexemes of both, if those of the second may follow those of the
first. -/
theorem bind {x : Read α} {f : α → Read β} (hx : Takes x ls next P)
    (hf : ∀ a, P a → Takes (f a) ls' next' Q)
    (hnext : ∀ l, next' l → ∀ l', (ls' ++ [l]).head? = some l' → next l') :
    Takes (x >>= f) (ls ++ ls') next' Q := by
  intro ts t rest e hs hts ht
  obtain ⟨front, back, rfl, hfront, hback⟩ := List.map_eq_append_iff.mp hts
  -- the first step ends before the first token of the second, or before what follows both
  obtain ⟨t', rest', hrest, ht'⟩ : ∃ t' rest', back ++ t :: rest = t' :: rest' ∧
    next t'.lexeme := by
    cases back with
    | nil => exact ⟨t, rest, rfl, hnext _ ht _ (by rw [← hback]; rfl)⟩
    | cons t' back => exact ⟨t', back ++ t :: rest, rfl, hnext _ ht _ (by rw [← hback]; rfl)⟩
  obtain ⟨a, ha, hP⟩ := hx t' rest' e hs hfront ht'
  obtain ⟨b, hb, hQ⟩ := hf a hP t rest e hs hback ht
  refine ⟨b, ?_, hQ⟩
  rw [List.append_assoc, hrest, bind_ok ha, ← hrest, hb]

theorem map {x : Read α} {f : α → β} (hx : Takes x ls next P) (hf : ∀ a, P a → Q (f a)) :
    Takes (do return f (← x)) ls next Q := by
  intro ts t rest e hs hts ht
  obtain ⟨a, ha, hP⟩ := hx t rest e hs hts ht
  exact ⟨f a, by rw [bind_ok ha]; rfl, hf a hP⟩

theorem mono {x : Read α} (hx : Takes x ls next P) (h : ∀ l, next' l → next l) :
    Takes x ls next' P :=
  fun _ t rest e hs hts ht => hx t rest e hs hts (h _ ht)

/-- A step that makes its result, behind a mark, of what another takes there. -/
theorem started {x : Read α} {y : Read β} {make : Mark → α → β} (hx : Takes x ls next P)
    (hmake : ∀ c a, P a → Q (make c a))
    (hfirst : ∀ {a b : Mark} {ts : List Token} {e : Error} {hs : List (String × String)} {c : α}
      {r : Reader}, x ⟨ts, e, hs, []⟩ = .ok (c, r) →
        y ⟨⟨l, a, b⟩ :: ts, e, hs, []⟩ = .ok (make a c, r)) : Takes y (l :: ls) next Q := by
  intro ts t rest e hs hts ht
  obtain ⟨⟨_, a, b⟩, ts, rfl, rfl, hback⟩ := List.map_eq_cons_iff.mp hts
  obtain ⟨c, hc, hP⟩ := hx t rest e hs hback ht
  exact ⟨make a c, hfirst hc, hmake a c hP⟩

/-- A step that goes on as another behind a mark. -/
theorem cons {x y : Read α} (h : Takes y (l' :: ls) next P)
    (hfirst : ∀ a b t ts e hs, t.lexeme = l' →
      x ⟨⟨l, a, b⟩ :: t :: ts, e, hs, []⟩ = y ⟨t :: ts, e, hs, []⟩) :
    Takes x (l :: l' :: ls) next P := by
  intro ts t rest e hs hts ht
  obtain ⟨⟨_, a, b⟩, ts, rfl, rfl, hback⟩ := List.map_eq_cons_iff.mp hts
  obtain ⟨c, hc⟩ := h t rest e hs hback ht
  obtain ⟨t', ts, rfl, ht', -⟩ := List.map_eq_cons_iff.mp hback
  exact ⟨c, (hfirst a b t' _ e hs ht').trans hc.1, hc.2⟩

theorem single {x : Read α} (h : ∀ a b ts e hs, ∃ c,
    x ⟨⟨l, a, b⟩ :: ts, e, hs, []⟩ = .ok (c, ⟨ts, e, hs, []⟩) ∧ P c) : Takes x [l] next P := by
  intro ts t rest e hs hts _
  obtain ⟨⟨_, a, b⟩, ts, rfl, rfl, hback⟩ := List.map_eq_cons_iff.mp hts
  rw [List.map_eq_nil_iff.mp hback]
  exact h a b _ e hs

end Takes

/-- Nodes are taken from the lexemes of manifests with some levels at most. A list that is flush
with its key goes on as long as items follow. -/
def TakesNodes (n : Nat) : Prop :=
  ∀ {m : Manifest} {flush : Bool} {fuel : Nat}, m.Legible n →
    2 * (m.lexemes flush).length + 1 < fuel →
      Takes (node true flush fuel) (m.lexemes flush) (fun l => flush = true → l ≠ .entry)
        (Node.Means · m.toValue)

/-- What the lexemes of a manifest start with. -/
theorem exists_lexemes (h : m.Legible n) : ∃ l ls, m.lexemes flush = l :: ls ∧
    l ∉ [.key, .value, .blockEnd] ∧ (flush = false → l ≠ .entry) := by
  cases m with
  | scalar s => exact ⟨_, _, rfl, by simp, by simp⟩
  | map entries => exact ⟨_, _, rfl, by simp, by simp⟩
  | list items =>
    cases n with
    | zero => exact h.elim
    | succ n =>
      obtain ⟨item, items, rfl⟩ := List.exists_cons_of_ne_nil h.1
      cases flush with
      | true => exact ⟨_, _, by rw [lexemes, if_pos rfl, itemLexemes], by simp, nofun⟩
      | false => exact ⟨_, _, by rw [lexemes, if_neg Bool.false_ne_true], by simp, by simp⟩

theorem takes_scalar {s : Scalar} (h : s.Legible) :
    Takes (node true flush (fuel + 1)) [.scalar s.spelling s.bare] next
      (Node.Means · s.toValue) :=
  .single fun a b ts e hs => ⟨_, by rw [node]; rfl, means_spelling h (m := a)⟩

theorem takes_key (h : isPlainKey key = true) :
    Takes (node true true (fuel + 1)) [.scalar (.ofChars key.toList) true] (fun _ => True)
      fun k => ∃ a, k = .scalar .str (.ofChars key.toList) a := by
  rw [isPlainKey, Bool.and_eq_true] at h
  refine .single fun a b ts e hs => ⟨_, ?_, a, rfl⟩
  rw [node, ← scalarTag_text key, Scalar.bare, h.2]
  rfl

section Items

variable (hnode : TakesNodes n) (hitems : ∀ item ∈ items, item.Legible n)

include hnode hitems

/-- The items of a list, which `read` takes one by one until it meets what is last. -/
theorem takes_items {read : Nat → Read (List Node)} {last : List Lexeme}
    (hentry : ∀ fuel a b t ts e hs, isAmong [.entry, .key, .value, .blockEnd] t = false →
      read (fuel + 1) ⟨⟨.entry, a, b⟩ :: t :: ts, e, hs, []⟩ =
        (do return (← node true false fuel) :: (← read fuel)) ⟨t :: ts, e, hs, []⟩)
    (hlast : ∀ fuel, Takes (read (fuel + 1)) last next (· = []))
    (hfuel : 2 * (itemLexemes items).length < fuel) :
    Takes (read fuel) (itemLexemes items ++ last) next
      (List.Forall₂ Node.Means · (itemValues items)) := by
  obtain ⟨fuel, rfl⟩ := Nat.exists_eq_add_one_of_ne_zero (Nat.ne_zero_of_lt hfuel)
  induction items generalizing fuel with
  | nil =>
    intro ts t rest e hs hts ht
    obtain ⟨ns, hns, rfl⟩ := hlast fuel t rest e hs hts ht
    exact ⟨[], hns, by rw [itemValues]; exact .nil⟩
  | cons item items ih =>
    rw [List.forall_mem_cons] at hitems
    obtain ⟨l, ls, hls, hl, hne⟩ : ∃ l ls, item.lexemes false = l :: ls ∧
        l ∉ [.key, .value, .blockEnd] ∧ (false = false → l ≠ .entry) := exists_lexemes hitems.1
    simp only [itemLexemes, List.length_cons, List.length_append] at hfuel
    obtain ⟨fuel, rfl⟩ : ∃ k, fuel = k + 1 := ⟨fuel - 1, by omega⟩
    have hitem : Takes (node true false (fuel + 1)) (item.lexemes false)
      _ (Node.Means · item.toValue) :=
      hnode hitems.1 (by omega)
    -- an item is read, and the other items after it
    have hboth : Takes (do return (← node true false (fuel + 1)) :: (← read (fuel + 1)))
        (item.lexemes false ++ (itemLexemes items ++ last)) next
        (List.Forall₂ Node.Means · (itemValues (item :: items))) := by
      refine hitem.bind (fun a ha => ?_) fun _ _ _ _ h => absurd h Bool.false_ne_true
      rw [itemValues]
      exact (ih hitems.2 fuel (by omega)).map fun as has => .cons ha has
    rw [hls, List.cons_append] at hboth
    rw [itemLexemes, hls, List.cons_append, List.cons_append, List.cons_append, List.append_assoc]
    refine hboth.cons fun a b t ts e hs ht => hentry _ a b t ts e hs (isAmong_eq_false.mpr ?_)
    rw [ht, List.mem_cons]
    exact not_or.mpr ⟨hne rfl, hl⟩

theorem takes_blockItems (hfuel : 2 * (itemLexemes items).length < fuel) :
    Takes (blockItems fuel) (itemLexemes items ++ [.blockEnd]) (fun _ => True)
      (List.Forall₂ Node.Means · (itemValues items)) :=
  takes_items hnode hitems (fun _ _ _ _ _ _ _ => blockItems_entry)
    (fun _ => .single fun _ _ _ _ _ => ⟨[], by rw [blockItems]; rfl, rfl⟩) hfuel

theorem takes_flushItems (hfuel : 2 * (itemLexemes items).length < fuel) :
    Takes (flushItems fuel) (itemLexemes items) (· ≠ .entry)
      (List.Forall₂ Node.Means · (itemValues items)) := by
  have hlast : ∀ fuel, Takes (flushItems (fuel + 1)) [] (· ≠ .entry) (· = []) := by
    rintro fuel ts ⟨l, a, b⟩ rest e hs hts ht
    rw [List.map_eq_nil_iff.mp hts]
    refine ⟨[], ?_, rfl⟩
    rw [flushItems]
    cases l with
    | entry => exact absurd rfl ht
    | _ => rfl
  have hitems := takes_items hnode hitems (fun _ _ _ _ _ _ _ => flushItems_entry) hlast hfuel
  rwa [List.append_nil] at hitems

end Items

section Entries

variable (hnode : TakesNodes n)

include hnode

theorem takes_blockValue {value : Manifest} (h : value.Legible n)
    (hfuel : 2 * (value.lexemes true).length + 1 < fuel) :
    Takes (blockValue (fuel + 1)) (.value :: value.lexemes true) (· ≠ .entry)
      (Node.Means · value.toValue) := by
  obtain ⟨l, ls, hls, hl, -⟩ : ∃ l ls, value.lexemes true = l :: ls ∧
      l ∉ [.key, .value, .blockEnd] ∧ (true = false → l ≠ .entry) := exists_lexemes h
  have hvalue := hnode h hfuel
  rw [hls] at hvalue ⊢
  exact (hvalue.mono fun l hl _ => hl).cons fun a b t ts e hs ht =>
    blockValue_value (isAmong_eq_false.mpr (ht ▸ hl))

/-- The entries of a mapping up to its end. -/
theorem takes_blockEntries (hentries : ∀ e ∈ entries, isPlainKey e.1 = true ∧ e.2.Legible n)
    (hfuel : 2 * (entryLexemes entries).length < fuel) :
    Takes (blockEntries fuel) (entryLexemes entries ++ [.blockEnd]) (fun _ => True)
      (List.Forall₂ Node.MeansEntry · (entries.map fun e => (e.1, e.2.toValue))) := by
  obtain ⟨fuel, rfl⟩ := Nat.exists_eq_add_one_of_ne_zero (Nat.ne_zero_of_lt hfuel)
  induction entries generalizing fuel with
  | nil => exact .single fun _ _ _ _ _ => ⟨[], by rw [blockEntries]; rfl, .nil⟩
  | cons e entries ih =>
    obtain ⟨key, value⟩ := e
    rw [List.forall_mem_cons] at hentries
    obtain ⟨⟨hkey, hlegible⟩, hentries⟩ := hentries
    simp only [entryLexemes, List.length_cons, List.length_append] at hfuel
    obtain ⟨fuel, rfl⟩ : ∃ k, fuel = k + 1 := ⟨fuel - 1, by omega⟩
    have hvalue : Takes (blockValue (fuel + 1)) (.value :: value.lexemes true) (· ≠ .entry)
        (Node.Means · value.toValue) := takes_blockValue hnode hlegible (by omega)
    -- a key is read, its value, and the other entries after these
    have hall : Takes (do
          let k ← node true true (fuel + 1)
          let v ← blockValue (fuel + 1)
          return (k, v) :: (← blockEntries (fuel + 1)))
        ([.scalar (.ofChars key.toList) true] ++
          (.value :: value.lexemes true ++ (entryLexemes entries ++ [.blockEnd]))) (fun _ => True)
        (List.Forall₂ Node.MeansEntry · (((key, value) :: entries).map fun e =>
          (e.1, e.2.toValue))) := by
      refine (takes_key hkey).bind (fun k hk => ?_) fun _ _ _ _ => trivial
      refine hvalue.bind (fun v hv => ?_) ?_
      · exact (ih hentries fuel (by omega)).map fun es hes => .cons ⟨hk, hv⟩ hes
      · -- a value ends at the next key or at the end of the mapping, and not before an item
        intro l hl l' hl'
        rintro rfl
        cases entries with
        | nil => cases hl'
        | cons e entries => cases hl'
    rw [entryLexemes]
    simp only [List.cons_append, List.nil_append, List.append_assoc] at hall ⊢
    exact hall.cons fun a b t ts e hs ht => blockEntries_key (isAmong_eq_false.mpr (ht ▸ by simp))

end Entries

section Collections

variable (hnode : TakesNodes n)

include hnode

/-- A list that starts a block. -/
theorem takes_sequence (hitems : ∀ item ∈ items, item.Legible n)
    (hfuel : 2 * (itemLexemes items).length < fuel) :
    Takes (node true flush (fuel + 1)) (.blockSequence :: (itemLexemes items ++ [.blockEnd])) next
      (Node.Means · (.list (itemValues items))) :=
  ((takes_blockItems hnode hitems hfuel).mono fun _ _ => trivial).started
    (fun _ _ => Node.means_sequence) node_blockSequence

/-- A list at the column of its key. -/
theorem takes_flushSequence (hne : items ≠ []) (hitems : ∀ item ∈ items, item.Legible n)
    (hfuel : 2 * (itemLexemes items).length < fuel) :
    Takes (node true true (fuel + 1)) (itemLexemes items) (· ≠ .entry)
      (Node.Means · (.list (itemValues items))) := by
  intro ts t rest e hs hts ht
  obtain ⟨ns, hns, hmeans⟩ := takes_flushItems hnode hitems hfuel t rest e hs hts ht
  obtain ⟨item, items, rfl⟩ := List.exists_cons_of_ne_nil hne
  rw [itemLexemes] at hts
  obtain ⟨⟨_, a, b⟩, ts, rfl, rfl, -⟩ := List.map_eq_cons_iff.mp hts
  exact ⟨.sequence .seq ns a, node_flush hns, Node.means_sequence hmeans⟩

theorem takes_mapping (hnodup : (entries.map Prod.fst).Nodup)
    (hentries : ∀ e ∈ entries, isPlainKey e.1 = true ∧ e.2.Legible n)
    (hfuel : 2 * (entryLexemes entries).length < fuel) :
    Takes (node true flush (fuel + 1)) (.blockMapping :: (entryLexemes entries ++ [.blockEnd])) next
      (Node.Means · (.map (entryValues entries))) := by
  have hkeys : ((entries.map fun e => (e.1, e.2.toValue)).map Prod.fst).Nodup := by
    rwa [List.map_map]
  rw [entryValues_eq_map]
  exact ((takes_blockEntries hnode hentries hfuel).mono fun _ _ => trivial).started
    (fun _ _ h => Node.means_mapping h hkeys) node_blockMapping

end Collections

/-- A node that means a manifest's value is taken from the manifest's lexemes. -/
theorem takesNodes (n : Nat) : TakesNodes n := by
  -- the induction is on the levels; within a level, lists and mappings have their own
  induction n with
  | zero =>
    intro m flush fuel h hfuel
    obtain ⟨fuel, rfl⟩ := Nat.exists_eq_add_one_of_ne_zero (Nat.ne_zero_of_lt hfuel)
    cases m with
    | scalar s => exact takes_scalar h
    | list items => exact h.elim
    | map entries => exact h.elim
  | succ n ih =>
    intro m flush fuel h hfuel
    obtain ⟨fuel, rfl⟩ := Nat.exists_eq_add_one_of_ne_zero (Nat.ne_zero_of_lt hfuel)
    cases m with
    | scalar s => exact takes_scalar h
    | list items =>
      obtain ⟨hne, hitems⟩ := h
      cases flush with
      | true =>
        rw [lexemes, if_pos rfl] at hfuel ⊢
        exact (takes_flushSequence ih hne hitems (Nat.lt_of_succ_lt_succ hfuel)).mono fun l hl =>
          hl rfl
      | false =>
        rw [lexemes, if_neg Bool.false_ne_true] at hfuel ⊢
        simp only [List.length_cons, List.length_append] at hfuel
        exact takes_sequence ih hitems (by omega)
    | map entries =>
      obtain ⟨-, hnodup, hentries⟩ := h
      rw [lexemes] at hfuel ⊢
      simp only [List.length_cons, List.length_append] at hfuel
      exact takes_mapping ih hnodup hentries (by omega)

end Reader

variable {n : Nat} {entries : List (String × Manifest)}

/-- The only document of the tokens of a mapping means the mapping's value. -/
theorem exists_document {ts : List Token} (h : (Manifest.map entries).Legible n)
    (hts : ts.map Token.lexeme = lexemes false (.map entries) ++ [.streamEnd]) :
    ∃ node, Node.ofTokens? ⟨ts, none⟩ = .ok (some node) ∧
      node.Means (Manifest.map entries).toValue := by
  obtain ⟨ts, ends, rfl, hfront, hend⟩ := List.map_eq_append_iff.mp hts
  obtain ⟨⟨_, a, b⟩, _, rfl, rfl, hnil⟩ := List.map_eq_cons_iff.mp hend
  obtain rfl := List.map_eq_nil_iff.mp hnil
  have hfuel : 2 * (lexemes false (.map entries)).length + 1 <
      4 * (ts ++ [(⟨.streamEnd, a, b⟩ : Token)]).length + 8 := by
    rw [← hfront, List.length_map, List.length_append]
    omega
  obtain ⟨node, hnode, hmeans⟩ := Reader.takesNodes n h hfuel (⟨.streamEnd, a, b⟩ : Token) []
    .unreadable Reader.standardHandles hfront nofun
  refine ⟨node, ?_, hmeans⟩
  -- what starts with a block has neither directives nor a mark of its own
  rw [lexemes] at hfront
  obtain ⟨⟨_, c, d⟩, ts, rfl, rfl, -⟩ := List.map_eq_cons_iff.mp hfront
  have hfirst : Reader.firstDocument ⟨⟨.blockMapping, c, d⟩ :: ts ++ [⟨.streamEnd, a, b⟩],
    .unreadable,
        Reader.standardHandles, []⟩ =
      .ok (some node, ⟨[⟨.streamEnd, a, b⟩], .unreadable, Reader.standardHandles, []⟩) := by
    refine Eq.trans ?_ (Reader.bind_ok (f := fun n => pure (some n)) hnode)
    rfl
  have hdocument : Reader.document ⟨⟨.blockMapping, c, d⟩ :: ts ++ [⟨.streamEnd, a, b⟩],
    .unreadable,
        Reader.standardHandles, []⟩ =
      .ok (some node, ⟨[⟨.streamEnd, a, b⟩], .unreadable, Reader.standardHandles, []⟩) := by
    rw [Reader.document, Reader.bind_ok hfirst]
    rfl
  exact congrArg (Except.map Prod.fst) hdocument

theorem isAllowed_of_isWritten {c : Char} (h : isWritten c = true) : isAllowed c = true := by
  rw [isWritten, Bool.or_eq_true, beq_iff_eq] at h
  obtain rfl | h := h
  · rfl
  · have hc := toNat_of_isPlainAscii h
    simp [isAllowed, hc.1, hc.2]

theorem forbidden?_eq_none {cs : List Char} (h : ∀ c ∈ cs, isAllowed c = true) :
    forbidden? cs = none := by
  have hdrop : cs.dropWhile isAllowed = [] := List.dropWhile_eq_nil_iff.mpr h
  rw [forbidden?, List.span_eq_takeWhile_dropWhile]
  simp only [hdrop, List.head?_nil, Option.map_none]

/-- The text of a legible mapping is read as the mapping's value. -/
theorem documentValue_render (h : (Manifest.map entries).Legible (n + 1))
    (hwide : 2 * n + 2 < foldWidth) :
    documentValue (Manifest.map entries).spelled = .ok (Manifest.map entries).toValue := by
  obtain ⟨ts, hscan, hts⟩ := scan_document h hwide
  obtain ⟨node, hnode, hmeans⟩ := exists_document h hts
  have hallowed : forbidden? (document (.map entries)) = none :=
    forbidden?_eq_none fun c hc => isAllowed_of_isWritten (isWritten_document h c hc)
  rw [documentValue, Manifest.spelled, String.toList_ofList, hallowed, hscan]
  simp only [hnode]
  exact hmeans.toValue

end Yaml

end StreamMesh
