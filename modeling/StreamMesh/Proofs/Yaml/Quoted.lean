import Mathlib.Algebra.Group.Nat.Defs
import StreamMesh.Proofs.Text.Raw
import StreamMesh.Proofs.Yaml.Plain
import StreamMesh.Yaml.Token.Quoted

/-!
# Quoted text reads back

A text in single or in double quotes is read as the text that was written. In single quotes a row of
line feeds is written with one more, and a space may be written as a line break. In double quotes
everything but visible ASCII is escaped, surrogates as well, and a line may be broken after a
backslash.

## Main definitions

* `ReadsQuoted` — what stands from a place inside quotes up to the closing quote
* `ReadsSpaced` — the same in double quotes, also when spaces stand before it
* `ReadsSingle`, `ReadsDouble` — what is written for a text is read as it was meant

## Main results

* `ReadsQuoted.escaped` — an escape is read as the code point that it was written for
* `scanQuoted_single`, `scanQuoted_double` — a text in quotes reads back
-/

namespace StreamMesh.Yaml

variable {p : Placing} {m : Mark} {b c q : Char} {x : Point} {cs ds rest tail : List Char}
  {ps es : List Point} {n column : Nat} {before : Option Char} {inDouble : Bool} {k k' k₁ : Cursor}

/-- From a place inside quotes, some code points are read up to the closing quote, whatever the
number of steps that are allowed, if it is enough. -/
def ReadsQuoted (inDouble : Bool) (k : Cursor) (ps : List Point) (k' : Cursor) : Prop :=
  ∀ fuel, k.rest.length < fuel → quotedRest inDouble fuel k = .ok (⟨ps⟩, k')

/-- The number of a code point stands for the code point. -/
theorem Content.afterCode_code (t : Content) (x : Point) :
    t.afterCode x.code = ⟨[x] ++ t.points⟩ := by
  rw [afterCode, Point.ofCode_code]
  rfl

theorem isBreak_of_isSpaceOrBreak (h : isSpaceOrBreak c = false) : isBreak c = false := by
  simp only [isSpaceOrBreak, Bool.or_eq_false_iff] at h
  exact h.2

theorem stops_blank_of_isSpaceOrBreak (h : isSpaceOrBreak c = false) :
    Stops (fun c => c == ' ' || c == '\t') (c :: cs) := by
  simp only [isSpaceOrBreak, Bool.or_eq_false_iff] at h
  exact stops_cons (Bool.or_eq_false_iff.mpr h.1)

section Gaps

/-- A row of spaces is what stands up to the next character that ends no line. -/
theorem quotedGap_spaces (h : isSpaceOrBreak c = false) :
    quotedGap ⟨List.replicate n ' ' ++ c :: rest, m⟩ =
      .ok (List.replicate n ' ', ⟨c :: rest, m.behind (List.replicate n ' ')⟩) := by
  simp only [quotedGap, Cursor.spanWhile_spaces rfl (stops_blank_of_isSpaceOrBreak h),
    Cursor.lineBreak?_of_stops (stops_cons (isBreak_of_isSpaceOrBreak h)), List.isEmpty_cons]
  rfl

/-- Line feeds, and then an indentation before a character that ends no line. -/
theorem quotedBreaks_lines {i : Nat} (hi : 0 < i) (h : isSpaceOrBreak c = false) :
    quotedBreaks ⟨List.replicate n '\n' ++ (List.replicate i ' ' ++ c :: rest), m⟩ =
      .ok (List.replicate n '\n',
        ⟨c :: rest, m.behind (List.replicate n '\n' ++ List.replicate i ' ')⟩) := by
  induction n generalizing m with
  | zero =>
    -- an indented line is not one that parts documents
    have hseparator : ∀ tail m, (⟨List.replicate i ' ' ++ tail, m⟩ : Cursor).atSeparator =
      false := by
      obtain ⟨j, rfl⟩ := Nat.exists_eq_add_of_lt hi
      exact fun tail m => Cursor.atSeparator_eq_false (.inl rfl)
    have hdrop : (⟨List.replicate i ' ' ++ c :: rest, m⟩ : Cursor).dropWhile
        (fun c => c == ' ' || c == '\t') = ⟨c :: rest, m.behind (List.replicate i ' ')⟩ :=
      congrArg Prod.snd (Cursor.spanWhile_spaces rfl (stops_blank_of_isSpaceOrBreak h))
    rw [List.replicate_zero, List.nil_append, quotedBreaks, hseparator, if_neg Bool.false_ne_true]
    dsimp only
    split
    · rw [hdrop, List.nil_append]
    · rename_i heq
      rw [hdrop, Cursor.lineBreak?_of_stops (stops_cons (isBreak_of_isSpaceOrBreak h))] at heq
      cases heq
  | succ n ih =>
    rw [List.replicate_succ, List.cons_append, quotedBreaks,
      Cursor.atSeparator_eq_false (.inr rfl), if_neg Bool.false_ne_true]
    dsimp only
    have hdrop : ∀ tail, (⟨'\n' :: tail, m⟩ : Cursor).dropWhile (fun c => c == ' ' || c == '\t') =
        ⟨'\n' :: tail, m⟩ := fun tail =>
          congrArg Prod.snd (Cursor.spanWhile_of_stops (stops_cons rfl))
    split
    · rename_i heq
      rw [hdrop, Cursor.lineBreak?_newline] at heq
      cases heq
    · rename_i heq
      rw [hdrop, Cursor.lineBreak?_newline] at heq
      cases heq
      rw [ih]
      rfl

/-- Line feeds with an indentation after the last are folded. -/
theorem quotedGap_lines {i : Nat} (hi : 0 < i) (h : isSpaceOrBreak c = false) :
    quotedGap ⟨'\n' :: (List.replicate n '\n' ++ (List.replicate i ' ' ++ c :: rest)), m⟩ =
      .ok (folded '\n' (List.replicate n '\n'),
        ⟨c :: rest, m.behind ('\n' :: (List.replicate n '\n' ++ List.replicate i ' '))⟩) := by
  rw [quotedGap, Cursor.spanWhile_of_stops (stops_cons rfl)]
  simp only [List.isEmpty_cons, Bool.false_eq_true, if_false, Cursor.lineBreak?_newline,
    quotedBreaks_lines hi h]
  rfl

end Gaps

namespace ReadsQuoted

/-- The closing quote. -/
theorem close (hq : q = if inDouble then '"' else '\'') (htail : tail.head? ≠ some '\'') :
    ReadsQuoted inDouble ⟨q :: tail, m⟩ [] ⟨tail, m.step q⟩ := by
  intro fuel hfuel
  obtain ⟨fuel, rfl⟩ := Nat.exists_eq_succ_of_ne_zero (Nat.ne_zero_of_lt hfuel)
  cases inDouble with
  | false =>
    obtain rfl : q = '\'' := hq
    simp [quotedRest, isSpaceOrBreak, isBreak, htail, Cursor.next_cons (c := '\'') rfl]
    rfl
  | true =>
    obtain rfl : q = '"' := hq
    simp [quotedRest, isSpaceOrBreak, isBreak, Cursor.next_cons (c := '"') rfl]
    rfl

/-- A gap before what stands after it. -/
theorem gap {gap : List Char} (hgap : quotedGap ⟨gap ++ rest, m⟩ = .ok (ds, ⟨rest, m.behind gap⟩))
    (hstart : ∃ g gs, gap = g :: gs ∧ isSpaceOrBreak g = true)
    (h : ReadsQuoted inDouble ⟨rest, m.behind gap⟩ ps k') :
    ReadsQuoted inDouble ⟨gap ++ rest, m⟩ (ds.map .char ++ ps) k' := by
  obtain ⟨g, gs, rfl, hg⟩ := hstart
  intro fuel hfuel
  obtain ⟨fuel, rfl⟩ := Nat.exists_eq_succ_of_ne_zero (Nat.ne_zero_of_lt hfuel)
  have hrest := h fuel (by simp only [List.length_append, List.length_cons] at hfuel ⊢; omega)
  rw [List.cons_append] at hgap ⊢
  simp only [quotedRest, hg, if_true, hgap, bind, Except.bind, hrest]
  rfl

/-- A character that stands for itself. -/
theorem char (hw : isWritten c = true) (hc : isSpaceOrBreak c = false)
    (hescape : ¬ (inDouble = true ∧ c = '\\')) (hquote : c ≠ if inDouble then '"' else '\'')
    (h : ReadsQuoted inDouble ⟨rest, m.step c⟩ ps k') :
    ReadsQuoted inDouble ⟨c :: rest, m⟩ (.char c :: ps) k' := by
  intro fuel hfuel
  obtain ⟨fuel, rfl⟩ := Nat.exists_eq_succ_of_ne_zero (Nat.ne_zero_of_lt hfuel)
  have hrest := h fuel (Nat.lt_of_succ_lt_succ hfuel)
  have hdouble : ¬ (inDouble = false ∧ c = '\'') := by
    rintro ⟨rfl, rfl⟩
    exact hquote rfl
  simp only [quotedRest, hc, Cursor.next_cons hw, hrest]
  cases inDouble <;> simp_all <;> rfl

/-- A doubled quote stands for one. -/
theorem doubledQuote (h : ReadsQuoted false ⟨rest, (m.step '\'').step '\''⟩ ps k') :
    ReadsQuoted false ⟨'\'' :: '\'' :: rest, m⟩ (.char '\'' :: ps) k' := by
  intro fuel hfuel
  obtain ⟨fuel, rfl⟩ := Nat.exists_eq_succ_of_ne_zero (Nat.ne_zero_of_lt hfuel)
  have hrest := h fuel (by simp only [List.length_cons] at hfuel ⊢; omega)
  have hquote : isSpaceOrBreak '\'' = false := rfl
  simp [quotedRest, hquote, Cursor.next_cons (c := '\'') rfl, hrest, bind, Except.bind]
  rfl

/-- A backslash with a meaning. -/
theorem escape (es : List Point) {meaning : List Char ⊕ Nat}
    (hread : readEscape ⟨rest, m.step '\\'⟩ = .ok (meaning, k₁))
    (hlt : k₁.rest.length ≤ rest.length)
    (hmeaning : ∀ t : Content, (match meaning with
      | .inl ds => t.after ds
      | .inr code => t.afterCode code) = ⟨es ++ t.points⟩)
    (h : ReadsQuoted true k₁ ps k') : ReadsQuoted true ⟨'\\' :: rest, m⟩ (es ++ ps) k' := by
  intro fuel hfuel
  obtain ⟨fuel, rfl⟩ := Nat.exists_eq_succ_of_ne_zero (Nat.ne_zero_of_lt hfuel)
  have hrest := h fuel (by simp only [List.length_cons] at hfuel; omega)
  have hslash : isSpaceOrBreak '\\' = false := rfl
  have hpoints := hmeaning ⟨ps⟩
  simp only [quotedRest, hslash, Cursor.next_cons (c := '\\') rfl, hread, bind, Except.bind, hrest]
  cases meaning <;> simp_all [pure, Except.pure]

end ReadsQuoted

/-- A text starts with a row of a character, which may be empty. -/
theorem exists_replicate (b : Char) (cs : List Char) :
    ∃ n rest, cs = List.replicate n b ++ rest ∧ rest.head? ≠ some b := by
  induction cs with
  | nil => exact ⟨0, [], rfl, nofun⟩
  | cons c cs ih =>
    by_cases hc : c = b
    · obtain ⟨n, rest, rfl, hrest⟩ := ih
      exact ⟨n + 1, rest, hc ▸ rfl, hrest⟩
    · exact ⟨0, c :: cs, rfl, fun h => hc (Option.some.inj h)⟩

section Single

theorem singleBody_spaces_after :
    singleBody p column (some ' ') (List.replicate n ' ' ++ cs) =
      List.replicate n ' ' ++ singleBody p (column + n) (some ' ') cs := by
  induction n generalizing column with
  | zero => rfl
  | succ n ih =>
    rw [List.replicate_succ, List.cons_append, singleBody, if_neg (by simp [foldsAt]),
      if_neg (by decide), if_neg (by decide), ih, List.cons_append, Nat.add_assoc, Nat.add_comm 1]

/-- A row of spaces is written as it is, or a single one as a line break. -/
theorem singleBody_spaces :
    ∃ gap column', singleBody p column before (List.replicate (n + 1) ' ' ++ cs) =
      gap ++ singleBody p column' (some ' ') cs ∧ IsGap p n gap := by
  rw [List.replicate_succ, List.cons_append, singleBody]
  split
  · rename_i hfold
    -- only a space that no other follows is folded
    have hn : n = 0 := by
      cases n with
      | zero => rfl
      | succ n => simp [foldsAt, List.replicate_succ, blankNext] at hfold
    subst hn
    exact ⟨_, _, rfl, .inr ⟨rfl, rfl⟩⟩
  · rw [if_neg (by decide), if_neg (by decide), singleBody_spaces_after]
    exact ⟨_, _, rfl, .inl rfl⟩

theorem singleBody_lines_after (hcs : cs.head? ≠ some '\n') :
    singleBody p column (some '\n') (List.replicate (n + 1) '\n' ++ cs) =
      List.replicate (n + 1) '\n' ++ (List.replicate p.indent ' ' ++
        singleBody p p.indent (some '\n') cs) := by
  induction n generalizing column with
  | zero => simp [singleBody, hcs]
  | succ n ih =>
    have hhead : (List.replicate (n + 1) '\n' ++ cs).head? = some '\n' := rfl
    rw [List.replicate_succ, List.cons_append, singleBody, if_neg (by simp), if_pos rfl, if_pos rfl,
      if_pos hhead, ih]
    rfl

/-- A row of line feeds is written with one more, and then an indentation. -/
theorem singleBody_lines (hbefore : before ≠ some '\n') (hcs : cs.head? ≠ some '\n') :
    singleBody p column before (List.replicate (n + 1) '\n' ++ cs) =
      '\n' :: (List.replicate (n + 1) '\n' ++ (List.replicate p.indent ' ' ++
        singleBody p p.indent (some '\n') cs)) := by
  rw [List.replicate_succ, List.cons_append, singleBody, if_neg (by simp), if_pos rfl,
    if_neg hbefore]
  cases n with
  | zero => simp [hcs]
  | succ n =>
    have hhead : (List.replicate (n + 1) '\n' ++ cs).head? = some '\n' := rfl
    rw [if_pos hhead, singleBody_lines_after hcs]
    rfl

theorem isPlainAscii_of_singleAllowed (h : singleAllowed (c :: cs) = true) (hc : c ≠ '\n') :
    isPlainAscii c = true := by
  simp only [singleAllowed, List.all_cons, Bool.and_eq_true, Bool.or_eq_true, beq_iff_eq, hc,
    false_or] at h
  exact h.1.1

/-- What follows a space or a line feed starts with neither. -/
theorem singleBody_ahead (h : singleAllowed cs = true) (hspace : cs.head? ≠ some ' ')
    (hline : cs.head? ≠ some '\n') :
    ∃ c rest, singleBody p column before cs ++ '\'' :: tail = c :: rest ∧
      isSpaceOrBreak c = false := by
  cases cs with
  | nil => exact ⟨_, _, rfl, rfl⟩
  | cons c cs =>
    have hc' : c ≠ ' ' := fun e => hspace (e ▸ rfl)
    have hc : c ≠ '\n' := fun e => hline (e ▸ rfl)
    have hblank := isSpaceOrBreak_eq_false (isPlainAscii_of_singleAllowed h hc) hc'
    rw [singleBody, if_neg fun e => hc' e.1, if_neg hc]
    split
    · exact ⟨_, _, rfl, rfl⟩
    · exact ⟨_, _, rfl, hblank⟩

theorem IsGap.quotedGap {gap : List Char} (h : IsGap p n gap) (hp : 0 < p.indent)
    (hc : isSpaceOrBreak c = false) :
    quotedGap ⟨gap ++ c :: rest, m⟩ =
      .ok (List.replicate (n + 1) ' ', ⟨c :: rest, m.behind gap⟩) := by
  rcases h with rfl | ⟨rfl, rfl⟩
  · exact quotedGap_spaces hc
  · exact quotedGap_lines (n := 0) hp hc

theorem IsGap.start {gap : List Char} (h : IsGap p n gap) :
    ∃ g gs, gap = g :: gs ∧ isSpaceOrBreak g = true := by
  rcases h with rfl | ⟨-, rfl⟩ <;> exact ⟨_, _, rfl, rfl⟩

/-- A row of line feeds with one more reads as the row. -/
theorem folded_newlines : folded '\n' (List.replicate (n + 1) '\n') = List.replicate (n + 1)
    '\n' := by
  simp [folded, List.replicate_succ]

theorem singleAllowed_append (h : singleAllowed (ds ++ cs) = true) : singleAllowed cs = true := by
  induction ds with
  | nil => exact h
  | cons d ds ih =>
    refine ih ?_
    simp only [singleAllowed, List.cons_append, List.all_cons, Bool.and_eq_true,
      Bool.not_eq_true'] at h ⊢
    refine ⟨h.1.2, ?_⟩
    have hlines := h.2
    -- the condition looks at two characters at a time
    generalize ds ++ cs = es at *
    cases es with
    | nil => rfl
    | cons e es =>
      simp only [blankAtLineEnd, Bool.or_eq_false_iff] at hlines
      exact hlines.2

/-- After a row of spaces or line feeds, neither follows. -/
theorem head?_of_singleAllowed (hb : b = ' ' ∨ b = '\n')
    (h : singleAllowed (List.replicate (n + 1) b ++ cs) = true) (hcs : cs.head? ≠ some b) :
    cs.head? ≠ some ' ' ∧ cs.head? ≠ some '\n' := by
  rw [List.replicate_succ', List.append_assoc] at h
  have h' := singleAllowed_append h
  cases cs with
  | nil => exact ⟨nofun, nofun⟩
  | cons c cs =>
    simp only [singleAllowed, Bool.and_eq_true, Bool.not_eq_true', List.singleton_append,
      blankAtLineEnd, Bool.or_eq_false_iff, List.head?_cons, ne_eq, Option.some.injEq] at h' hcs ⊢
    rcases hb with rfl | rfl <;> simp_all

/-- From a place after a character, what is written for a text in single quotes is read as it was
meant. -/
def ReadsSingle (p : Placing) (tail : List Char) (before : Option Char) (cs : List Char) : Prop :=
  ∀ column m, ReadsQuoted false ⟨singleBody p column before cs ++ '\'' :: tail, m⟩ (cs.map .char)
    ⟨tail, (m.behind (singleBody p column before cs)).step '\''⟩

/-- A row of spaces, of which a single one may be written as a line break. -/
theorem ReadsSingle.spaces (h : ReadsSingle p tail (some ' ') cs) (hp : 0 < p.indent)
    (hallowed : singleAllowed (List.replicate (n + 1) ' ' ++ cs) = true)
      (hhead : cs.head? ≠ some ' ') :
    ReadsSingle p tail before (List.replicate (n + 1) ' ' ++ cs) := by
  intro column m
  obtain ⟨gap, column', hwritten, hgap⟩ : ∃ gap column',
      singleBody p column before (List.replicate (n + 1) ' ' ++ cs) =
        gap ++ singleBody p column' (some ' ') cs ∧ IsGap p n gap := singleBody_spaces
  obtain ⟨hspace, hline⟩ := head?_of_singleAllowed (.inl rfl) hallowed hhead
  rw [hwritten, List.append_assoc, Mark.behind_append, List.map_append]
  refine .gap ?_ hgap.start (h _ _)
  obtain ⟨c, more, hahead, hc⟩ := singleBody_ahead (singleAllowed_append hallowed) hspace hline
  rw [hahead]
  exact hgap.quotedGap hp hc

/-- A row of line feeds, which is written with one more. -/
theorem ReadsSingle.lines (h : ReadsSingle p tail (some '\n') cs) (hp : 0 < p.indent)
    (hallowed : singleAllowed (List.replicate (n + 1) '\n' ++ cs) = true)
      (hhead : cs.head? ≠ some '\n')
    (hbefore : before ≠ some '\n') :
    ReadsSingle p tail before (List.replicate (n + 1) '\n' ++ cs) := by
  intro column m
  obtain ⟨hspace, hline⟩ := head?_of_singleAllowed (.inr rfl) hallowed hhead
  have hwritten : singleBody p column before (List.replicate (n + 1) '\n' ++ cs) =
      '\n' :: (List.replicate (n + 1) '\n' ++ List.replicate p.indent ' ') ++
        singleBody p p.indent (some '\n') cs := by
    rw [singleBody_lines hbefore hhead, List.cons_append, List.append_assoc]
  rw [hwritten, List.append_assoc, Mark.behind_append, List.map_append]
  refine .gap ?_ ⟨_, _, rfl, rfl⟩ (h _ _)
  obtain ⟨c, more, hahead, hc⟩ := singleBody_ahead (singleAllowed_append hallowed) hspace hline
  have hread : quotedGap ⟨'\n' :: (List.replicate (n + 1) '\n' ++
      (List.replicate p.indent ' ' ++ c :: more)), m⟩ = _ := quotedGap_lines hp hc
  rwa [folded_newlines, ← hahead, ← List.append_assoc, ← List.cons_append] at hread

/-- A character that stands for itself, or a quote, which is doubled. -/
theorem ReadsSingle.cons (h : ReadsSingle p tail (some c) cs)
    (hallowed : singleAllowed (c :: cs) = true) (hspace : c ≠ ' ') (hline : c ≠ '\n') :
    ReadsSingle p tail before (c :: cs) := by
  intro column m
  have hascii := isPlainAscii_of_singleAllowed hallowed hline
  rw [singleBody, if_neg fun h => hspace h.1, if_neg hline]
  by_cases hquote : c = '\''
  · rw [if_pos hquote]
    exact hquote ▸ .doubledQuote (h _ _)
  · rw [if_neg hquote]
    exact .char (isWritten_of_isPlainAscii hascii) (isSpaceOrBreak_eq_false hascii hspace)
      (fun h => Bool.false_ne_true h.1) hquote (h _ _)

/-- What stands in single quotes is read as it was meant. -/
theorem readsSingle {cs : List Char} {before : Option Char} (hp : 0 < p.indent)
    (hallowed : singleAllowed cs = true) (hbefore : before = some '\n' → cs.head? ≠ some '\n')
    (htail : tail.head? ≠ some '\'') : ReadsSingle p tail before cs := by
  cases cs with
  | nil => exact fun _ _ => .close rfl htail
  | cons c cs =>
    by_cases hspace : c = ' '
    · subst hspace
      obtain ⟨n, rest, rfl, hhead⟩ := exists_replicate ' ' cs
      rw [← List.cons_append, ← List.replicate_succ] at hallowed ⊢
      have hrest : ReadsSingle p tail (some ' ') rest :=
        readsSingle hp (singleAllowed_append hallowed) nofun htail
      exact hrest.spaces hp hallowed hhead
    by_cases hline : c = '\n'
    · subst hline
      obtain ⟨n, rest, rfl, hhead⟩ := exists_replicate '\n' cs
      rw [← List.cons_append, ← List.replicate_succ] at hallowed ⊢
      have hrest : ReadsSingle p tail (some '\n') rest :=
        readsSingle hp (singleAllowed_append hallowed) (fun _ => hhead) htail
      exact hrest.lines hp hallowed hhead fun h => hbefore h rfl
    have hrest : singleAllowed cs = true := singleAllowed_append (List.singleton_append ▸ hallowed)
    have hnext : some c = some '\n' → cs.head? ≠ some '\n' := fun h =>
      absurd (Option.some.inj h) hline
    exact (readsSingle hp hrest hnext htail).cons hallowed hspace hline
termination_by cs.length

/-- A text in single quotes reads back. -/
theorem scanQuoted_single (hp : 0 < p.indent) (hallowed : singleAllowed cs = true)
    (htail : tail.head? ≠ some '\'') :
    scanQuoted false ⟨single p column cs ++ tail, m⟩ =
      .ok (.ofChars cs, ⟨tail, m.behind (single p column cs)⟩) := by
  have hbody : ReadsSingle p tail none cs := readsSingle hp hallowed nofun htail
  have hread := hbody (column + 1) (m.step '\'')
  simp only [scanQuoted, single, List.cons_append, List.append_assoc, List.nil_append,
    Cursor.next_cons (c := '\'') rfl, Mark.behind_cons, Mark.behind_append, Mark.behind_nil]
  exact hread _ (Nat.lt_succ_of_lt (Nat.lt_succ_self _))

theorem isWritten_spaces : ∀ c ∈ List.replicate n ' ', isWritten c = true := fun _ hc =>
  List.eq_of_mem_replicate hc ▸ rfl

theorem isWritten_newLine : ∀ c ∈ p.newLine, isWritten c = true :=
  List.forall_mem_cons.mpr ⟨rfl, isWritten_spaces⟩

theorem isWritten_singleBody (h : ∀ c ∈ cs, isWritten c = true) :
    ∀ c ∈ singleBody p column before cs, isWritten c = true := by
  induction cs generalizing column before with
  | nil => exact List.forall_mem_nil _
  | cons c cs ih =>
    rw [List.forall_mem_cons] at h
    rw [singleBody]
    split
    · exact List.forall_mem_append.mpr ⟨isWritten_newLine, ih h.2⟩
    split
    · refine List.forall_mem_append.mpr ⟨List.forall_mem_append.mpr ⟨?_, ?_⟩, ih h.2⟩
      · split <;> simp [isWritten]
      · split
        · exact List.forall_mem_nil _
        · exact isWritten_spaces
    split
    · exact List.forall_mem_cons.mpr ⟨rfl, List.forall_mem_cons.mpr ⟨rfl, ih h.2⟩⟩
    · exact List.forall_mem_cons.mpr ⟨h.1, ih h.2⟩

theorem isWritten_single (h : singleAllowed cs = true) :
    ∀ c ∈ single p column cs, isWritten c = true := by
  simp only [singleAllowed, Bool.and_eq_true, List.all_eq_true] at h
  exact List.forall_mem_cons.mpr ⟨rfl, List.forall_mem_append.mpr
    ⟨isWritten_singleBody h.1, List.forall_mem_singleton.mpr rfl⟩⟩

end Single

section Escapes

/-- A letter after a backslash stands for the character that it was written for. -/
theorem lookup_escapes {letter : Char} (h : letterEscapes.lookup c = some letter) :
    escapes.lookup letter = some c ∧ isPlainAscii letter = true := by
  have hall : ∀ e ∈ letterEscapes, escapes.lookup e.2 = some e.1 ∧ isPlainAscii e.2 = true := by
    decide
  obtain ⟨before, after, hlist, -⟩ := List.lookup_eq_some_iff.mp h
  exact hall (c, letter) (hlist ▸ List.mem_append_right _ (List.mem_cons_self ..))

/-- The escape of a number is a letter and as many hexadecimal digits as the letter asks for. -/
theorem exists_codeEscape (hn : n ≤ 0x10FFFF) : ∃ letter count, isWritten letter = true ∧
    codeEscape n = '\\' :: letter :: upperHex count n ∧ escapes.lookup letter = none ∧
    codeLength? letter = some count ∧ n < 16 ^ count := by
  unfold codeEscape
  split
  · rename_i hbyte
    exact ⟨'x', 2, rfl, rfl, by decide, rfl, Nat.lt_of_le_of_lt hbyte (by decide)⟩
  split
  · rename_i hshort
    exact ⟨'u', 4, rfl, rfl, by decide, rfl, Nat.lt_of_le_of_lt hshort (by decide)⟩
  · exact ⟨'U', 8, rfl, rfl, by decide, rfl, Nat.lt_of_le_of_lt hn (by decide)⟩

/-- An escape is a letter with a meaning of its own, or one that as many hexadecimal digits follow
as it asks for. -/
theorem of_doubled_eq_inr {text : List Char} (h : doubled x = .inr text) :
    ∃ letter, isWritten letter = true ∧
      ((∃ c, x = .char c ∧ text = ['\\', letter] ∧ escapes.lookup letter = some c) ∨
        ∃ count, text = '\\' :: letter :: upperHex count x.code ∧
          escapes.lookup letter = none ∧ codeLength? letter = some count ∧
          x.code < 16 ^ count) := by
  obtain ⟨letter, count, hw, htext, hrest⟩ := exists_codeEscape x.code_le
  cases x with
  | surrogate n => exact ⟨letter, hw, .inr ⟨count, (Sum.inr.inj h).symm.trans htext, hrest⟩⟩
  | char c =>
    rw [doubled] at h
    split at h
    · rename_i letter hlookup
      obtain ⟨hletter, hascii⟩ := lookup_escapes hlookup
      exact ⟨letter, isWritten_of_isPlainAscii hascii,
        .inl ⟨c, rfl, (Sum.inr.inj h).symm, hletter⟩⟩
    split at h
    · cases h
    · exact ⟨letter, hw, .inr ⟨count, (Sum.inr.inj h).symm.trans htext, hrest⟩⟩

theorem toNat_toUpper_digitChar (h : n < 16) :
    hexValue? (Nat.digitChar n).toUpper = some n ∧
      isPlainAscii (Nat.digitChar n).toUpper = true := by
  have hall : ∀ n : Fin 16, hexValue? (Nat.digitChar n).toUpper = some n.val ∧
      isPlainAscii (Nat.digitChar n).toUpper = true := by decide
  exact hall ⟨n, h⟩

theorem length_upperHex {count : Nat} : (upperHex count n).length = count := by
  induction count generalizing n with
  | zero => rfl
  | succ count ih => simp [upperHex, ih]

theorem isPlainAscii_upperHex {count : Nat} : ∀ c ∈ upperHex count n, isPlainAscii c = true := by
  induction count generalizing n with
  | zero => nofun
  | succ count ih =>
    rw [upperHex, List.forall_mem_append, List.forall_mem_singleton]
    exact ⟨ih, (toNat_toUpper_digitChar (Nat.mod_lt n (by decide))).2⟩

theorem isWritten_upperHex {count : Nat} : ∀ c ∈ upperHex count n, isWritten c = true := fun c hc =>
  isWritten_of_isPlainAscii (isPlainAscii_upperHex c hc)

theorem readHex_append {count more acc : Nat} (hds : ds.length = count) :
    readHex (count + more) acc (ds ++ cs) = (readHex count acc ds).bind fun n =>
      readHex more n cs := by
  subst hds
  induction ds generalizing acc with
  | nil => simp [readHex, Except.bind]
  | cons d ds ih =>
    rw [List.length_cons, Nat.add_right_comm, List.cons_append, readHex, readHex]
    cases hexValue? d with
    | none => rfl
    | some v => exact ih

/-- The digits of a number spell it. -/
theorem readHex_upperHex {count acc : Nat} :
    readHex count acc (upperHex count n ++ rest) = .ok (acc * 16 ^ count + n % 16 ^ count) := by
  induction count generalizing n rest with
  | zero => simp [readHex, Nat.mod_one]
  | succ count ih =>
    rw [upperHex, List.append_assoc, readHex_append length_upperHex,
      ← List.append_nil (upperHex _ _), ih]
    simp only [Except.bind, List.cons_append, readHex,
      (toNat_toUpper_digitChar (Nat.mod_lt n (by decide))).1]
    rw [Nat.pow_succ', Nat.mod_mul, Nat.mul_left_comm]
    congr 1
    omega

theorem Cursor.skip_written (h : ∀ c ∈ ds, isWritten c = true) :
    (⟨ds ++ rest, m⟩ : Cursor).skip ds.length = ⟨rest, m.behind ds⟩ := by
  induction ds generalizing m with
  | nil => rfl
  | cons d ds ih =>
    rw [List.forall_mem_cons] at h
    rw [List.cons_append, List.length_cons, Cursor.skip, Cursor.next_cons h.1, ih h.2]
    rfl

/-- A space or a letter after a backslash. -/
theorem readEscape_letter (hc : isWritten c = true) {d : Char} (h : escapes.lookup c = some d) :
    readEscape ⟨c :: rest, m⟩ = .ok (.inl [d], ⟨rest, m.step c⟩) := by
  simp [readEscape, Cursor.head?, h, Cursor.next_cons hc]

/-- The number of a code point in hexadecimal digits. -/
theorem readEscape_code {letter : Char} {count : Nat} (hc : isWritten letter = true)
    (hletter : escapes.lookup letter = none) (hcount : codeLength? letter = some count)
    (hn : x.code < 16 ^ count) :
    readEscape ⟨letter :: (upperHex count x.code ++ rest), m⟩ =
      .ok (.inr x.code, ⟨rest, m.behind (letter :: upperHex count x.code)⟩) := by
  have hskip : (⟨upperHex count x.code ++ rest, m.step letter⟩ : Cursor).skip
      (upperHex count x.code).length = _ := Cursor.skip_written isWritten_upperHex
  rw [length_upperHex] at hskip
  have hvalid := x.code_le
  have hsmall : ¬ Nat.pow 2 31 ≤ x.code := by
    intro h
    have : (2 : Nat) ^ 31 ≤ x.code := h
    omega
  simp only [readEscape, Cursor.head?, List.head?_cons, hletter, hcount, Cursor.next_cons hc,
    readHex_upperHex, Nat.zero_mul, Nat.zero_add, Nat.mod_eq_of_lt hn, if_neg hsmall,
    if_neg (Nat.not_lt.mpr hvalid), hskip]
  rfl

/-- A line break with indentation after a backslash. -/
theorem readEscape_newLine (hp : 0 < p.indent) (h : isSpaceOrBreak c = false) :
    readEscape ⟨p.newLine ++ c :: rest, m⟩ = .ok (.inl [], ⟨c :: rest, m.behind p.newLine⟩) := by
  have hbreaks : quotedBreaks ⟨List.replicate 0 '\n' ++ (List.replicate p.indent ' ' ++ c :: rest),
      m.step '\n'⟩ = _ := quotedBreaks_lines hp h
  have hlookup : escapes.lookup '\n' = none := by decide
  have hcode : codeLength? '\n' = none := by decide
  simp only [readEscape, Cursor.head?, Placing.newLine, List.cons_append, List.head?_cons, hlookup,
    hcode, Cursor.lineBreak?_newline]
  rw [List.replicate_zero, List.nil_append] at hbreaks
  rw [hbreaks]
  rfl

/-- The number of a code point is read as the code point. -/
theorem ReadsQuoted.code {letter : Char} {count : Nat} (hc : isWritten letter = true)
    (hletter : escapes.lookup letter = none) (hcount : codeLength? letter = some count)
    (hn : x.code < 16 ^ count)
    (h : ReadsQuoted true ⟨rest, m.behind ('\\' :: letter :: upperHex count x.code)⟩ ps k') :
    ReadsQuoted true ⟨'\\' :: letter :: (upperHex count x.code ++ rest), m⟩ (x :: ps) k' := by
  refine .escape [x] (readEscape_code hc hletter hcount hn) ?_ (fun t => t.afterCode_code x) h
  simp
  omega

/-- An escape is read as the code point that it was written for. -/
theorem ReadsQuoted.escaped {text : List Char} (htext : doubled x = .inr text)
    (h : ReadsQuoted true ⟨rest, m.behind text⟩ ps k') :
    ReadsQuoted true ⟨text ++ rest, m⟩ (x :: ps) k' := by
  obtain ⟨letter, hw, ⟨c, rfl, rfl, hletter⟩ | ⟨count, rfl, hletter, hcount, hn⟩⟩ :=
    of_doubled_eq_inr htext
  · exact .escape [.char c] (readEscape_letter hw hletter) (Nat.le_succ _) (fun _ => rfl) h
  · exact .code hw hletter hcount hn h

/-- A line break after a backslash is read as nothing. -/
theorem ReadsQuoted.newLine (hp : 0 < p.indent) (hc : isSpaceOrBreak c = false)
    (h : ReadsQuoted true ⟨c :: rest, m.behind ('\\' :: p.newLine)⟩ ps k') :
    ReadsQuoted true ⟨'\\' :: (p.newLine ++ c :: rest), m⟩ ps k' := by
  refine .escape [] (readEscape_newLine hp hc) ?_ (fun _ => rfl) h
  simp only [List.length_append]
  omega

/-- A space after a backslash. -/
theorem ReadsQuoted.escapedSpace (h : ReadsQuoted true ⟨rest, (m.step '\\').step ' '⟩ ps k') :
    ReadsQuoted true ⟨'\\' :: ' ' :: rest, m⟩ (.char ' ' :: ps) k' :=
  .escape [.char ' '] (readEscape_letter rfl (by decide)) (Nat.le_succ _) (fun _ => rfl) h

end Escapes

section Double

/-- A place inside double quotes from which code points are read, also when spaces stand before it:
they are written one by one, but a row of them is read at once. -/
def ReadsSpaced (rest : List Char) (m : Mark) (ps : List Point) (k' : Cursor) : Prop :=
  ∀ n m₀, m₀.behind (List.replicate n ' ') = m →
    ReadsQuoted true ⟨List.replicate n ' ' ++ rest, m₀⟩ (List.replicate n (.char ' ') ++ ps) k'

theorem ReadsSpaced.read (h : ReadsSpaced rest m ps k') : ReadsQuoted true ⟨rest, m⟩ ps k' :=
  h 0 m rfl

theorem ReadsQuoted.spaced (hc : isSpaceOrBreak c = false)
    (h : ReadsQuoted true ⟨c :: rest, m⟩ ps k') : ReadsSpaced (c :: rest) m ps k' := by
  rintro n m rfl
  cases n with
  | zero => exact h
  | succ n =>
    have hread := ReadsQuoted.gap (quotedGap_spaces hc) ⟨_, _, rfl, rfl⟩ h
    rwa [List.map_replicate] at hread

theorem ReadsSpaced.space (h : ReadsSpaced rest (m.step ' ') ps k') :
    ReadsSpaced (' ' :: rest) m (.char ' ' :: ps) k' := by
  rintro n m rfl
  have hread := h (n + 1) m (by rw [List.replicate_succ', Mark.behind_append]; rfl)
  rw [List.replicate_succ', List.replicate_succ', List.append_assoc, List.append_assoc] at hread
  exact hread

theorem exists_cons_of_doubled {text : List Char} (h : doubled x = .inr text) :
    ∃ more, text = '\\' :: more := by
  obtain ⟨letter, -, ⟨_, -, rfl, -⟩ | ⟨count, rfl, -⟩⟩ := of_doubled_eq_inr h <;> exact ⟨_, rfl⟩

/-- What stands for itself is a visible character, and neither a quote nor a backslash. -/
theorem of_doubled_eq_inl (h : doubled x = .inl c) :
    x = .char c ∧ isPlainAscii c = true ∧ c ≠ '"' ∧ c ≠ '\\' := by
  cases x with
  | surrogate n => cases h
  | char d =>
    have hd : isPlainAscii d = true ∧ d = c := by
      rw [doubled] at h
      split at h
      · cases h
      split at h
      · exact ⟨‹_›, Sum.inl.inj h⟩
      · cases h
    obtain ⟨hascii, rfl⟩ := hd
    refine ⟨rfl, hascii, ?_, ?_⟩
    · rintro rfl
      cases h
    · rintro rfl
      cases h

theorem doubleBreak_space :
    doubleBreak p (.char ' ' :: ps) = ('\\' :: (p.newLine ++ ['\\']), p.indent + 1) := if_pos rfl

theorem doubleBreak_of_ne (h : ps.head? ≠ some (.char ' ')) :
    doubleBreak p ps = ('\\' :: p.newLine, p.indent) := if_neg h

/-- Where no line is broken, a space is written as it is. -/
theorem doubleBody_space {first escaped : Bool} (h : column ≤ foldWidth) :
    doubleBody p column first escaped (.char ' ' :: ps) =
      ' ' :: doubleBody p (column + 1) false false ps := by
  have hspace : doubled (.char ' ') = .inl ' ' := by decide
  simp [doubleBody, hspace, Nat.not_lt.mpr h]

/-- What stands for a text that does not start with a space does not start with a blank. -/
theorem doubleBody_ahead {first escaped : Bool} (h : ps.head? ≠ some (.char ' ')) :
    ∃ c rest, doubleBody p column first escaped ps ++ '"' :: tail = c :: rest ∧
      isSpaceOrBreak c = false := by
  cases ps with
  | nil => exact ⟨_, _, rfl, rfl⟩
  | cons x ps =>
    rw [doubleBody]
    split
    · rename_i c hplain
      obtain ⟨rfl, hascii, -⟩ := of_doubled_eq_inl hplain
      split
      · rw [doubleBreak_of_ne h]
        exact ⟨_, _, rfl, rfl⟩
      · exact ⟨_, _, rfl, isSpaceOrBreak_eq_false hascii fun e => h (e ▸ rfl)⟩
    · rename_i hescape
      obtain ⟨more, rfl⟩ := exists_cons_of_doubled hescape
      dsimp only
      split <;> exact ⟨'\\', _, rfl, rfl⟩

/-- What is written for a text in double quotes is read as it was meant, wherever lines are
broken. -/
def ReadsDouble (p : Placing) (tail : List Char) (ps : List Point) : Prop :=
  ∀ column first escaped m, ReadsSpaced (doubleBody p column first escaped ps ++ '"' :: tail) m ps
    ⟨tail, (m.behind (doubleBody p column first escaped ps)).step '"'⟩

/-- A character that stands for itself, before which a line may be broken. -/
theorem ReadsDouble.cons (h : ReadsDouble p tail ps) (hp : 0 < p.indent)
    (hplain : doubled x = .inl c) : ReadsDouble p tail (x :: ps) := by
  intro column first escaped m
  obtain ⟨rfl, hascii, hquote, hslash⟩ := of_doubled_eq_inl hplain
  have hblank := isSpaceOrBreak_eq_false hascii
  have hchar : c ≠ ' ' → ∀ column m, ReadsQuoted true
      ⟨c :: doubleBody p column false false ps ++ '"' :: tail, m⟩ (.char c :: ps)
      ⟨tail, ((m.step c).behind (doubleBody p column false false ps)).step '"'⟩ := fun hspace _ _ =>
    .char (isWritten_of_isPlainAscii hascii) (hblank hspace) (fun e => hslash e.2) hquote
      (h _ _ _ _).read
  simp only [doubleBody, hplain]
  split
  · by_cases hspace : c = ' '
    · -- a space that starts a line stands after a backslash
      subst hspace
      rw [doubleBreak_space]
      simp only [List.cons_append, List.append_assoc, List.nil_append, Mark.behind_cons,
        Mark.behind_append]
      exact (ReadsQuoted.newLine hp rfl (h _ _ _ _).read.escapedSpace).spaced rfl
    · have hhead : (Point.char c :: ps).head? ≠ some (.char ' ') := fun e =>
        hspace (Point.char.inj (Option.some.inj e))
      rw [doubleBreak_of_ne hhead]
      simp only [List.cons_append, List.append_assoc, Mark.behind_cons, Mark.behind_append]
      exact (ReadsQuoted.newLine hp (hblank hspace) (hchar hspace _ _)).spaced rfl
  · by_cases hspace : c = ' '
    · exact hspace ▸ (h _ _ _ _).space
    · exact (hchar hspace _ _).spaced (hblank hspace)

/-- An escape, after which a line may be broken. -/
theorem ReadsDouble.escape {text : List Char} (h : ReadsDouble p tail ps) (hp : 0 < p.indent)
    (hwide : p.indent < foldWidth) (hescape : doubled x = .inr text)
    (hspaced : ∀ es, ps = .char ' ' :: es → ReadsDouble p tail es) :
    ReadsDouble p tail (x :: ps) := by
  intro column first escaped m
  have hread : ∀ {rest m ps k'}, ReadsQuoted true ⟨rest, m.behind text⟩ ps k' →
      ReadsSpaced (text ++ rest) m (x :: ps) k' := by
    obtain ⟨more, rfl⟩ := exists_cons_of_doubled hescape
    exact fun h => (ReadsQuoted.escaped hescape h).spaced rfl
  simp only [doubleBody, hescape]
  split
  · by_cases hspace : ps.head? = some (.char ' ')
    · -- the space is read after the backslash that starts the line
      obtain ⟨es, rfl⟩ := List.head?_eq_some_iff.mp hspace
      rw [doubleBreak_space]
      simp only [doubleBody_space (Nat.succ_le_of_lt hwide), List.cons_append, List.append_assoc,
        List.nil_append, Mark.behind_cons, Mark.behind_append]
      exact hread (.newLine hp rfl (hspaced es rfl _ _ _ _).read.escapedSpace)
    · rw [doubleBreak_of_ne hspace]
      obtain ⟨d, rest, hahead, hblank⟩ := doubleBody_ahead hspace
      simp only [List.cons_append, List.append_assoc, Mark.behind_cons, Mark.behind_append]
      have hrest := (h p.indent false true (((m.behind text).step '\\').behind p.newLine)).read
      rw [hahead] at hrest ⊢
      exact hread (.newLine hp hblank hrest)
  · simp only [List.append_assoc, Mark.behind_append]
    exact hread (h _ _ _ _).read

/-- What stands in double quotes is read as it was meant. -/
theorem readsDouble {ps : List Point} (hp : 0 < p.indent) (hwide : p.indent < foldWidth)
    (htail : tail.head? ≠ some '\'') : ReadsDouble p tail ps := by
  cases ps with
  | nil => exact fun _ _ _ _ => (ReadsQuoted.close rfl htail).spaced rfl
  | cons x ps =>
    have hrest : ReadsDouble p tail ps := readsDouble hp hwide htail
    cases hescape : doubled x with
    | inl c => exact hrest.cons hp hescape
    | inr text =>
      refine hrest.escape hp hwide hescape fun es hes => ?_
      subst hes
      exact readsDouble hp hwide htail
termination_by ps.length

/-- A text in double quotes reads back. -/
theorem scanQuoted_double (hp : 0 < p.indent) (hwide : p.indent < foldWidth)
    (htail : tail.head? ≠ some '\'') :
    scanQuoted true ⟨double p column ps ++ tail, m⟩ =
      .ok (⟨ps⟩, ⟨tail, m.behind (double p column ps)⟩) := by
  have hread : ReadsQuoted true ⟨doubleBody p (column + 1) true false ps ++ '"' :: tail, m.step '"'⟩
      ps _ := (readsDouble hp hwide htail _ _ _ _).read
  simp only [scanQuoted, double, List.cons_append, List.append_assoc, List.nil_append,
    Cursor.next_cons (c := '"') rfl, Mark.behind_cons, Mark.behind_append, Mark.behind_nil]
  exact hread _ (Nat.lt_succ_of_lt (Nat.lt_succ_self _))

theorem isWritten_escape {text : List Char} (h : doubled x = .inr text) :
    ∀ d ∈ text, isWritten d = true := by
  obtain ⟨letter, hw, ⟨_, -, rfl, -⟩ | ⟨count, rfl, -⟩⟩ := of_doubled_eq_inr h
  · exact List.forall_mem_cons.mpr ⟨rfl, List.forall_mem_singleton.mpr hw⟩
  · exact List.forall_mem_cons.mpr ⟨rfl, List.forall_mem_cons.mpr ⟨hw, isWritten_upperHex⟩⟩

theorem isWritten_doubleBreak : ∀ c ∈ (doubleBreak p ps).1, isWritten c = true := by
  unfold doubleBreak
  split
  · exact List.forall_mem_cons.mpr ⟨rfl, List.forall_mem_append.mpr
      ⟨isWritten_newLine, List.forall_mem_singleton.mpr rfl⟩⟩
  · exact List.forall_mem_cons.mpr ⟨rfl, isWritten_newLine⟩

theorem isWritten_doubleBody {first escaped : Bool} :
    ∀ c ∈ doubleBody p column first escaped ps, isWritten c = true := by
  induction ps generalizing column first escaped with
  | nil => nofun
  | cons x ps ih =>
    rw [doubleBody]
    split
    · rename_i hplain
      have hc := isWritten_of_isPlainAscii (of_doubled_eq_inl hplain).2.1
      dsimp only
      split
      · exact List.forall_mem_append.mpr ⟨isWritten_doubleBreak, List.forall_mem_cons.mpr ⟨hc, ih⟩⟩
      · exact List.forall_mem_cons.mpr ⟨hc, ih⟩
    · rename_i hescape
      have htext := isWritten_escape hescape
      dsimp only
      split
      · exact List.forall_mem_append.mpr
          ⟨List.forall_mem_append.mpr ⟨htext, isWritten_doubleBreak⟩, ih⟩
      · exact List.forall_mem_append.mpr ⟨htext, ih⟩

theorem isWritten_double : ∀ c ∈ double p column ps, isWritten c = true :=
  List.forall_mem_cons.mpr ⟨rfl, List.forall_mem_append.mpr
    ⟨isWritten_doubleBody, List.forall_mem_singleton.mpr rfl⟩⟩

end Double

end StreamMesh.Yaml
