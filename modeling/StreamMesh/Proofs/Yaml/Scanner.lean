import StreamMesh.Proofs.Yaml.Quoted
import StreamMesh.Yaml.Token.Scan

/-!
# Scanning block by block

Between two tokens of written text the scanner is inside some blocks, and may hold back the start of
a key. What is cut from a place on does not depend on what is held back there, so the lexemes of a
text are put together from those of its parts, from the last to the first.

## Main definitions

* `Scanner.within` — the states between two tokens outside of flow collections
* `Scanner.Gives` — the lexemes that are cut from a state on
* `Reads`, `ReadsValue` — the lexemes that are cut from a place on, and from a place after a colon

## Main results

* `Reads.entry`, `Reads.key` — the mark of a list item, and a key with its colon
* `Reads.openSequence`, `Reads.openMapping` — the same where a block starts
* `Reads.pop`, `Reads.finish` — the ends of blocks
-/

namespace StreamMesh.Yaml

variable {m : Mark} {c : Char} {cs rest : List Char} {n : Nat} {ls : List Lexeme}
  {indent column : Int}
  {outer : List Int} {allowed : Bool} {keys : List (Nat × KeyStart)} {held : List Token}
  {taken : Nat} {k : Cursor}

/-- A text that is empty or starts with a token. -/
def TokenAhead (cs : List Char) : Prop :=
  ∀ c ∈ cs.head?, isPlainAscii c = true ∧ c ≠ ' ' ∧ c ≠ '#'

theorem tokenAhead_nil : TokenAhead [] := fun _ hc => absurd hc (Option.not_mem_none _)

theorem TokenAhead.stops (h : TokenAhead cs) : Stops isSpaceOrBreak cs := fun c hc =>
  isSpaceOrBreak_eq_false (h c hc).1 (h c hc).2.1

namespace Scanner

variable {s s' : Scanner}

/-- A state between two tokens outside of flow collections. -/
abbrev within (k : Cursor) (indent : Int) (outer : List Int) (allowed : Bool)
    (keys : List (Nat × KeyStart)) (held : List Token) (taken : Nat) : Scanner :=
  ⟨k, indent, outer, 0, allowed, keys, held, taken, false⟩

/-- From a state the rest of the text is cut into lexemes, whatever the number of steps that are
allowed, if it is enough. -/
def Gives (s : Scanner) (ls : List Lexeme) : Prop :=
  ∀ fuel, s.cursor.rest.length < fuel →
    ∃ ts, s.run fuel = ⟨ts, none⟩ ∧ ts.map Token.lexeme = ls

namespace Gives

/-- States from which the same tokens come next give the same lexemes. -/
theorem of_fetch_eq (hfetch : s.fetch = s'.fetch)
    (hle : s'.cursor.rest.length ≤ s.cursor.rest.length) (h : s'.Gives ls) : s.Gives ls := by
  intro fuel hfuel
  obtain ⟨ts, hrun, hts⟩ := h fuel (Nat.lt_of_le_of_lt hle hfuel)
  refine ⟨ts, ?_, hts⟩
  obtain ⟨fuel, rfl⟩ := Nat.exists_eq_succ_of_ne_zero (Nat.ne_zero_of_lt hfuel)
  rw [← hrun, run, run, hfetch]

/-- The last tokens. -/
theorem last (hfetch : s.fetch = .ok s') (hended : s'.ended = true) :
    s.Gives (s'.held.map Token.lexeme) := by
  intro fuel hfuel
  obtain ⟨fuel, rfl⟩ := Nat.exists_eq_succ_of_ne_zero (Nat.ne_zero_of_lt hfuel)
  exact ⟨s'.held, by simp [run, hfetch, hended], rfl⟩

/-- Tokens that are passed on, before what comes after them. -/
theorem step {s₁ s₂ : Scanner} (hfetch : s.fetch = .ok s₁) (hended : s₁.ended = false)
    (hstale : s₁.dropStale = .ok s₂) (hlt : s₂.cursor.rest.length < s.cursor.rest.length)
    (h : s₂.release.2.Gives ls) : s.Gives (s₂.release.1.map Token.lexeme ++ ls) := by
  intro fuel hfuel
  obtain ⟨fuel, rfl⟩ := Nat.exists_eq_succ_of_ne_zero (Nat.ne_zero_of_lt hfuel)
  obtain ⟨ts, hrun, hts⟩ := h fuel (Nat.lt_of_lt_of_le hlt (Nat.le_of_lt_succ hfuel))
  refine ⟨s₂.release.1 ++ ts, ?_, by rw [List.map_append, hts]⟩
  rw [run, hfetch]
  simp only [hended, Bool.false_eq_true, if_false, hstale, hrun]

/-- Where no key may have started, all tokens are passed on. -/
theorem all (hfetch : s.fetch = .ok (within k indent outer allowed keys held taken))
    (hstale : (within k indent outer allowed keys held taken).dropStale =
      .ok (within k indent outer allowed [] held taken))
    (hlt : k.rest.length < s.cursor.rest.length)
    (h : ∀ taken, (within k indent outer allowed [] [] taken).Gives ls) :
    s.Gives (held.map Token.lexeme ++ ls) := by
  have hrelease : (within k indent outer allowed [] held taken).release =
      (held, within k indent outer allowed [] [] (taken + held.length)) := by
    simp [release, settled]
  have hgives : (within k indent outer allowed [] held taken).release.2.Gives ls →
      s.Gives _ := step hfetch rfl hstale hlt
  rw [hrelease] at hgives
  exact hgives (h _)

/-- Where a key may have started with the last token, this one is held back. -/
theorem hold {key : KeyStart} {token : Token}
    (hfetch : s.fetch = .ok (within k indent outer allowed [(0, key)] (held ++ [token]) taken))
    (hstale : (within k indent outer allowed [(0, key)] (held ++ [token]) taken).dropStale =
      .ok (within k indent outer allowed [(0, key)] (held ++ [token]) taken))
    (hnumber : key.number = taken + held.length) (hlt : k.rest.length < s.cursor.rest.length)
    (h : (within k indent outer allowed [(0, key)] [token] key.number).Gives ls) :
    s.Gives (held.map Token.lexeme ++ ls) := by
  have hrelease : (within k indent outer allowed [(0, key)] (held ++ [token]) taken).release =
      (held, within k indent outer allowed [(0, key)] [token] key.number) := by
    simp [release, settled, hnumber]
  have hgives : (within k indent outer allowed [(0, key)] (held ++ [token]) taken).release.2.Gives
      ls → s.Gives _ := step hfetch rfl hstale hlt
  rw [hrelease] at hgives
  exact hgives h

end Gives

section Skipping

/-- Spaces before a token are passed over. -/
theorem skipToTokenGo_spaces {lineEnded : Bool} (h : TokenAhead rest) :
    skipToToken.go false lineEnded (List.replicate n ' ' ++ rest) m =
      (⟨rest, m.behind (List.replicate n ' ')⟩, lineEnded) := by
  induction n generalizing m with
  | zero =>
    cases rest with
    | nil => rfl
    | cons c rest =>
      obtain ⟨hascii, hspace, hcomment⟩ := h c rfl
      simp [skipToToken.go, isBreak_of_isPlainAscii hascii, hspace, hcomment]
  | succ n ih =>
    rw [List.replicate_succ, List.cons_append, skipToToken.go, Mark.after_eq_step rfl]
    exact ih

theorem skipToTokenGo_newline {lineEnded : Bool} :
    skipToToken.go false lineEnded ('\n' :: rest)
      m = skipToToken.go false true rest (m.step '\n') := by
  rw [skipToToken.go, Mark.after_eq_step rfl]
  rfl

/-- Written text does not start with a byte order mark. -/
theorem skipToToken_written (h : ∀ c ∈ cs.head?, isWritten c = true) :
    (within ⟨cs, m⟩ indent outer allowed keys held taken).skipToToken =
      within (skipToToken.go false false cs m).1 indent outer
        (allowed || (skipToToken.go false false cs m).2) keys held taken := by
  have hbom : cs.head? ≠ some (Char.ofNat 0xFEFF) := by
    intro hc
    cases h _ hc
  simp [skipToToken, Cursor.head?, hbom, inBlock]

theorem skipToToken_spaces (h : TokenAhead rest) :
    (within ⟨List.replicate n ' ' ++ rest, m⟩ indent outer allowed keys held taken).skipToToken =
      within ⟨rest, m.behind (List.replicate n ' ')⟩ indent outer allowed keys held taken := by
  rw [skipToToken_written, skipToTokenGo_spaces h]
  · simp
  · cases n with
    | zero => exact fun c hc => isWritten_of_isPlainAscii (h c hc).1
    | succ n => exact fun c hc => Option.some.inj hc ▸ rfl

/-- After a line end a key may start. -/
theorem skipToToken_newLine (h : TokenAhead rest) :
    (within ⟨'\n' :: (List.replicate n ' ' ++ rest), m⟩ indent outer allowed keys held
      taken).skipToToken =
      within ⟨rest, m.behind ('\n' :: List.replicate n ' ')⟩ indent outer true keys held taken := by
  rw [skipToToken_written, skipToTokenGo_newline, skipToTokenGo_spaces h]
  · simp
  · exact fun c hc => Option.some.inj hc ▸ rfl

theorem dropStale_nil :
    (within k indent outer allowed [] held taken).dropStale =
      .ok (within k indent outer allowed [] held taken) := rfl

/-- A key that nothing required is forgotten on the next line. -/
theorem dropStale_stale {key : KeyStart} (hline : key.mark.line ≠ k.mark.line)
    (hrequired : key.required = false) :
    (within k indent outer allowed [(0, key)] held taken).dropStale =
      .ok (within k indent outer allowed [] held taken) := by
  simp [dropStale, isStale, mark, hline, hrequired]

/-- A key that is near enough on the same line is kept. -/
theorem dropStale_fresh {key : KeyStart} (hline : key.mark.line = k.mark.line)
    (hindex : k.mark.index ≤ key.mark.index + maxKeyLength) :
    (within k indent outer allowed [(0, key)] held taken).dropStale =
      .ok (within k indent outer allowed [(0, key)] held taken) := by
  have hnear : ¬ maxKeyLength < k.mark.index - key.mark.index := by omega
  simp [dropStale, isStale, mark, hline, hnear]

/-- A key that nothing required is forgotten or kept. -/
theorem dropStale_cases {key : KeyStart} (hrequired : key.required = false) :
    (within k indent outer allowed [(0, key)] held taken).dropStale =
        .ok (within k indent outer allowed [] held taken) ∨
      (within k indent outer allowed [(0, key)] held taken).dropStale =
        .ok (within k indent outer allowed [(0, key)] held taken) := by
  cases hstale : (within k indent outer allowed [(0, key)] held taken).isStale key <;>
    simp [dropStale, hstale, hrequired]

/-- What comes next depends on what the scanner finds behind blanks and line ends. -/
theorem fetch_of_settled (h : s.skipToToken.dropStale = .ok s') :
    s.fetch = match (s'.unwind s'.column).cursor.head? with
      | none => (s'.unwind s'.column).fetchEnd
      | some c => (s'.unwind s'.column).fetchAt c := by
  rw [fetch, h]
  rfl

/-- Blanks, line ends and forgotten keys are passed over. -/
theorem Gives.settle (h : s.skipToToken.dropStale = .ok s')
    (hsettled : s'.skipToToken.dropStale = .ok s')
    (hle : s'.cursor.rest.length ≤ s.cursor.rest.length) (hgives : s'.Gives ls) : s.Gives ls :=
  hgives.of_fetch_eq ((fetch_of_settled h).trans (fetch_of_settled hsettled).symm) hle

theorem settled_of_tokenAhead (h : TokenAhead cs) :
    (within ⟨cs, m⟩ indent outer allowed [] held taken).skipToToken.dropStale =
      .ok (within ⟨cs, m⟩ indent outer allowed [] held taken) := by
  have hskip : (within ⟨cs, m⟩ indent outer allowed [] held taken).skipToToken =
      within ⟨cs, m⟩ indent outer allowed [] held taken := skipToToken_spaces (n := 0) h
  rw [hskip]
  rfl

end Skipping

section Unwinding

theorem unwind_of_le (h : s.indent ≤ column) : s.unwind column = s := by
  unfold unwind
  split
  · obtain ⟨_, _, outer, _, _, _, _, _, _⟩ := s
    cases outer with
    | nil => rfl
    | cons o outer => simp [unwind.go, Int.not_lt.mpr h]
  · rfl

/-- Where the column of the innermost block is kept apart, that of the state does not matter. -/
theorem unwindGo_within {indent' : Int} {outer' : List Int} :
    unwind.go column (within k indent' outer' allowed keys held taken) indent outer =
      unwind.go column (within k indent outer allowed keys held taken) indent outer := by
  induction outer generalizing held indent indent' outer' with
  | nil => rfl
  | cons o outer ih =>
    unfold unwind.go
    split
    · exact ih.trans ih.symm
    · rfl

/-- A block ends before a column to the left of its own. -/
theorem unwind_pop {o : Int} (h : column < indent) :
    (within k indent (o :: outer) allowed keys held taken).unwind column =
      (within k o outer allowed keys (held ++ [⟨.blockEnd, k.mark, k.mark⟩]) taken).unwind
        column := by
  have hpop : (within k indent (o :: outer) allowed keys held taken).unwind column =
      unwind.go column (within k indent (o :: outer) allowed keys
        (held ++ [⟨.blockEnd, k.mark, k.mark⟩]) taken) o outer := if_pos h
  rw [hpop, unwindGo_within]
  rfl

end Unwinding

theorem fetch_eq_fetchAt (h : s.skipToToken.dropStale = .ok s) (hle : s.indent ≤ s.column)
    (hhead : s.cursor.head? = some c) : s.fetch = s.fetchAt c := by
  rw [fetch_of_settled h, unwind_of_le hle, hhead]

section Opening

variable {lexeme : Lexeme}

theorem openHere_of_lt (h : indent < m.column) :
    (within ⟨cs, m⟩ indent outer allowed keys held taken).openHere lexeme =
      within ⟨cs, m⟩ m.column (indent :: outer) allowed keys (held ++ [⟨lexeme, m, m⟩]) taken := by
  simp [openHere, openBlock, Scanner.column, h, emit, mark]

theorem openHere_of_eq (h : indent = m.column) :
    (within ⟨cs, m⟩ indent outer allowed keys held taken).openHere lexeme =
      within ⟨cs, m⟩ indent outer allowed keys held taken := by
  simp [openHere, openBlock, Scanner.column, h]

end Opening

/-- The mark of a list item, which may open a list. -/
theorem fetch_entry {indent' : Int} {outer' : List Int} {held' : List Token}
    (hindent : indent ≤ m.column)
    (hopen : (within ⟨'-' :: ' ' :: rest, m⟩ indent outer true [] held taken).openHere
      .blockSequence =
      within ⟨'-' :: ' ' :: rest, m⟩ indent' outer' true [] held' taken) :
    (within ⟨'-' :: ' ' :: rest, m⟩ indent outer true [] held taken).fetch =
      .ok (within ⟨' ' :: rest, m.step '-'⟩ indent' outer' true []
        (held' ++ [⟨.entry, m, m.step '-'⟩]) taken) := by
  have hahead : TokenAhead ('-' :: ' ' :: rest) := fun c hc => Option.some.inj hc ▸ by decide
  have hseparator : (⟨'-' :: ' ' :: rest, m⟩ : Cursor).atSeparator = false := by
    simp [Cursor.atSeparator]
  have hblank : (⟨'-' :: ' ' :: rest, m⟩ : Cursor).blankAt 1 = true := rfl
  rw [fetch_eq_fetchAt (settled_of_tokenAhead hahead) hindent rfl]
  simp only [fetchAt, ↓Char.isValue, Char.reduceBEq, Bool.false_and, Bool.false_eq_true, ↓reduceIte,
    BEq.rfl, Bool.true_and, hseparator, Bool.and_false, Bool.and_self, hblank, fetchEntry, inBlock,
    Bool.not_true, dropKey, hopen, List.lookup_nil, emitMark, Cursor.skip, emit, mark]
  rfl

section Scalars

/-- Text that may stand bare does not start like anything else. -/
theorem fetchAt_plain (hfirst : indicatorFirst (c :: cs) = false) (hascii : isPlainAscii c = true)
    (hspace : c ≠ ' ') (hseparator : m.column = 0 → (⟨c :: rest, m⟩ : Cursor).atSeparator = false)
    (hblank : c = '-' ∨ c = '?' ∨ c = ':' → (⟨c :: rest, m⟩ : Cursor).blankAt 1 = false) :
    (within ⟨c :: rest, m⟩ indent outer allowed keys held taken).fetchAt c =
      (within ⟨c :: rest, m⟩ indent outer allowed keys held taken).fetchPlain := by
  have hbreak : isSpaceOrBreak c = false := isSpaceOrBreak_eq_false hascii hspace
  simp only [indicatorFirst, Bool.or_eq_false_iff] at hfirst
  have hne := hfirst.1.1.1
  have hcolumn : (within ⟨c :: rest, m⟩ indent outer allowed keys held taken).column = m.column :=
    rfl
  have hblock : (within ⟨c :: rest, m⟩ indent outer allowed keys held taken).inBlock = true := rfl
  simp at hne
  simp only [fetchAt, hcolumn, hblock]
  -- marks of structure are told apart by the character after them
  by_cases hmark : c = '-' ∨ c = '?' ∨ c = ':'
  · have hnext := hblank hmark
    rcases hmark with rfl | rfl | rfl <;> simp_all [startsPlain]
  · simp only [not_or] at hmark
    simp_all [startsPlain]
    rintro rfl hstart hparts
    rw [hseparator hstart] at hparts
    cases hparts

/-- The key that may start at a place, before a number of tokens. -/
def keyAt (allowed : Bool) (number : Nat) (indent : Int) (m : Mark) : List (Nat × KeyStart) :=
  if allowed then [(0, ⟨number, indent == m.column, m⟩)] else []

theorem noteKey_within :
    (within k indent outer allowed [] held taken).noteKey =
      .ok (within k indent outer allowed (keyAt allowed (taken + held.length) indent k.mark) held
        taken) := by
  cases allowed <;> rfl

theorem fetchPlain_within {p : PlainScan} (hp : scanPlain false (indent + 1) k = p) :
    (within k indent outer allowed [] held taken).fetchPlain =
      .ok (within p.after indent outer p.lineEnded
        (keyAt allowed (taken + held.length) indent k.mark)
        (held ++ [⟨.scalar (.ofChars p.chars) true, k.mark, p.stop⟩]) taken) := by
  subst hp
  rw [fetchPlain, noteKey_within]
  rfl

theorem fetchQuoted_within {inDouble : Bool} {k' : Cursor} {t : Content}
    (hq : scanQuoted inDouble k = .ok (t, k')) :
    (within k indent outer allowed [] held taken).fetchQuoted inDouble =
      .ok (within k' indent outer false (keyAt allowed (taken + held.length) indent k.mark)
        (held ++ [⟨.scalar t false, k.mark, k'.mark⟩]) taken) := by
  rw [fetchQuoted, noteKey_within]
  simp only [bind, Except.bind, hq]
  rfl

/-- A quote starts a quoted scalar. -/
theorem fetch_quote {inDouble : Bool} (hc : c = if inDouble then '"' else '\'')
    (hindent : indent ≤ m.column) :
    (within ⟨c :: rest, m⟩ indent outer allowed [] held taken).fetch =
      (within ⟨c :: rest, m⟩ indent outer allowed [] held taken).fetchQuoted inDouble := by
  subst hc
  have hahead : TokenAhead ((if inDouble then '"' else '\'') :: rest) := by
    intro c hc
    obtain rfl := Option.some.inj hc
    cases inDouble <;> decide
  rw [fetch_eq_fetchAt (settled_of_tokenAhead hahead) hindent rfl]
  cases inDouble <;> simp [fetchAt]

/-- A colon turns what is held back into a key, which may open a mapping. -/
theorem fetch_colon {key : KeyStart} {token : Token}
    (hnumber : key.number = taken) (hline : key.mark.line = m.line)
    (hindex : m.index ≤ key.mark.index + maxKeyLength) (hindent : indent ≤ m.column)
    (hc : isSpaceOrBreak c = true) :
    (within ⟨':' :: c :: rest, m⟩ indent outer false [(0, key)] [token] taken).fetch =
      .ok (if indent < key.mark.column then
        within ⟨c :: rest, m.step ':'⟩ key.mark.column (indent :: outer) false []
          [⟨.blockMapping, key.mark, key.mark⟩, ⟨.key, key.mark, key.mark⟩, token,
            ⟨.value, m, m.step ':'⟩] taken
      else within ⟨c :: rest, m.step ':'⟩ indent outer false []
          [⟨.key, key.mark, key.mark⟩, token, ⟨.value, m, m.step ':'⟩] taken) := by
  have hahead : TokenAhead (':' :: c :: rest) := fun c hc => Option.some.inj hc ▸ by decide
  have hskip : (within ⟨':' :: c :: rest, m⟩ indent outer false [(0, key)] [token]
      taken).skipToToken = within ⟨':' :: c :: rest, m⟩ indent outer false [(0, key)] [token]
      taken := skipToToken_spaces (n := 0) hahead
  have hblank : (⟨':' :: c :: rest, m⟩ : Cursor).blankAt 1 = true := hc
  rw [fetch_eq_fetchAt (by rw [hskip, dropStale_fresh hline hindex]) hindent rfl]
  subst hnumber
  have hnext : (⟨':' :: c :: rest, m⟩ : Cursor).next = ⟨c :: rest, m.step ':'⟩ :=
    Cursor.next_cons rfl
  by_cases hopen : indent < key.mark.column <;>
    simp [fetchAt, hblank, inBlock, fetchValue, insertAt, openBlock, hopen, emitMark, emit, mark,
      Cursor.skip, hnext]

/-- A text that may stand bare starts a plain scalar. -/
theorem fetch_bare {p : Placing} {column : Nat} {text tail : List Char} (hne : cs ≠ [])
    (hallowed : plainAllowed cs = true) (htext : text = plain p column none cs)
    (hindent : indent ≤ m.column)
    (hseparator : m.column = 0 → (⟨text ++ tail, m⟩ : Cursor).atSeparator = false) :
    (within ⟨text ++ tail, m⟩ indent outer allowed [] held taken).fetch =
      (within ⟨text ++ tail, m⟩ indent outer allowed [] held taken).fetchPlain := by
  subst htext
  obtain ⟨c, cs, rfl⟩ := List.exists_cons_of_ne_nil hne
  have hall := isPlainAscii_of_plainAllowed hallowed
  rw [List.forall_mem_cons] at hall
  obtain ⟨hascii, hrest⟩ := hall
  simp only [plainAllowed, Bool.and_eq_true, bne_iff_ne, Bool.not_eq_true'] at hallowed
  obtain ⟨⟨⟨⟨-, hspace⟩, -⟩, hfirst⟩, -⟩ := hallowed
  have hwritten : plain p column none (c :: cs) ++ tail =
      c :: (plain p (column + 1) (some c) cs ++ tail) := by
    rw [plain, if_neg fun e => hspace e.1]
    rfl
  -- a mark that could start an entry has no blank behind it
  have hblank : c = '-' ∨ c = '?' ∨ c = ':' →
      (⟨c :: (plain p (column + 1) (some c) cs ++ tail), m⟩ : Cursor).blankAt 1 = false := by
    intro hmark
    have hnext : blankNext cs = false := by
      simp only [indicatorFirst, Bool.or_eq_false_iff] at hfirst
      rcases hmark with rfl | rfl | rfl <;> simpa using hfirst.1.1.2
    cases cs with
    | nil => cases hnext
    | cons d cs =>
      have hd : d ≠ ' ' := beq_eq_false_iff_ne.mp hnext
      rw [plain, if_neg fun e => hd e.1]
      exact isSpaceOrBreak_eq_false (hrest d (List.mem_cons_self ..)) hd
  rw [hwritten] at hseparator ⊢
  have hcomment : c ≠ '#' := by
    rintro rfl
    simp [indicatorFirst] at hfirst
  have hahead : TokenAhead (c :: (plain p (column + 1) (some c) cs ++ tail)) := fun d hd =>
    Option.some.inj hd ▸ ⟨hascii, hspace, hcomment⟩
  rw [fetch_eq_fetchAt (settled_of_tokenAhead hahead) hindent rfl,
    fetchAt_plain hfirst hascii hspace hseparator hblank]

/-- After a scalar its line ends, and then no key can have started with it any more. -/
theorem Gives.leaf {k' : Cursor} {token : Token} {allowed' : Bool}
    (hfetch : s.fetch = .ok (within k indent outer allowed'
      (keyAt allowed (taken + held.length) indent m) (held ++ [token]) taken))
    (hcolumn : indent ≠ m.column) (hlt : k.rest.length < s.cursor.rest.length)
    (hskip : ∀ keys held taken, (within k indent outer allowed' keys held taken).skipToToken =
      within k' indent outer true keys held taken)
    (hline : m.line ≠ k'.mark.line) (hahead : TokenAhead k'.rest)
    (hle : k'.rest.length ≤ k.rest.length)
    (h : ∀ held taken, (within k' indent outer true [] held taken).Gives
      (held.map Token.lexeme ++ ls)) :
    s.Gives (held.map Token.lexeme ++ token.lexeme :: ls) := by
  have hall : (within k indent outer allowed' (keyAt allowed (taken + held.length) indent m)
      (held ++ [token]) taken).dropStale = .ok (within k indent outer allowed' []
      (held ++ [token]) taken) → s.Gives (held.map Token.lexeme ++ token.lexeme :: ls) := by
    intro hstale
    have hgives : s.Gives ((held ++ [token]).map Token.lexeme ++ ls) := by
      refine Gives.all hfetch hstale hlt fun taken => ?_
      refine .settle ?_ (settled_of_tokenAhead hahead) hle (h [] taken)
      rw [hskip]
      rfl
    rwa [List.map_append, List.append_assoc] at hgives
  cases allowed with
  | false => exact hall rfl
  | true =>
    -- the token is held back as a possible key, and given up behind the line end
    have hrequired : (indent == (m.column : Int)) = false := beq_eq_false_iff_ne.mpr hcolumn
    have hkey : (⟨taken + held.length, indent == m.column, m⟩ : KeyStart).required = false :=
      hrequired
    rcases dropStale_cases hkey with hstale | hstale
    · -- its text has several lines, or is too long for a key
      exact hall hstale
    · refine Gives.hold hfetch hstale rfl hlt ?_
      refine .settle ?_ (settled_of_tokenAhead hahead) hle (h [token] (taken + held.length))
      rw [hskip, dropStale_stale hline hrequired]

end Scalars

end Scanner

open Scanner

/-- From a place where a token starts the rest of the text is cut into lexemes, whatever is held
back there. -/
def Reads (k : Cursor) (indent : Int) (outer : List Int) (ls : List Lexeme) : Prop :=
  ∀ held taken, (within k indent outer true [] held taken).Gives (held.map Token.lexeme ++ ls)

/-- From a place after a colon the rest of the text is cut into lexemes. -/
def ReadsValue (k : Cursor) (indent : Int) (outer : List Int) (ls : List Lexeme) : Prop :=
  ∀ taken, (within k indent outer false [] [] taken).Gives ls

theorem Reads.spaces (hahead : TokenAhead rest)
    (h : Reads ⟨rest, m.behind (List.replicate n ' ')⟩ indent outer ls) :
    Reads ⟨List.replicate n ' ' ++ rest, m⟩ indent outer ls := fun held taken => by
  refine .settle ?_ (settled_of_tokenAhead hahead) ?_ (h held taken)
  · rw [skipToToken_spaces hahead]
    rfl
  · simp

/-- After a colon and spaces, what stands on the same line. -/
theorem ReadsValue.spaces (hahead : TokenAhead rest)
    (h : ReadsValue ⟨rest, m.behind (List.replicate n ' ')⟩ indent outer ls) :
    ReadsValue ⟨List.replicate n ' ' ++ rest, m⟩ indent outer ls := fun taken => by
  refine .settle ?_ (settled_of_tokenAhead hahead) ?_ (h taken)
  · rw [skipToToken_spaces hahead]
    rfl
  · simp

/-- After a colon, what stands on the next line. -/
theorem Reads.newLine (hahead : TokenAhead rest)
    (h : Reads ⟨rest, m.behind ('\n' :: List.replicate n ' ')⟩ indent outer ls) :
    ReadsValue ⟨'\n' :: (List.replicate n ' ' ++ rest), m⟩ indent outer ls := fun taken => by
  refine .settle ?_ (settled_of_tokenAhead hahead) ?_ (h [] taken)
  · rw [skipToToken_newLine hahead]
    rfl
  · simp
    omega

/-- The mark of an item of an open list. -/
theorem Reads.entry (hcolumn : indent = m.column)
    (h : Reads ⟨' ' :: rest, m.step '-'⟩ indent outer ls) :
    Reads ⟨'-' :: ' ' :: rest, m⟩ indent outer (.entry :: ls) := fun held taken => by
  have hfetch : (within ⟨'-' :: ' ' :: rest, m⟩ indent outer true [] held taken).fetch = _ :=
    fetch_entry (Int.le_of_eq hcolumn) (openHere_of_eq hcolumn)
  have hgives := Gives.all hfetch dropStale_nil (Nat.lt_succ_self _) (h [])
  rwa [List.map_append, List.append_assoc] at hgives

/-- The mark of the first item of a list. -/
theorem Reads.openSequence (hcolumn : indent < m.column)
    (h : Reads ⟨' ' :: rest, m.step '-'⟩ m.column (indent :: outer) ls) :
    Reads ⟨'-' :: ' ' :: rest, m⟩ indent outer (.blockSequence :: .entry :: ls) :=
  fun held taken => by
  have hfetch : (within ⟨'-' :: ' ' :: rest, m⟩ indent outer true [] held taken).fetch = _ :=
    fetch_entry (Int.le_of_lt hcolumn) (openHere_of_lt hcolumn)
  have hgives := Gives.all hfetch dropStale_nil (Nat.lt_succ_self _) (h [])
  simpa using hgives

/-- A text that may stand bare, short enough for a key. -/
structure IsKey (cs : List Char) : Prop where
  ne_nil : cs ≠ []
  allowed : plainAllowed cs = true
  short : cs.length ≤ maxKeyLength

theorem IsKey.newline_not_mem (h : IsKey cs) : '\n' ∉ cs := fun hc =>
  ne_newline_of_isPlainAscii (isPlainAscii_of_plainAllowed h.allowed _ hc) rfl

/-- The name of a key does not part documents. -/
theorem IsKey.atSeparator (h : IsKey cs) :
    (⟨cs ++ ':' :: rest, m⟩ : Cursor).atSeparator = false := by
  have hfirst : indicatorFirst cs = false := by
    cases cs with
    | nil => rfl
    | cons c cs =>
      have hallowed := h.allowed
      simp only [plainAllowed, Bool.and_eq_true, Bool.not_eq_true'] at hallowed
      exact hallowed.1.2
  -- three characters decide, the colon being one of them after a short key
  rcases cs with _ | ⟨a, _ | ⟨b, _ | ⟨d, cs⟩⟩⟩
  · exact absurd rfl h.ne_nil
  · simp [Cursor.atSeparator]
  · simp [Cursor.atSeparator]
  · simp only [indicatorFirst, Bool.or_eq_false_iff, List.take_succ_cons, List.take_zero] at hfirst
    simp [Cursor.atSeparator, hfirst]

section Keys

variable (hkey : IsKey cs)

include hkey

theorem IsKey.line_behind : (m.behind cs).line = m.line := by
  rw [Mark.line_behind, List.count_eq_zero.mpr hkey.newline_not_mem, Nat.add_zero]

theorem IsKey.index_behind_le : (m.behind cs).index ≤ m.index + maxKeyLength := by
  rw [Mark.index_behind]
  exact Nat.add_le_add_left hkey.short _

variable (hc : isSpaceOrBreak c = true)

include hc

/-- What may be a key is held back until its colon is found. -/
theorem reads_of_colon (hindent : indent ≤ m.column)
    (h : ∀ number, (within ⟨':' :: c :: rest, m.behind cs⟩ indent outer false
      [(0, ⟨number, indent == m.column, m⟩)] [⟨.scalar (.ofChars cs) true, m, m.behind cs⟩]
        number).Gives ls) :
    Reads ⟨cs ++ ':' :: c :: rest, m⟩ indent outer ls := fun held taken => by
  have hscan : scanPlain false (indent + 1) ⟨cs ++ ':' :: c :: rest, m⟩ = _ :=
    scanPlain_bare hkey.ne_nil hkey.allowed (Int.add_le_add_right hindent 1) (plainEnd_colon hc)
  have hplain : cs = plain ⟨0, false⟩ 0 none cs := (plain_of_not_folds rfl).symm
  have hfetch : (within ⟨cs ++ ':' :: c :: rest, m⟩ indent outer true [] held taken).fetch = _ :=
    (fetch_bare hkey.ne_nil hkey.allowed hplain hindent fun _ => hkey.atSeparator).trans
      (fetchPlain_within hscan)
  -- the key is short and on one line, so it is not given up before the colon
  have hlength := List.length_pos_iff.mpr hkey.ne_nil
  exact .hold hfetch (dropStale_fresh hkey.line_behind.symm hkey.index_behind_le) rfl
    (by simp; omega) (h _)

/-- The colon of a key, which opens a mapping where the key stands right of the open block. -/
theorem fetch_colon_of_isKey {number : Nat} (hindent : indent ≤ m.column) :
    (within ⟨':' :: c :: rest, m.behind cs⟩ indent outer false
      [(0, ⟨number, indent == m.column, m⟩)] [⟨.scalar (.ofChars cs) true, m, m.behind cs⟩]
        number).fetch =
      .ok (if indent < m.column then
        within ⟨c :: rest, (m.behind cs).step ':'⟩ m.column (indent :: outer) false []
          [⟨.blockMapping, m, m⟩, ⟨.key, m, m⟩, ⟨.scalar (.ofChars cs) true, m, m.behind cs⟩,
            ⟨.value, m.behind cs, (m.behind cs).step ':'⟩] number
      else within ⟨c :: rest, (m.behind cs).step ':'⟩ indent outer false []
          [⟨.key, m, m⟩, ⟨.scalar (.ofChars cs) true, m, m.behind cs⟩,
            ⟨.value, m.behind cs, (m.behind cs).step ':'⟩] number) := by
  refine fetch_colon rfl hkey.line_behind.symm hkey.index_behind_le ?_ hc
  rw [Mark.column_behind hkey.newline_not_mem]
  omega

/-- A key of an open mapping. -/
theorem Reads.key (hcolumn : indent = m.column)
    (h : ReadsValue ⟨c :: rest, (m.behind cs).step ':'⟩ indent outer ls) :
    Reads ⟨cs ++ ':' :: c :: rest, m⟩ indent outer
      (.key :: .scalar (.ofChars cs) true :: .value :: ls) := by
  refine reads_of_colon hkey hc (Int.le_of_eq hcolumn) fun number => ?_
  have hfetch : (within ⟨':' :: c :: rest, m.behind cs⟩ indent outer false _ _ number).fetch = _ :=
    fetch_colon_of_isKey hkey hc (Int.le_of_eq hcolumn)
  rw [if_neg (Int.not_lt.mpr (Int.le_of_eq hcolumn.symm))] at hfetch
  exact .all hfetch dropStale_nil (Nat.lt_succ_self _) h

/-- The first key of a mapping. -/
theorem Reads.openMapping (hcolumn : indent < m.column)
    (h : ReadsValue ⟨c :: rest, (m.behind cs).step ':'⟩ m.column (indent :: outer) ls) :
    Reads ⟨cs ++ ':' :: c :: rest, m⟩ indent outer
      (.blockMapping :: .key :: .scalar (.ofChars cs) true :: .value :: ls) := by
  refine reads_of_colon hkey hc (Int.le_of_lt hcolumn) fun number => ?_
  have hfetch : (within ⟨':' :: c :: rest, m.behind cs⟩ indent outer false _ _ number).fetch = _ :=
    fetch_colon_of_isKey hkey hc (Int.le_of_lt hcolumn)
  rw [if_pos hcolumn] at hfetch
  exact .all hfetch dropStale_nil (Nat.lt_succ_self _) h

end Keys

/-- A block ends before what stands to the left of it. -/
theorem Reads.pop {o : Int} (hahead : TokenAhead cs) (hcolumn : (m.column : Int) < indent)
    (h : Reads ⟨cs, m⟩ o outer ls) : Reads ⟨cs, m⟩ indent (o :: outer) (.blockEnd :: ls) :=
  fun held taken => by
  have hfetch : (within ⟨cs, m⟩ indent (o :: outer) true [] held taken).fetch =
      (within ⟨cs, m⟩ o outer true [] (held ++ [⟨.blockEnd, m, m⟩]) taken).fetch := by
    rw [fetch_of_settled (settled_of_tokenAhead hahead),
      fetch_of_settled (settled_of_tokenAhead hahead), Scanner.column, unwind_pop hcolumn]
    rfl
  have hgives := h (held ++ [⟨.blockEnd, m, m⟩]) taken
  rw [List.map_append, List.append_assoc] at hgives
  exact .of_fetch_eq hfetch (Nat.le_refl _) hgives

/-- At the end of the text the outermost block ends. -/
theorem Reads.finish (hcolumn : m.column = 0) :
    Reads ⟨[], m⟩ 0 [-1] [.blockEnd, .streamEnd] := fun held taken => by
  have hfetch : (within ⟨[], m⟩ 0 [-1] true [] held taken).fetch =
      .ok { within ⟨[], m⟩ (-1) [] false []
        (held ++ [⟨.blockEnd, m, m⟩] ++ [⟨.streamEnd, m, m⟩]) taken with ended := true } := by
    rw [fetch_of_settled (settled_of_tokenAhead tokenAhead_nil),
      unwind_of_le (by simp [Scanner.column, hcolumn])]
    rfl
  have hlast := Gives.last hfetch rfl
  simpa using hlast

end StreamMesh.Yaml
