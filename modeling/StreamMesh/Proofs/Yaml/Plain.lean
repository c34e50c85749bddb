import StreamMesh.Proofs.Yaml.Cursor
import StreamMesh.Yaml.Token.Plain

/-!
# Bare text reads back

A text that is written without quotes, folded or not, is read as the same text. It is read in runs
without a space; what stands between two runs is either the spaces of the text or, in place of a
single space, a line break with indentation.

## Main definitions

* `Bare` — the rest of a text that may be written without quotes
* `PlainEnd` — what ends a plain scalar

## Main results

* `plainGap_newLine` — a line break with indentation counts as a space
* `plainRuns_plain` — a bare text is read as it was before it was folded
-/

namespace StreamMesh.Yaml

variable {p : Placing} {m : Mark} {b c x : Char} {cs ds rest : List Char} {n column : Nat}
  {before : Option Char}

/-- The rest of a text that may be written without quotes, after a character. -/
structure Bare (b : Char) (cs : List Char) : Prop where
  ascii : ∀ c ∈ cs, isPlainAscii c = true
  inside : indicatorInside b cs = false
  last : cs.getLast? ≠ some ' '

theorem indicatorInside_cons :
    indicatorInside b (c :: cs) = false ↔
      ¬ (c = ':' ∧ blankNext cs = true) ∧ ¬ (c = '#' ∧ b = ' ') ∧ indicatorInside c cs = false := by
  simp [indicatorInside, and_assoc]

/-- What stands behind a part of a bare text is bare. -/
theorem Bare.drop {d : Char} (h : Bare b (ds ++ d :: cs)) : Bare d cs := by
  induction ds generalizing b with
  | nil =>
    refine ⟨fun c hc => h.ascii c (List.mem_cons_of_mem _ hc),
      (indicatorInside_cons.mp h.inside).2.2, ?_⟩
    intro e
    have hlast := h.last
    rw [List.nil_append, List.getLast?_cons, e] at hlast
    exact hlast rfl
  | cons e ds ih =>
    refine ih ⟨fun c hc => h.ascii c (List.mem_cons_of_mem _ hc),
      (indicatorInside_cons.mp h.inside).2.2, ?_⟩
    intro hl
    have hlast := h.last
    rw [List.cons_append, List.getLast?_cons, hl] at hlast
    exact hlast rfl

theorem bare_of_plainAllowed (h : plainAllowed cs = true) (hb : b ≠ ' ') : Bare b cs := by
  cases cs with
  | nil => exact ⟨nofun, rfl, nofun⟩
  | cons c rest =>
    simp only [plainAllowed, Bool.and_eq_true, List.all_eq_true, bne_iff_ne, Bool.not_eq_true'] at h
    obtain ⟨⟨⟨⟨hall, -⟩, hlast⟩, hfirst⟩, hinside⟩ := h
    refine ⟨hall, indicatorInside_cons.mpr ⟨?_, fun e => hb e.2, hinside⟩, hlast⟩
    rintro ⟨rfl, hblank⟩
    simp [indicatorFirst, hblank] at hfirst

theorem isPlainAscii_of_plainAllowed (h : plainAllowed cs = true) :
    ∀ c ∈ cs, isPlainAscii c = true :=
  (bare_of_plainAllowed h (b := 'a') (by decide)).ascii

section Runs

/-- A character other than a space does not end a run, a colon only if no space follows it. -/
theorem endsRun_eq_false {d : Char} (hd : isPlainAscii d = true) (hspace : d ≠ ' ')
    (hcolon : d = ':' → Stops isSpaceOrBreak cs ∧ cs ≠ []) : endsRun false d cs = false := by
  have hd' : isSpaceOrBreak d = false := isSpaceOrBreak_eq_false hd hspace
  by_cases he : d = ':'
  · obtain ⟨hstop, hne⟩ := hcolon he
    cases cs with
    | nil => exact absurd rfl hne
    | cons e es => simp [endsRun, hd', colonEnds, hstop e rfl]
  · simp [endsRun, hd', he]

theorem stops_isSpaceOrBreak (hc : isPlainAscii c = true) (hspace : c ≠ ' ') :
    Stops isSpaceOrBreak (c :: cs) :=
  stops_cons (isSpaceOrBreak_eq_false hc hspace)

/-- A run without a space is read up to a text that ends it. -/
theorem plainRun_append {tail : List Char} (hascii : ∀ c ∈ ds, isPlainAscii c = true)
    (hspace : ' ' ∉ ds) (hinside : indicatorInside b (ds ++ rest) = false)
    (hblank : blankNext rest = true)
    (htail : plainRun false tail (m.behind ds) = ([], ⟨tail, m.behind ds⟩)) :
    plainRun false (ds ++ tail) m = (ds, ⟨tail, m.behind ds⟩) := by
  induction ds generalizing b m with
  | nil => exact htail
  | cons d ds ih =>
    rw [List.mem_cons, not_or] at hspace
    rw [List.forall_mem_cons] at hascii
    obtain ⟨hcolon, -, hinside⟩ := indicatorInside_cons.mp hinside
    have hends : endsRun false d (ds ++ tail) = false := by
      refine endsRun_eq_false hascii.1 (fun e => hspace.1 e.symm) fun he => ?_
      -- the colon is not the last of the run, since a space or nothing follows the run
      cases ds with
      | nil => exact absurd ⟨he, hblank⟩ hcolon
      | cons e ds =>
        refine ⟨stops_isSpaceOrBreak (hascii.2 e (List.mem_cons_self ..)) fun he => ?_,
          List.cons_ne_nil _ _⟩
        exact hspace.2 (he ▸ List.mem_cons_self ..)
    rw [List.cons_append, plainRun, hends, Mark.after_eq_step (isWritten_of_isPlainAscii hascii.1)]
    simp only [Bool.false_eq_true, if_false]
    rw [ih hascii.2 hspace.2 hinside htail]
    rfl

/-- Before a space or a line break no run starts. -/
theorem plainRun_of_isSpaceOrBreak (h : isSpaceOrBreak c = true) :
    plainRun false (c :: cs) m = ([], ⟨c :: cs, m⟩) := by
  simp [plainRun, endsRun, h]

end Runs

section Gaps

theorem plainBreaks_spaces (hspace : Stops (· == ' ') rest) (hbreak : Stops isBreak rest) :
    plainBreaks ⟨List.replicate n ' ' ++ rest, m⟩ =
      (some [], ⟨rest, m.behind (List.replicate n ' ')⟩) := by
  have hdrop : (⟨List.replicate n ' ' ++ rest, m⟩ : Cursor).dropWhile (· == ' ') =
      ⟨rest, m.behind (List.replicate n ' ')⟩ :=
        congrArg Prod.snd (Cursor.spanWhile_spaces rfl hspace)
  rw [plainBreaks]
  split
  · rw [hdrop]
  · rename_i h
    rw [hdrop, Cursor.lineBreak?_of_stops hbreak] at h
    cases h

/-- A line break with indentation counts as a space. -/
theorem plainGap_newLine (hspace : Stops (· == ' ') rest) (hbreak : Stops isBreak rest)
    (hseparator : ∀ m, (⟨List.replicate n ' ' ++ rest, m⟩ : Cursor).atSeparator = false) :
    plainGap ⟨'\n' :: (List.replicate n ' ' ++ rest), m⟩ =
      ([' '], ⟨rest, m.behind ('\n' :: List.replicate n ' ')⟩, true) := by
  have hspan : (⟨'\n' :: (List.replicate n ' ' ++ rest), m⟩ : Cursor).spanWhile (· == ' ') =
      ([], ⟨'\n' :: (List.replicate n ' ' ++ rest), m⟩) :=
    Cursor.spanWhile_of_stops (stops_cons rfl)
  simp only [plainGap, hspan, Cursor.lineBreak?_newline, hseparator, Bool.false_eq_true, if_false,
    plainBreaks_spaces hspace hbreak]
  rfl

/-- Spaces before a character that is none stand for themselves. -/
theorem plainGap_spaces (hspace : Stops (· == ' ') rest) (hbreak : Stops isBreak rest) :
    plainGap ⟨List.replicate n ' ' ++ rest, m⟩ =
      (List.replicate n ' ', ⟨rest, m.behind (List.replicate n ' ')⟩, false) := by
  simp only [plainGap, Cursor.spanWhile_spaces rfl hspace, Cursor.lineBreak?_of_stops hbreak]

end Gaps

section Folding

/-- A run without a space is written as it is. -/
theorem plain_run (p : Placing) (column : Nat) (before : Option Char) {d : Char}
    (h : ' ' ∉ d :: ds) :
    ∃ x column', ∀ cs, plain p column before (d :: ds ++ cs) =
      d :: ds ++ plain p column' (some x) cs := by
  induction ds generalizing d column before with
  | nil =>
    have hd : d ≠ ' ' := fun e => h (e ▸ List.mem_cons_self ..)
    exact ⟨d, column + 1, fun cs => by simp [plain, hd]⟩
  | cons e ds ih =>
    rw [List.mem_cons, not_or] at h
    obtain ⟨x, column', hplain⟩ := ih (column + 1) (some d) h.2
    refine ⟨x, column', fun cs => ?_⟩
    rw [List.cons_append, plain, if_neg (fun he => h.1 he.1.symm), hplain cs]
    rfl

/-- Spaces after a space are written as they are. -/
theorem plain_spaces_after :
    plain p column (some ' ') (List.replicate n ' ' ++ cs) =
      List.replicate n ' ' ++ plain p (column + n) (some ' ') cs := by
  induction n generalizing column with
  | zero => rfl
  | succ n ih =>
    rw [List.replicate_succ, List.cons_append, plain, if_neg (by simp [foldsAt]), ih,
      List.cons_append, Nat.add_assoc, Nat.add_comm 1]

/-- Spaces after a run are written as they are, or a single one as a line break. -/
theorem plain_spaces :
    ∃ gap column', plain p column (some x) (List.replicate (n + 1) ' ' ++ cs) =
        gap ++ plain p column' (some ' ') cs ∧
      (gap = List.replicate (n + 1) ' ' ∨ n = 0 ∧ gap = p.newLine) := by
  rw [List.replicate_succ, List.cons_append, plain]
  split
  · rename_i hfold
    -- only a space that no other follows is folded
    have hn : n = 0 := by
      cases n with
      | zero => rfl
      | succ n => simp [foldsAt, List.replicate_succ, blankNext] at hfold
    subst hn
    exact ⟨_, _, rfl, .inr ⟨rfl, rfl⟩⟩
  · rw [plain_spaces_after]
    exact ⟨_, _, rfl, .inl rfl⟩

/-- What stands between two runs: the spaces of the text, or a line break for a single one. -/
def IsGap (p : Placing) (n : Nat) (gap : List Char) : Prop :=
  gap = List.replicate (n + 1) ' ' ∨ n = 0 ∧ gap = p.newLine

variable {gap : List Char}

theorem IsGap.plainRun (h : IsGap p n gap) :
    plainRun false (gap ++ cs) m = ([], ⟨gap ++ cs, m⟩) := by
  rcases h with rfl | ⟨-, rfl⟩ <;> exact plainRun_of_isSpaceOrBreak rfl

theorem IsGap.plainGap (h : IsGap p n gap) (hp : 0 < p.indent) (hc : isPlainAscii c = true)
    (hspace : c ≠ ' ') :
    ∃ ended, plainGap ⟨gap ++ c :: cs, m⟩ =
      (List.replicate (n + 1) ' ', ⟨c :: cs, m.behind gap⟩, ended) := by
  have hspaces : Stops (· == ' ') (c :: cs) := stops_cons (beq_eq_false_iff_ne.mpr hspace)
  have hbreak : Stops isBreak (c :: cs) := stops_cons (isBreak_of_isPlainAscii hc)
  rcases h with rfl | ⟨rfl, rfl⟩
  · exact ⟨_, plainGap_spaces hspaces hbreak⟩
  · refine ⟨_, plainGap_newLine hspaces hbreak fun m => ?_⟩
    -- the new line is indented, so it does not part documents
    obtain ⟨k, hk⟩ := Nat.exists_eq_add_of_lt hp
    rw [hk, Nat.zero_add, List.replicate_succ]
    exact Cursor.atSeparator_eq_false (.inl rfl)

theorem newline_not_mem_spaces : '\n' ∉ List.replicate n ' ' := fun h => by
  cases List.eq_of_mem_replicate h

theorem Mark.column_behind_newLine (m : Mark) (n : Nat) :
    (m.behind ('\n' :: List.replicate n ' ')).column = n := by
  rw [column_behind_line newline_not_mem_spaces, List.length_replicate]

theorem IsGap.le_column {indent : Int} (h : IsGap p n gap) (hp : indent ≤ p.indent)
    (hm : indent ≤ m.column) : indent ≤ (m.behind gap).column := by
  rcases h with rfl | ⟨-, rfl⟩
  · rw [Mark.column_behind newline_not_mem_spaces]
    omega
  · rw [Placing.newLine, Mark.column_behind_newLine]
    exact hp

/-- After a gap a run starts. -/
theorem plainRun_plain_ne_nil {tail : List Char} (hbare : Bare b (c :: cs)) (hspace : c ≠ ' ') :
    (plainRun false (plain p column before (c :: cs) ++ tail) m).1 ≠ [] := by
  have hends : endsRun false c (plain p (column + 1) (some c) cs ++ tail) = false := by
    refine endsRun_eq_false (hbare.ascii c (List.mem_cons_self ..)) hspace fun hc => ?_
    have hblank := (indicatorInside_cons.mp hbare.inside).1
    cases cs with
    | nil => exact absurd ⟨hc, rfl⟩ hblank
    | cons d cs =>
      have hd : d ≠ ' ' := fun hd => hblank ⟨hc, beq_iff_eq.mpr hd⟩
      rw [plain, if_neg fun he => hd he.1]
      refine ⟨stops_isSpaceOrBreak (hbare.ascii d ?_) hd, List.cons_ne_nil _ _⟩
      exact List.mem_cons_of_mem _ (List.mem_cons_self ..)
  rw [plain, if_neg fun he => hspace he.1, List.cons_append, plainRun, hends]
  exact List.cons_ne_nil _ _

end Folding

/-- A text is a run without a space, and then spaces before the next run, unless it is at its
end. -/
theorem exists_run (cs : List Char) :
    ∃ ds rest, cs = ds ++ rest ∧ ' ' ∉ ds ∧
      (rest = [] ∨ ∃ n es, rest = List.replicate (n + 1) ' ' ++ es ∧ es.head? ≠ some ' ') := by
  induction cs with
  | nil => exact ⟨[], [], rfl, List.not_mem_nil, .inl rfl⟩
  | cons c cs ih =>
    obtain ⟨ds, rest, rfl, hds, hrest⟩ := ih
    by_cases hc : c = ' '
    · subst hc
      refine ⟨[], ' ' :: (ds ++ rest), rfl, List.not_mem_nil, .inr ?_⟩
      -- the space joins those that follow it
      cases ds with
      | cons d ds =>
        refine ⟨0, d :: ds ++ rest, rfl, fun e => ?_⟩
        exact hds (Option.some.inj e ▸ List.mem_cons_self ..)
      | nil =>
        rcases hrest with rfl | ⟨n, es, rfl, hes⟩
        · exact ⟨0, [], rfl, nofun⟩
        · exact ⟨n + 1, es, rfl, hes⟩
    · refine ⟨c :: ds, rest, rfl, fun h => ?_, hrest⟩
      exact (List.mem_cons.mp h).elim (fun e => hc e.symm) hds

/-- What ends a plain scalar: no run starts there, and if a line ends the next one is not indented
enough. -/
structure PlainEnd (indent : Int) (tail : List Char) (m : Mark) (k : Cursor) (ended : Bool) :
    Prop where
  run : plainRun false tail m = ([], ⟨tail, m⟩)
  gap : ∃ gap, plainGap ⟨tail, m⟩ = (gap, k, ended) ∧ (gap = [] ∨ (k.mark.column : Int) < indent)

section Reading

variable {indent : Int} {fuel : Nat} {run gap : List Char} {k k₁ k₂ : Cursor} {ended : Bool}

/-- A scalar ends with a run that no gap follows, or after which the next line is not indented
enough. -/
theorem plainRuns_last (hrun : plainRun false k.rest k.mark = (run, k₁))
    (hgap : plainGap k₁ = (gap, k₂, ended)) (h : gap = [] ∨ (k₂.mark.column : Int) < indent) :
    plainRuns false indent (fuel + 1) k = ⟨run, k₁.mark, k₂, ended⟩ := by
  simp only [plainRuns, hrun, hgap]
  rw [if_pos]
  rcases h with rfl | h
  · rfl
  · simp [h]

/-- After a run and a gap the scalar goes on with another run. -/
theorem plainRuns_more (hrun : plainRun false k.rest k.mark = (run, k₁))
    (hgap : plainGap k₁ = (gap, k₂, ended)) (hne : gap ≠ []) (hcomment : k₂.head? ≠ some '#')
    (hcolumn : indent ≤ k₂.mark.column) (hnext : (plainRun false k₂.rest k₂.mark).1 ≠ []) :
    plainRuns false indent (fuel + 1) k =
      { plainRuns false indent fuel k₂ with
        chars := run ++ gap ++ (plainRuns false indent fuel k₂).chars } := by
  simp only [plainRuns, hrun, hgap]
  rw [if_neg]
  simp only [Bool.or_eq_true, List.isEmpty_iff, beq_iff_eq, Bool.and_eq_true, decide_eq_true_eq,
    not_or]
  exact ⟨⟨⟨hne, hcomment⟩, fun h => by omega⟩, hnext⟩

end Reading

/-- What follows the spaces of a bare text is bare. -/
theorem Bare.after_spaces (h : Bare b (ds ++ (List.replicate (n + 1) ' ' ++ cs))) :
    Bare ' ' cs := by
  refine (?_ : Bare b (ds ++ List.replicate n ' ' ++ ' ' :: cs)).drop
  rw [List.append_cons, List.append_assoc, List.append_assoc, ← List.append_assoc _ [' '],
    ← List.replicate_succ']
  exact h

section Reading

variable {indent : Int} {tail : List Char} {fuel : Nat}

/-- A run of a bare text and the gap behind it are read before the rest. -/
theorem plainRuns_run_gap {gap : List Char} {e : Char} {es : List Char}
    (hbare : Bare b (ds ++ (List.replicate (n + 1) ' ' ++ e :: es))) (hds : ' ' ∉ ds) (he : e ≠ ' ')
    (hgap : IsGap p n gap) (hp : 0 < p.indent) (hindent : indent ≤ p.indent)
    (hm : indent ≤ (m.behind ds).column) :
    plainRuns false indent (fuel + 1)
        ⟨ds ++ (gap ++ (plain p column before (e :: es) ++ tail)), m⟩ =
      let rest := plainRuns false indent fuel
        ⟨plain p column before (e :: es) ++ tail, (m.behind ds).behind gap⟩
      { rest with chars := ds ++ List.replicate (n + 1) ' ' ++ rest.chars } := by
  have hafter : Bare ' ' (e :: es) := hbare.after_spaces
  have hnext : (plainRun false (plain p column before (e :: es) ++ tail)
      ((m.behind ds).behind gap)).1 ≠ [] := plainRun_plain_ne_nil hafter he
  have hstart : ∃ more, plain p column before (e :: es) ++ tail = e :: more :=
    ⟨_, by rw [plain, if_neg fun h => he h.1, List.cons_append]⟩
  -- the run ends where the gap begins
  have hrun : plainRun false (ds ++ (gap ++ (plain p column before (e :: es) ++ tail))) m =
      (ds, ⟨gap ++ (plain p column before (e :: es) ++ tail), m.behind ds⟩) :=
    plainRun_append (fun c hc => hbare.ascii c (List.mem_append_left _ hc)) hds hbare.inside rfl
      hgap.plainRun
  generalize plain p column before (e :: es) ++ tail = text at *
  obtain ⟨more, rfl⟩ := hstart
  obtain ⟨ended, hread⟩ : ∃ ended, plainGap ⟨gap ++ e :: more, m.behind ds⟩ =
      (List.replicate (n + 1) ' ', ⟨e :: more, (m.behind ds).behind gap⟩, ended) :=
    hgap.plainGap hp (hafter.ascii e (List.mem_cons_self ..)) he
  have hcomment : e ≠ '#' := by
    rintro rfl
    exact (indicatorInside_cons.mp hafter.inside).2.1 ⟨rfl, rfl⟩
  exact plainRuns_more hrun hread (List.cons_ne_nil _ _) (fun h => hcomment (Option.some.inj h))
    (hgap.le_column hindent hm) hnext

/-- A bare text is read as it was before it was folded. -/
theorem plainRuns_plain {k : Cursor} {ended : Bool} (hp : 0 < p.indent)
    (hindent : indent ≤ p.indent)
    (hfuel : cs.length < fuel) (hne : cs ≠ []) (hhead : cs.head? ≠ some ' ') (hbare : Bare b cs)
    (hm : indent ≤ m.column + 1)
    (hend : PlainEnd indent tail (m.behind (plain p column before cs)) k ended) :
    plainRuns false indent fuel ⟨plain p column before cs ++ tail, m⟩ =
      ⟨cs, m.behind (plain p column before cs), k, ended⟩ := by
  induction fuel generalizing cs b m column before with
  | zero => exact absurd hfuel (Nat.not_lt_zero _)
  | succ fuel ih =>
    obtain ⟨ds, rest, rfl, hds, hrest⟩ := exists_run cs
    cases ds with
    | nil =>
      -- the text starts with a run
      rcases hrest with rfl | ⟨n, es, rfl, -⟩
      · exact absurd rfl hne
      · exact absurd rfl hhead
    | cons d ds =>
    obtain ⟨x, column', hplain⟩ := plain_run p column before hds
    have hascii : ∀ c ∈ d :: ds, isPlainAscii c = true := fun c hc =>
      hbare.ascii c (List.mem_append_left _ hc)
    rcases hrest with rfl | ⟨n, es, rfl, hes⟩
    · -- the last run
      rw [hplain, plain, List.append_nil] at hend ⊢
      obtain ⟨gap, hgap, hstop⟩ := hend.gap
      have hrun := plainRun_append hascii hds hbare.inside rfl hend.run
      exact plainRuns_last hrun hgap hstop
    · -- a run, a gap, and the rest, which does not start with a space
      have hes' : es ≠ [] := by
        rintro rfl
        refine hbare.last ?_
        rw [List.append_nil, List.replicate_succ', ← List.append_assoc, List.getLast?_concat]
      obtain ⟨e, es, rfl⟩ := List.exists_cons_of_ne_nil hes'
      have he : e ≠ ' ' := fun h => hes (h ▸ rfl)
      obtain ⟨gap, column'', hwritten, hgap⟩ : ∃ gap column'',
          plain p column' (some x) (List.replicate (n + 1) ' ' ++ e :: es) =
            gap ++ plain p column'' (some ' ') (e :: es) ∧ IsGap p n gap := plain_spaces
      have hrun : indent ≤ (m.behind (d :: ds)).column := by
        rw [Mark.column_behind fun h => ne_newline_of_isPlainAscii (hascii _ h) rfl,
          List.length_cons]
        omega
      have hcolumn : indent ≤ ((m.behind (d :: ds)).behind gap).column :=
        hgap.le_column hindent hrun
      rw [hplain, hwritten, Mark.behind_append, Mark.behind_append] at hend
      rw [hplain, hwritten, List.append_assoc, List.append_assoc, Mark.behind_append,
        Mark.behind_append, plainRuns_run_gap hbare hds he hgap hp hindent hrun,
        ih _ (List.cons_ne_nil _ _) hes hbare.after_spaces (by omega) hend]
      · simp only [List.append_assoc]
      · simp only [List.length_append, List.length_cons] at hfuel ⊢
        omega

end Reading

section Ends

/-- A key ends before its colon. -/
theorem plainEnd_colon {indent : Int} (h : isSpaceOrBreak c = true) :
    PlainEnd indent (':' :: c :: cs) m ⟨':' :: c :: cs, m⟩ false where
  run := by simp [plainRun, endsRun, colonEnds, h]
  gap := ⟨[], plainGap_spaces (n := 0) (stops_cons rfl) (stops_cons rfl), .inl rfl⟩

/-- A value ends with its line where the next one is not indented enough. -/
theorem plainEnd_line {indent : Int} (hspace : Stops (· == ' ') rest) (hbreak : Stops isBreak rest)
    (hseparator : ∀ m, (⟨List.replicate n ' ' ++ rest, m⟩ : Cursor).atSeparator = false)
    (hindent : (n : Int) < indent) :
    PlainEnd indent ('\n' :: (List.replicate n ' ' ++ rest)) m
      ⟨rest, m.behind ('\n' :: List.replicate n ' ')⟩ true where
  run := plainRun_of_isSpaceOrBreak rfl
  gap := by
    refine ⟨_, plainGap_newLine hspace hbreak hseparator, .inr ?_⟩
    rwa [Mark.column_behind_newLine]

end Ends

section Scanning

theorem length_le_length_plain : cs.length ≤ (plain p column before cs).length := by
  induction cs generalizing column before with
  | nil => exact Nat.le_refl _
  | cons c cs ih =>
    rw [plain]
    split
    · rw [List.length_append, Placing.newLine, List.length_cons, List.length_cons]
      have hrest : cs.length ≤ (plain p p.indent (some c) cs).length := ih
      omega
    · rw [List.length_cons, List.length_cons]
      exact Nat.succ_le_succ ih

theorem isWritten_plain (h : ∀ c ∈ cs, isPlainAscii c = true) :
    ∀ c ∈ plain p column before cs, isWritten c = true := by
  induction cs generalizing column before with
  | nil => nofun
  | cons c cs ih =>
    rw [List.forall_mem_cons] at h
    rw [plain]
    split
    · rw [List.forall_mem_append, Placing.newLine, List.forall_mem_cons]
      exact ⟨⟨rfl, fun d hd => List.eq_of_mem_replicate hd ▸ rfl⟩, ih h.2⟩
    · exact List.forall_mem_cons.mpr ⟨isWritten_of_isPlainAscii h.1, ih h.2⟩

/-- Where lines are not folded, a bare text is written as it is. -/
theorem plain_of_not_folds (h : p.folds = false) : plain p column before cs = cs := by
  induction cs generalizing column before with
  | nil => rfl
  | cons c cs ih => rw [plain, if_neg (by simp [foldsAt, h]), ih]

/-- A text without a space is written as it is. -/
theorem plain_of_not_mem (h : ' ' ∉ cs) : plain p column before cs = cs := by
  induction cs generalizing column before with
  | nil => rfl
  | cons c cs ih =>
    rw [List.mem_cons, not_or] at h
    rw [plain, if_neg fun e => h.1 e.1.symm, ih h.2]

/-- A text that is written without quotes reads back. -/
theorem scanPlain_plain {indent : Int} {tail : List Char} {k : Cursor} {ended : Bool}
    (hp : 0 < p.indent) (hindent : indent ≤ p.indent) (hne : cs ≠ [])
    (hallowed : plainAllowed cs = true) (hm : indent ≤ m.column + 1)
    (hend : PlainEnd indent tail (m.behind (plain p column none cs)) k ended) :
    scanPlain false indent ⟨plain p column none cs ++ tail, m⟩ =
      ⟨cs, m.behind (plain p column none cs), k, ended⟩ := by
  have hhead : cs.head? ≠ some ' ' := by
    cases cs with
    | nil => nofun
    | cons c cs =>
      rintro ⟨⟩
      simp [plainAllowed] at hallowed
  have hbare : Bare 'a' cs := bare_of_plainAllowed hallowed (by decide)
  refine plainRuns_plain hp hindent ?_ hne hhead hbare hm hend
  rw [List.length_append]
  exact Nat.lt_succ_of_le (Nat.le_trans length_le_length_plain (Nat.le_add_right _ _))

/-- A text that is written as it is reads back. -/
theorem scanPlain_bare {indent : Int} {tail : List Char} {k : Cursor} {ended : Bool} (hne : cs ≠ [])
    (hallowed : plainAllowed cs = true) (hm : indent ≤ m.column + 1)
    (hend : PlainEnd indent tail (m.behind cs) k ended) :
    scanPlain false indent ⟨cs ++ tail, m⟩ = ⟨cs, m.behind cs, k, ended⟩ := by
  have hplain : plain ⟨indent.toNat + 1, false⟩ 0 none cs = cs := plain_of_not_folds rfl
  have hread := scanPlain_plain (p := ⟨indent.toNat + 1, false⟩) (Nat.succ_pos _)
    (by simp only; omega)
    hne hallowed hm (hplain.symm ▸ hend)
  rwa [hplain] at hread

end Scanning

end StreamMesh.Yaml
