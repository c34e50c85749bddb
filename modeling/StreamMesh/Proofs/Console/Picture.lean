import Mathlib.Algebra.Group.Nat.Even
import Mathlib.Data.List.DropRight
import StreamMesh.Console.Emoji

/-!
# Names of pictures in a text

Colons are read in pairs, from the left of each word: the first opens a name and the second closes
it, and what stands between them is looked up. A colon that is left over at the end of a word stands
for itself. So a text has a picture in it exactly if some name stands behind an even number of
colons of its word, and a text without any stays as it is.

## Main definitions

* `Emoji.openColons` — the colons of the word that a text ends in
* `Emoji.HasPicture` — a text with the name of a picture in it

## Main results

* `Emoji.expand_eq_self` — a text without pictures stays as it is
* `Emoji.exists_beyondAscii_of_hasPicture` — a picture shows in the text
-/

namespace StreamMesh.Emoji

variable {c : Char} {cs before code code' more rest x y : List Char} {fuel : Nat}

/-- What may stand between the colons around a name. -/
def Between (code : List Char) : Prop := ∀ c ∈ code, c ≠ ':' ∧ Text.isBlank c = false

/-- The colons of the word that a text ends in. -/
def openColons (before : List Char) : Nat := (before.rtakeWhile (!Text.isBlank ·)).count ':'

/-- A text with the name of a picture in it. -/
def HasPicture (cs : List Char) : Prop :=
  ∃ before code after, cs = before ++ ':' :: (code ++ ':' :: after) ∧ Even (openColons before) ∧
    Between code ∧ (ofCode? code).isSome

section Pairs

theorem Between.not_colon_mem (h : Between code) : ':' ∉ code := fun hc => (h _ hc).1 rfl

/-- What is found before the next colon, if there is no blank between. -/
theorem untilColon_eq_some_iff :
    untilColon cs = some (code, more) ↔ cs = code ++ ':' :: more ∧ Between code := by
  induction cs generalizing code with
  | nil => simp [untilColon]
  | cons c rest ih =>
    -- the next character is the colon, a blank, or part of the name
    by_cases hc : c = ':'
    · subst hc
      cases code with
      | nil => simp [untilColon, Between]
      | cons d code =>
        refine ⟨fun h => ?_, ?_⟩
        · cases h
        · rintro ⟨heq, hcode⟩
          cases heq
          exact absurd (.head _) hcode.not_colon_mem
    · have hcons : untilColon (c :: rest) = if Text.isBlank c then none else
          (untilColon rest).map fun r => (c :: r.1, r.2) := by
        rw [untilColon.eq_def]
        split
        · contradiction
        · rename_i heq
          cases heq
          exact absurd rfl hc
        · rename_i heq
          cases heq
          rfl
      rw [hcons]
      cases code with
      | nil =>
        refine ⟨fun h => ?_, fun h => absurd (List.cons.inj h.1).1 hc⟩
        split at h
        · cases h
        · obtain ⟨⟨_, _⟩, -, heq⟩ := Option.map_eq_some_iff.mp h
          cases heq
      | cons d code =>
        have hbetween : Between (d :: code) ↔ (d ≠ ':' ∧ Text.isBlank d = false) ∧ Between code :=
          List.forall_mem_cons
        rw [hbetween, List.cons_append, List.cons.injEq]
        cases hblank : Text.isBlank c with
        | true =>
          refine ⟨fun h => ?_, ?_⟩
          · cases h
          · rintro ⟨⟨rfl, -⟩, ⟨-, hd⟩, -⟩
            exact absurd hblank (Bool.eq_false_iff.mp hd)
        | false =>
          rw [if_neg Bool.false_ne_true, Option.map_eq_some_iff]
          constructor
          · rintro ⟨⟨code', more'⟩, hrest, heq⟩
            cases heq
            obtain ⟨hsplit, hcode⟩ := ih.mp hrest
            exact ⟨⟨rfl, hsplit⟩, ⟨hc, hblank⟩, hcode⟩
          · rintro ⟨⟨rfl, hsplit⟩, -, hcode⟩
            exact ⟨(code, more), ih.mpr ⟨hsplit, hcode⟩, rfl⟩

/-- Where no colon is found before the next blank, a blank stands before every colon. -/
theorem exists_blank_of_untilColon_eq_none (h : untilColon (before ++ ':' :: more) = none) :
    ∃ c ∈ before, Text.isBlank c = true := by
  by_contra hblank
  have hword : ∀ c ∈ before, Text.isBlank c = false := by simpa using hblank
  -- the first of the colons ends a name
  obtain ⟨code, after, hsplit, hcode⟩ :=
    List.eq_append_cons_of_mem (List.mem_append_right before
      (List.mem_cons_self (a := ':') (l := more)))
  have hbefore : ∀ c ∈ code, c ∈ before := by
    intro c hc
    rcases List.append_eq_append_iff.mp hsplit with ⟨d, rfl, hd⟩ | ⟨d, rfl, -⟩
    · cases d with
      | nil => simpa using hc
      | cons e d =>
        cases hd
        exact absurd (List.mem_append_right before (List.mem_cons_self ..)) hcode
    · exact List.mem_append_left _ hc
  have hfound : untilColon (before ++ ':' :: more) = some (code, after) :=
    untilColon_eq_some_iff.mpr
      ⟨hsplit, fun c hc => ⟨fun heq => hcode (heq ▸ hc), hword c (hbefore c hc)⟩⟩
  cases h.symm.trans hfound

/-- Only the last word counts. -/
theorem openColons_append_of_blank (h : ∃ c ∈ y, Text.isBlank c = true) :
    openColons (x ++ y) = openColons y := by
  obtain ⟨c, hc, hblank⟩ := h
  have hshort : (y.reverse.takeWhile (!Text.isBlank ·)).length ≠ y.reverse.length := by
    intro hlength
    have hall := List.takeWhile_eq_self_iff.mp (List.takeWhile_prefix _ |>.eq_of_length hlength)
    have := hall c (List.mem_reverse.mpr hc)
    simp [hblank] at this
  rw [openColons, openColons, List.rtakeWhile, List.reverse_append, List.takeWhile_append,
    if_neg hshort, List.rtakeWhile]

theorem openColons_append_of_word (h : ∀ c ∈ y, Text.isBlank c = false) :
    openColons (x ++ y) = openColons x + y.count ':' := by
  have hall : ∀ c ∈ y.reverse, (!Text.isBlank c) = true := by
    intro c hc
    rw [h c (List.mem_reverse.mp hc)]
    rfl
  rw [openColons, openColons, List.rtakeWhile, List.reverse_append,
    List.takeWhile_append_of_pos hall, List.reverse_append, List.reverse_reverse, List.count_append,
    List.rtakeWhile]

/-- Colons in pairs in front of a text do not count. -/
theorem even_openColons_append (h : Even (openColons x)) :
    Even (openColons (x ++ y)) ↔ Even (openColons y) := by
  by_cases hblank : ∃ c ∈ y, Text.isBlank c = true
  · rw [openColons_append_of_blank hblank]
  · have hword : ∀ c ∈ y, Text.isBlank c = false := by simpa using hblank
    have hself : openColons y = y.count ':' := by
      simpa [openColons] using openColons_append_of_word (x := []) hword
    rw [openColons_append_of_word hword, Nat.even_add, hself]
    exact iff_true_left h

end Pairs

section Words

theorem not_hasPicture_nil : ¬ HasPicture [] := by
  rintro ⟨before, code, after, h, -⟩
  simp at h

theorem hasPicture_of_append (hx : Even (openColons x)) (h : HasPicture y) :
    HasPicture (x ++ y) := by
  obtain ⟨before, code, after, rfl, heven, hcode⟩ := h
  exact ⟨x ++ before, code, after, by simp, (even_openColons_append hx).mpr heven, hcode⟩

theorem hasPicture_cons_iff (hc : c ≠ ':') : HasPicture (c :: rest) ↔ HasPicture rest := by
  have heven : Even (openColons [c]) := by
    have hnone : ':' ∉ [c].rtakeWhile (!Text.isBlank ·) := fun hmem =>
      hc (List.mem_singleton.mp ((List.rtakeWhile_suffix _ _).subset hmem)).symm
    rw [openColons, List.count_eq_zero_of_not_mem hnone]
    exact Even.zero
  constructor
  · rintro ⟨before, code, after, hsplit, hbefore, hcode⟩
    cases before with
    | nil => exact absurd (List.cons.inj hsplit).1 hc
    | cons d before =>
      cases hsplit
      exact ⟨before, code, after, rfl, (even_openColons_append (x := [c]) heven).mp hbefore, hcode⟩
  · exact hasPicture_of_append (x := [c]) heven

/-- A colon without a partner stands for itself. -/
theorem hasPicture_colon_iff (h : untilColon rest = none) :
    HasPicture (':' :: rest) ↔ HasPicture rest := by
  constructor
  · rintro ⟨before, code, after, hsplit, hbefore, hcode⟩
    cases before with
    | nil =>
      cases hsplit
      cases h.symm.trans (untilColon_eq_some_iff.mpr ⟨rfl, hcode.1⟩)
    | cons d before =>
      cases hsplit
      have hblank := exists_blank_of_untilColon_eq_none h
      have hsame : openColons (':' :: before) = openColons before :=
        openColons_append_of_blank (x := [':']) hblank
      exact ⟨before, code, after, rfl, hsame ▸ hbefore, hcode⟩
  · rintro ⟨before, code, after, rfl, hbefore, hcode⟩
    have hsame : openColons (':' :: before) = openColons before :=
      openColons_append_of_blank (x := [':']) (exists_blank_of_untilColon_eq_none h)
    exact ⟨':' :: before, code, after, rfl, hsame ▸ hbefore, hcode⟩

/-- Two colons of a word are a pair, and what stands between them is one name. -/
theorem hasPicture_pair_iff (hcode : Between code) :
    HasPicture (':' :: (code ++ ':' :: more)) ↔ (ofCode? code).isSome ∨ HasPicture more := by
  have hword : ∀ c ∈ code, Text.isBlank c = false := fun c hc => (hcode c hc).2
  have hopened : openColons (':' :: code) = 1 := by
    have h := openColons_append_of_word (x := [':']) hword
    rw [List.count_eq_zero_of_not_mem hcode.not_colon_mem] at h
    exact h
  have hpair : Even (openColons (':' :: code ++ [':'])) := by
    rw [openColons_append_of_word (List.forall_mem_singleton.mpr rfl), hopened]
    decide
  constructor
  · rintro ⟨before, code', after, hsplit, hbefore, hcode', hname⟩
    cases before with
    | nil =>
      have h : untilColon (code ++ ':' :: more) = some (code, more) :=
        untilColon_eq_some_iff.mpr ⟨rfl, hcode⟩
      rw [List.nil_append, List.cons.injEq] at hsplit
      rw [untilColon_eq_some_iff.mpr ⟨hsplit.2, hcode'⟩] at h
      cases h
      exact .inl hname
    | cons d before =>
      rw [List.cons_append, List.cons.injEq] at hsplit
      obtain ⟨rfl, hsplit⟩ := hsplit
      -- the second colon opens no name, since the first one does
      have hodd : before ≠ code := by
        rintro rfl
        rw [hopened] at hbefore
        exact absurd hbefore (by decide)
      rcases List.append_eq_append_iff.mp hsplit with ⟨between, rfl, hmore⟩ | ⟨between, rfl, hmore⟩
      · cases between with
        | nil => exact absurd (List.append_nil _) hodd
        | cons e between =>
          cases hmore
          have hsplit' : ':' :: (code ++ ':' :: between) = (':' :: code ++ [':']) ++ between := by
            simp
          rw [hsplit', even_openColons_append hpair] at hbefore
          exact .inr ⟨between, code', after, rfl, hbefore, hcode', hname⟩
      · cases between with
        | nil => exact absurd (List.append_nil _).symm hodd
        | cons e between =>
          obtain ⟨rfl, -⟩ := List.cons.inj hmore
          exact absurd (List.mem_append_right _ (.head _)) hcode.not_colon_mem
  · rintro (hname | hmore)
    · exact ⟨[], code, more, rfl, by decide, hcode, hname⟩
    · have h := hasPicture_of_append hpair hmore
      rwa [List.append_assoc, List.singleton_append] at h

end Words

section Expanding

theorem expandFrom_eq_self (h : ¬ HasPicture cs) : expandFrom fuel cs = cs := by
  -- on the fuel: behind a pair of colons reading starts anew
  induction fuel generalizing cs with
  | zero => rfl
  | succ fuel ih =>
    cases cs with
    | nil => rfl
    | cons c rest =>
      by_cases hc : c = ':'
      · subst hc
        rw [expandFrom, if_pos rfl]
        cases hpair : untilColon rest with
        | none =>
          rw [hasPicture_colon_iff hpair] at h
          exact congrArg _ (ih h)
        | some found =>
          obtain ⟨code, more⟩ := found
          obtain ⟨rfl, hcode⟩ := untilColon_eq_some_iff.mp hpair
          rw [hasPicture_pair_iff hcode, not_or, Option.not_isSome_iff_eq_none] at h
          dsimp only
          rw [h.1, Option.getD_none, ih h.2]
          simp
      · rw [hasPicture_cons_iff hc] at h
        rw [expandFrom, if_neg hc, ih h]

/-- A text without pictures stays as it is. -/
theorem expand_eq_self (h : ¬ HasPicture cs) : expand cs = cs := expandFrom_eq_self h

theorem expand_cons (hc : c ≠ ':') : expand (c :: rest) = c :: expand rest := by
  rw [expand, List.length_cons, expandFrom, if_neg hc, expand]

theorem exists_beyondAscii_of_picture? {name picture : List Char}
    (h : picture? name = some picture) :
    ∃ c ∈ picture, isBeyondAscii c = true := by
  obtain ⟨group, hfound, rfl⟩ := Option.map_eq_some_iff.mp h
  obtain ⟨_, -, hgroup⟩ := List.mem_filterMap.mp (List.mem_of_find?_eq_some hfound)
  unfold ofGroup? at hgroup
  dsimp only at hgroup
  split at hgroup
  · rename_i hany
    cases hgroup
    exact List.any_eq_true.mp hany
  · cases hgroup

theorem exists_beyondAscii_of_ofCode? {picture : List Char} (h : ofCode? code = some picture) :
    ∃ c ∈ picture, isBeyondAscii c = true := by
  unfold ofCode? at h
  split at h
  · obtain ⟨picture', h', rfl⟩ := Option.map_eq_some_iff.mp h
    obtain ⟨c, hc, hbeyond⟩ := exists_beyondAscii_of_picture? h'
    exact ⟨c, List.mem_append_left _ hc, hbeyond⟩
  · exact exists_beyondAscii_of_picture? h

theorem exists_beyondAscii_expandFrom (h : HasPicture cs) (hfuel : cs.length ≤ fuel) :
    ∃ c ∈ expandFrom fuel cs, isBeyondAscii c = true := by
  induction fuel generalizing cs with
  | zero =>
    rw [List.eq_nil_of_length_eq_zero (Nat.le_zero.mp hfuel)] at h
    exact absurd h not_hasPicture_nil
  | succ fuel ih =>
    cases cs with
    | nil => exact absurd h not_hasPicture_nil
    | cons c rest =>
      have hrest : rest.length ≤ fuel := Nat.le_of_succ_le_succ hfuel
      by_cases hc : c = ':'
      · subst hc
        rw [expandFrom, if_pos rfl]
        cases hpair : untilColon rest with
        | none =>
          rw [hasPicture_colon_iff hpair] at h
          obtain ⟨d, hd, hbeyond⟩ := ih h hrest
          exact ⟨d, List.mem_cons_of_mem _ hd, hbeyond⟩
        | some found =>
          obtain ⟨code, more⟩ := found
          obtain ⟨rfl, hcode⟩ := untilColon_eq_some_iff.mp hpair
          dsimp only
          -- either this pair of colons shows a picture, or one is shown behind it
          rcases (hasPicture_pair_iff hcode).mp h with hname | hmore
          · obtain ⟨picture, hpicture⟩ := Option.isSome_iff_exists.mp hname
            obtain ⟨d, hd, hbeyond⟩ := exists_beyondAscii_of_ofCode? hpicture
            exact ⟨d, List.mem_append_left _ (by rwa [hpicture]), hbeyond⟩
          · have hlength : more.length ≤ fuel := by
              rw [List.length_append, List.length_cons] at hrest
              omega
            obtain ⟨d, hd, hbeyond⟩ := ih hmore hlength
            exact ⟨d, List.mem_append_right _ hd, hbeyond⟩
      · rw [hasPicture_cons_iff hc] at h
        obtain ⟨d, hd, hbeyond⟩ := ih h hrest
        rw [expandFrom, if_neg hc]
        exact ⟨d, List.mem_cons_of_mem _ hd, hbeyond⟩

/-- A picture shows in the text, since it is not written in ASCII. -/
theorem exists_beyondAscii_of_hasPicture (h : HasPicture cs) :
    ∃ c ∈ expand cs, isBeyondAscii c = true :=
  exists_beyondAscii_expandFrom h le_rfl

end Expanding

end StreamMesh.Emoji
