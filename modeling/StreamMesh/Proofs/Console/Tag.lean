import Mathlib.Data.List.Basic
import StreamMesh.Proofs.Console.Markup

/-!
# What reading markup leaves out

A tag leaves nothing of itself, and a backslash in front of a bracket is left out whether the
bracket starts a tag or not. All other characters stay, in their order. So the text of the parts of
a message is as long as the message exactly if nothing was there to be left out, and then it is one
stretch.

## Main definitions

* `Markup.HasTag`, `Markup.HasEscape` — a text with a tag, with a backslash in front of a bracket
* `Markup.textOf` — the text of some parts
* `Markup.stretch` — a stretch of text by itself

## Main results

* `Markup.textOf_partsFrom_sublist` — the text of the parts is part of the text
* `Markup.length_textOf_partsFrom` — a text that keeps its length holds no tag and no such backslash
* `Markup.partsFrom_eq_stretch` — a text without these is one stretch of text
-/

namespace StreamMesh

namespace Markup

variable {c : Char} {cs ds rest : List Char} {parts : List Markup} {fuel slashes : Nat}

/-- A text with a tag in it: a bracket, what tags can start with, and the end before the next
bracket. -/
def HasTag (cs : List Char) : Prop :=
  ∃ before inside after, cs = before ++ '[' :: (inside ++ ']' :: after) ∧ '[' ∉ inside ∧
    ∃ c, inside.head? = some c ∧ startsTag c = true

/-- A text with a backslash in front of a bracket. -/
def HasEscape (cs : List Char) : Prop := ['\\', '['] <:+: cs

/-- What parts say if neither tags nor pictures count. -/
def textOf : List Markup → List Char
  | [] => []
  | text cs :: rest => cs ++ textOf rest
  | tag .. :: rest => textOf rest

/-- A stretch of text by itself. -/
def stretch (cs : List Char) : List Markup := if cs = [] then [] else [text cs]

section Parts

theorem textOf_consChar : textOf (consChar c parts) = c :: textOf parts := by
  unfold consChar
  split <;> rfl

theorem textOf_consChars : textOf (consChars cs parts) = cs ++ textOf parts := by
  induction cs with
  | nil => rfl
  | cons c cs ih => exact textOf_consChar.trans (congrArg _ ih)

theorem textOf_consText : textOf (consText cs parts) = cs ++ textOf parts := by
  unfold consText
  split
  · rename_i h
    rw [h, List.nil_append]
  · rfl

theorem consChar_stretch : consChar c (stretch cs) = stretch (c :: cs) := by
  cases cs <;> rfl

theorem consChars_stretch : consChars cs (stretch ds) = stretch (cs ++ ds) := by
  induction cs with
  | nil => rfl
  | cons c cs ih => exact (congrArg (consChar c) ih).trans consChar_stretch

end Parts

section Tags

theorem untilBracket_isSome_iff :
    (untilBracket cs).isSome ↔ ∃ inside after, cs = inside ++ ']' :: after ∧ '[' ∉ inside := by
  induction cs with
  | nil => simp [untilBracket]
  | cons c cs ih =>
    -- the next character ends the tag, opens another, or is part of its inside
    by_cases hclose : c = ']'
    · subst hclose
      exact iff_of_true rfl ⟨[], cs, rfl, List.not_mem_nil⟩
    · by_cases hopen : c = '['
      · subst hopen
        refine iff_of_false Bool.false_ne_true ?_
        rintro ⟨inside, after, hsplit, hinside⟩
        cases inside with
        | nil => exact absurd (List.cons.inj hsplit).1 (by decide)
        | cons d inside =>
          obtain ⟨rfl, -⟩ := List.cons.inj hsplit
          exact hinside (.head _)
      · have hcons : untilBracket (c :: cs) = (untilBracket cs).map fun r =>
            (c :: r.1, r.2) := by
          rw [untilBracket.eq_def]
          split
          · contradiction
          · rename_i heq
            cases heq
            exact absurd rfl hclose
          · rename_i heq
            cases heq
            exact absurd rfl hopen
          · rename_i heq
            cases heq
            rfl
        rw [hcons, Option.isSome_map, ih]
        constructor
        · rintro ⟨inside, after, rfl, hinside⟩
          exact ⟨c :: inside, after, rfl,
            List.not_mem_cons_of_ne_of_not_mem (Ne.symm hopen) hinside⟩
        · rintro ⟨inside, after, hsplit, hinside⟩
          cases inside with
          | nil => exact absurd (List.cons.inj hsplit).1 hclose
          | cons d inside =>
            exact ⟨inside, after, (List.cons.inj hsplit).2, fun h => hinside (.tail _ h)⟩

theorem tagAfterBracket_isSome_iff : (tagAfterBracket rest).isSome ↔
    ∃ inside after, rest = inside ++ ']' :: after ∧ '[' ∉ inside ∧
      ∃ c, inside.head? = some c ∧ startsTag c = true := by
  constructor
  · intro h
    unfold tagAfterBracket at h
    split at h
    · rename_i c rest
      split at h
      · rename_i hstart
        rw [Option.isSome_map] at h
        obtain ⟨inside, after, rfl, hinside⟩ := untilBracket_isSome_iff.mp h
        have hne : '[' ≠ c := by
          rintro rfl
          exact absurd hstart (by decide)
        exact ⟨c :: inside, after, rfl, List.not_mem_cons_of_ne_of_not_mem hne hinside, c, rfl,
          hstart⟩
      · cases h
    · cases h
  · rintro ⟨inside, after, rfl, hinside, c, hfirst, hstart⟩
    obtain ⟨inside, rfl⟩ := List.head?_eq_some_iff.mp hfirst
    rw [List.cons_append, tagAfterBracket, if_pos hstart, Option.isSome_map]
    exact untilBracket_isSome_iff.mpr ⟨inside, after, rfl, fun h => hinside (.tail _ h)⟩

theorem hasTag_cons_iff :
    HasTag (c :: rest) ↔ c = '[' ∧ (tagAfterBracket rest).isSome ∨ HasTag rest := by
  rw [tagAfterBracket_isSome_iff]
  constructor
  · rintro ⟨before, inside, after, hsplit, htag⟩
    cases before with
    | nil =>
      obtain ⟨rfl, rfl⟩ := List.cons.inj hsplit
      exact .inl ⟨rfl, inside, after, rfl, htag⟩
    | cons d before =>
      obtain ⟨rfl, rfl⟩ := List.cons.inj hsplit
      exact .inr ⟨before, inside, after, rfl, htag⟩
  · rintro (⟨rfl, inside, after, rfl, htag⟩ | ⟨before, inside, after, rfl, htag⟩)
    · exact ⟨[], inside, after, rfl, htag⟩
    · exact ⟨c :: before, inside, after, rfl, htag⟩

theorem not_hasTag_nil : ¬ HasTag [] := by
  rintro ⟨before, inside, after, h, -⟩
  simp at h

theorem hasTag_cons_of_ne (hc : c ≠ '[') : HasTag (c :: rest) ↔ HasTag rest := by
  rw [hasTag_cons_iff, or_iff_right fun h => hc h.1]

/-- Backslashes matter right in front of a bracket only. -/
theorem hasEscape_replicate_append_iff (hc : c ≠ '\\') :
    HasEscape (List.replicate slashes '\\' ++ c :: rest) ↔
      slashes ≠ 0 ∧ c = '[' ∨ HasEscape rest := by
  have hnone : ¬ ['\\', '['] <+: c :: rest := fun h => hc (List.cons_prefix_cons.mp h).1.symm
  induction slashes with
  | zero =>
    rw [List.replicate_zero, List.nil_append, HasEscape, List.infix_cons_iff, or_iff_right hnone]
    exact (or_iff_right fun h => h.1 rfl).symm
  | succ slashes ih =>
    rw [List.replicate_succ, List.cons_append, HasEscape, List.infix_cons_iff,
      List.cons_prefix_cons]
    refine (or_congr_right ih).trans ?_
    cases slashes with
    | zero => simp [eq_comm]
    | succ slashes => simp [List.replicate_succ, List.cons_prefix_cons]

theorem not_hasEscape_replicate : ¬ HasEscape (List.replicate slashes '\\') := by
  intro h
  have hmem : '[' ∈ List.replicate slashes '\\' := h.subset (by simp)
  exact absurd (List.eq_of_mem_replicate hmem) (by decide)

end Tags

section Length

theorem slashes_sublist {few many : Nat} (h : few ≤ many) :
    (List.replicate few '\\').Sublist (List.replicate many '\\') :=
  List.replicate_sublist_iff.mpr (by rwa [List.count_replicate_self])

/-- Reading markup leaves out characters and adds none. -/
theorem textOf_partsFrom_sublist (fuel slashes : Nat) (cs : List Char) :
    (textOf (partsFrom fuel slashes cs)).Sublist (List.replicate slashes '\\' ++ cs) := by
  induction fuel generalizing slashes cs with
  | zero => exact List.nil_sublist _
  | succ fuel ih =>
    cases cs with
    | nil =>
      unfold partsFrom
      split
      · exact List.nil_sublist _
      · exact List.Sublist.refl _
    | cons c rest =>
      unfold partsFrom
      split
      · rename_i hc
        have h := ih (slashes + 1) rest
        rw [List.replicate_succ', List.append_assoc, List.singleton_append] at h
        rwa [hc]
      · split
        · rename_i hbracket
          split
          · rename_i inside more htag
            have hmore := ih 0 more
            -- half of the backslashes in front of a tag are kept
            have hkept := slashes_sublist (Nat.div_le_self slashes 2)
            have hrest := tagAfterBracket_eq_some htag
            dsimp only
            split
            · rw [textOf_consText, textOf_consText]
              refine hkept.append ?_
              rw [hbracket, hrest]
              exact .cons_cons _ (by simpa using (List.Sublist.refl (inside ++ [']'])).append hmore)
            · rw [textOf_consText, textOf]
              refine hkept.append ?_
              rw [hrest]
              exact (hmore.trans (by simp)).cons _
          · rw [textOf_consChars, List.append_assoc]
            exact (slashes_sublist (Nat.sub_le ..)).append (.cons_cons _ (ih 0 rest))
        · rw [textOf_consChars, List.append_assoc]
          exact (List.Sublist.refl _).append (.cons_cons _ (ih 0 rest))

theorem length_textOf_le (fuel slashes : Nat) (cs : List Char) :
    (textOf (partsFrom fuel slashes cs)).length ≤ slashes + cs.length := by
  simpa using (textOf_partsFrom_sublist fuel slashes cs).length_le

/-- A text that keeps its length holds no tag and no backslash in front of a bracket. -/
theorem length_textOf_partsFrom (slashes : Nat) (hfuel : cs.length < fuel)
    (h : (textOf (partsFrom fuel slashes cs)).length = slashes + cs.length) :
    ¬ HasTag cs ∧ ¬ HasEscape (List.replicate slashes '\\' ++ cs) := by
  induction fuel generalizing slashes cs with
  | zero => exact absurd hfuel (Nat.not_lt_zero _)
  | succ fuel ih =>
    cases cs with
    | nil =>
      rw [List.append_nil]
      exact ⟨not_hasTag_nil, not_hasEscape_replicate⟩
    | cons c rest =>
      have hrest : rest.length < fuel := Nat.lt_of_succ_lt_succ hfuel
      unfold partsFrom at h
      split at h
      · -- a backslash is counted, and stands in front of what follows
        rename_i hc
        subst hc
        have hlength : slashes + (rest.length + 1) = slashes + 1 + rest.length := by omega
        obtain ⟨htag, hescape⟩ := ih _ hrest (h.trans hlength)
        rw [List.replicate_succ', List.append_assoc, List.singleton_append] at hescape
        exact ⟨(hasTag_cons_of_ne (by decide)).not.mpr htag, hescape⟩
      · rename_i hc
        rw [hasEscape_replicate_append_iff hc, hasTag_cons_iff]
        split at h
        · rename_i hbracket
          split at h
          · -- what a tag leaves is shorter, and so is one that loses its backslash
            rename_i inside more htag
            exfalso
            have hmore := length_textOf_le fuel 0 more
            have hlength := congrArg List.length (tagAfterBracket_eq_some htag)
            dsimp only at h
            split at h
            · rename_i hodd
              simp only [textOf_consText, List.length_append, List.length_replicate,
                List.length_cons, List.length_nil] at h hlength
              omega
            · simp only [textOf_consText, textOf, List.length_append, List.length_replicate,
                List.length_cons] at h hlength
              omega
          · rename_i htag
            have hle := length_textOf_le fuel 0 rest
            simp only [textOf_consChars, List.length_append, List.length_replicate,
              List.length_cons, List.length_nil] at h
            obtain rfl : slashes = 0 := by omega
            obtain ⟨hrestTag, hrestEscape⟩ := ih 0 hrest (by omega)
            simp only [htag, Option.isSome_none]
            exact ⟨by simpa using hrestTag, by simpa using hrestEscape⟩
        · rename_i hbracket
          simp only [textOf_consChars, List.length_append, List.length_replicate, List.length_cons,
            List.length_nil] at h
          obtain ⟨hrestTag, hrestEscape⟩ := ih 0 hrest (by omega)
          simp only [hbracket]
          exact ⟨by simpa using hrestTag, by simpa using hrestEscape⟩

/-- A text without tags and without backslashes in front of brackets is one stretch of text. -/
theorem partsFrom_eq_stretch (slashes : Nat) (hfuel : cs.length < fuel) (htag : ¬ HasTag cs)
    (hescape : ¬ HasEscape (List.replicate slashes '\\' ++ cs)) :
    partsFrom fuel slashes cs = stretch (List.replicate slashes '\\' ++ cs) := by
  induction fuel generalizing slashes cs with
  | zero => exact absurd hfuel (Nat.not_lt_zero _)
  | succ fuel ih =>
    cases cs with
    | nil =>
      unfold partsFrom
      rw [List.append_nil]
      cases slashes <;> rfl
    | cons c rest =>
      have hrest : rest.length < fuel := Nat.lt_of_succ_lt_succ hfuel
      unfold partsFrom
      split
      · rename_i hc
        subst hc
        have hsame : List.replicate slashes '\\' ++ '\\' :: rest =
            List.replicate (slashes + 1) '\\' ++ rest := by simp [List.replicate_succ']
        rw [hsame] at hescape ⊢
        exact ih _ hrest ((hasTag_cons_of_ne (by decide)).not.mp htag) hescape
      · rename_i hc
        rw [hasEscape_replicate_append_iff hc, not_or] at hescape
        rw [hasTag_cons_iff, not_or] at htag
        have hparts := ih 0 hrest htag.2 hescape.2
        rw [List.replicate_zero, List.nil_append] at hparts
        split
        · rename_i hbracket
          split
          · rename_i hfound
            exact absurd ⟨hbracket, by rw [hfound]; rfl⟩ htag.1
          · -- without tags and escapes a bracket is a character like others
            obtain rfl : slashes = 0 := not_not.mp fun h => hescape.1 ⟨h, hbracket⟩
            rw [hparts, consChars_stretch]
            rfl
        · rw [hparts, consChars_stretch, List.append_assoc, List.singleton_append]

end Length

end Markup

end StreamMesh
