import StreamMesh.Console.Notice
import StreamMesh.Proofs.Console.Picture

/-!
# What can be shown

A message cannot be shown if one of its tags closes a style that is not open, or a handler whose
parameters cannot be read. Tags that close something start with a bracket and a slash, so every
message without these two characters in a row can be shown if it can be encoded, whatever else
stands in brackets.

## Main definitions

* `Markup.Closing` — tags that close a style
* `Markup.Harmless` — texts that can be encoded, without a bracket and a slash in a row
* `Markup.Paints` — a sign in a colour that is read as such
* `Notice.texts` — the texts of a notice that may hold markup

## Main results

* `Markup.Paints.plain?` — a sign in a colour stays in front of what is left of a message
* `Markup.plain?_isSome` — a harmless text can be shown
* `Notice.allShown?_isSome` — notices with harmless texts can be shown
-/

namespace StreamMesh

namespace Markup

variable {c : Char} {cs inside more rest : List Char} {parts : List Markup} {p : Markup}
  {opened : List Opened} {fuel slashes : Nat} {s : String} {readable : List Char → Bool}

/-- A tag that closes a style. -/
def Closing : Markup → Prop
  | text _ => False
  | tag name _ => name.head? = some '/'

/-- A text that can be encoded, without a bracket and a slash in a row. -/
def Harmless : RawText → Prop
  | .whole s => ¬ ['[', '/'] <:+: s.toList
  | .broken _ => False

instance : DecidablePred Harmless
  | .whole _ => inferInstanceAs (Decidable (¬ _))
  | .broken _ => inferInstanceAs (Decidable False)

section Parts

/-- No part of a message closes a style. -/
def NoneCloses (parts : List Markup) : Prop := ∀ p ∈ parts, ¬ p.Closing

theorem NoneCloses.cons (hp : ¬ p.Closing) (h : NoneCloses parts) : NoneCloses (p :: parts) :=
  List.forall_mem_cons.mpr ⟨hp, h⟩

theorem NoneCloses.consChar (h : NoneCloses parts) : NoneCloses (consChar c parts) := by
  unfold Markup.consChar
  split
  · exact .cons id (List.forall_mem_cons.mp h).2
  · exact .cons id h

theorem NoneCloses.consChars (h : NoneCloses parts) : NoneCloses (consChars cs parts) := by
  induction cs with
  | nil => exact h
  | cons c cs ih => exact ih.consChar

theorem NoneCloses.consText (h : NoneCloses parts) : NoneCloses (consText cs parts) := by
  unfold Markup.consText
  split
  · exact h
  · exact .cons id (.cons id h)

theorem untilBracket_eq_some (h : untilBracket cs = some (inside, more)) :
    cs = inside ++ ']' :: more := by
  induction cs generalizing inside with
  | nil => cases h
  | cons c cs ih =>
    unfold untilBracket at h
    split at h
    · cases h
    · rename_i heq
      cases heq
      cases h
      rfl
    · cases h
    · rename_i heq
      cases heq
      obtain ⟨⟨inside', more'⟩, hrest, heq⟩ := Option.map_eq_some_iff.mp h
      cases heq
      rw [ih hrest]
      rfl

theorem tagAfterBracket_eq_some (h : tagAfterBracket rest = some (inside, more)) :
    rest = inside ++ ']' :: more := by
  unfold tagAfterBracket at h
  split at h
  · split at h
    · obtain ⟨⟨inside', more'⟩, hrest, heq⟩ := Option.map_eq_some_iff.mp h
      cases heq
      rw [untilBracket_eq_some hrest]
      rfl
    · cases h
  · cases h

/-- What closes a style is a slash right after the bracket. -/
theorem head?_of_closing (h : (tag (nameOf inside) (parametersOf inside)).Closing) :
    inside.head? = some '/' := by
  change (inside.takeWhile (· != '=')).head? = some '/' at h
  rw [List.head?_takeWhile] at h
  exact (Option.filter_eq_some_iff.mp h).1

/-- Where no bracket and slash stand in a row, no part closes a style. -/
theorem noneCloses_partsFrom (h : ¬ ['[', '/'] <:+: cs) :
    NoneCloses (partsFrom fuel slashes cs) := by
  -- on the fuel: what follows a tag starts well behind its bracket
  induction fuel generalizing slashes cs with
  | zero => nofun
  | succ fuel ih =>
    cases cs with
    | nil =>
      unfold partsFrom
      split
      · nofun
      · exact .cons id nofun
    | cons c rest =>
      rw [List.infix_cons_iff, not_or] at h
      obtain ⟨hhere, hrest⟩ := h
      unfold partsFrom
      split
      · exact ih hrest
      · split
        · rename_i hbracket
          split
          · rename_i inside more htag
            have hsplit := tagAfterBracket_eq_some htag
            -- behind the tag there is still an end of the same text
            have hmore : NoneCloses (partsFrom fuel 0 more) := by
              refine ih fun hwithin => hrest (hwithin.trans ?_)
              exact ⟨inside ++ [']'], [], by simp [hsplit]⟩
            dsimp only
            split
            · exact hmore.consText.consText
            · refine .consText (.cons (fun hclosing => hhere ?_) hmore)
              -- the slash would stand right after the bracket
              obtain ⟨name, rfl⟩ := List.head?_eq_some_iff.mp (head?_of_closing hclosing)
              exact ⟨name ++ ']' :: more, by simp [hbracket, hsplit]⟩
          · exact (ih hrest).consChars
        · exact (ih hrest).consChars

end Parts

/-- As long as nothing closes a style, there is always a text. -/
theorem plainFrom_isSome (h : NoneCloses parts) : (plainFrom readable opened parts).isSome := by
  induction parts generalizing opened with
  | nil => rfl
  | cons p parts ih =>
    obtain ⟨hp, hparts⟩ := List.forall_mem_cons.mp h
    cases p with
    | text cs =>
      rw [plainFrom, Option.isSome_map]
      exact ih hparts
    | tag name parameters =>
      unfold plainFrom afterTag
      -- only a tag that closes something can be without a place to close
      split
      · rename_i hafter
        split at hafter
        · exact absurd rfl hp
        · exact ih hparts
      · rename_i hafter
        split at hafter
        · exact absurd rfl hp
        · cases hafter

/-- As long as nothing closes a style, no parameters are read. -/
theorem plainFrom_eq_of_noneCloses {readable' : List Char → Bool} (h : NoneCloses parts) :
    plainFrom readable opened parts = plainFrom readable' opened parts := by
  induction parts generalizing opened with
  | nil => rfl
  | cons p parts ih =>
    obtain ⟨hp, hparts⟩ := List.forall_mem_cons.mp h
    cases p with
    | text cs => rw [plainFrom, plainFrom, ih hparts]
    | tag name parameters =>
      have hafter : afterTag readable opened name parameters =
          afterTag readable' opened name parameters := by
        unfold afterTag
        split
        · exact absurd rfl hp
        · rfl
      rw [plainFrom, plainFrom, hafter]
      split
      · exact ih hparts
      · rfl

section Sign

/-- What is left of a message does not depend on the fuel. -/
theorem partsFrom_eq_of_lt {fuel' : Nat} (h : cs.length < fuel) (h' : cs.length < fuel') :
    partsFrom fuel slashes cs = partsFrom fuel' slashes cs := by
  induction fuel generalizing fuel' slashes cs with
  | zero => exact absurd h (Nat.not_lt_zero _)
  | succ fuel ih =>
    cases fuel' with
    | zero => exact absurd h' (Nat.not_lt_zero _)
    | succ fuel' =>
      cases cs with
      | nil => rfl
      | cons c rest =>
        have hrest := Nat.lt_of_succ_lt_succ h
        have hrest' := Nat.lt_of_succ_lt_succ h'
        rw [partsFrom, partsFrom, @ih _ (slashes + 1) _ hrest hrest', @ih _ 0 _ hrest hrest']
        cases htag : tagAfterBracket rest with
        | none => rfl
        | some found =>
          obtain ⟨inside, more⟩ := found
          have hmore : more.length < rest.length := by
            rw [tagAfterBracket_eq_some htag, List.length_append, List.length_cons]
            omega
          dsimp only
          rw [@ih _ 0 _ (hmore.trans hrest) (hmore.trans hrest')]

theorem plainFrom_consChar (hcolon : c ≠ ':') (hc : isStripped c = false) :
    plainFrom readable opened (consChar c parts) =
      (plainFrom readable opened parts).map (c :: ·) := by
  have hself : ∀ cs, (Emoji.expand (c :: cs)).filter (!isStripped ·) =
      c :: (Emoji.expand cs).filter (!isStripped ·) := by
    intro cs
    rw [Emoji.expand_cons hcolon, List.filter_cons_of_pos (by rw [hc]; rfl)]
  unfold consChar
  split
  · simp [plainFrom, hself, Function.comp_def]
  · rw [plainFrom, hself]
    rfl

/-- A sign in a colour is read as such: the colour is opened, the sign is kept, and the colour is
closed again. -/
structure Paints (colour sign : String) : Prop where
  parts : ∀ fuel cs, partsFrom (fuel + 4) 0 ((Notice.painted colour sign).toList ++ cs) =
    tag colour.toList [] :: text sign.toList :: tag ('/' :: colour.toList) [] ::
      consChar ' ' (partsFrom fuel 0 cs)
  length : 4 ≤ (Notice.painted colour sign).toList.length
  styles : ∃ style, ∀ readable, afterTag readable [] colour.toList [] = some [style] ∧
    afterTag readable [style] ('/' :: colour.toList) [] = some []
  kept : (Emoji.expand sign.toList).filter (!isStripped ·) = sign.toList

/-- A sign stays in front of what is left of a message. -/
theorem Paints.plain? {colour sign : String} (h : Paints colour sign) (m : String) :
    Markup.plain? readable (Notice.painted colour sign ++ m) =
      (Markup.plain? readable m).map (sign ++ " " ++ ·) := by
  obtain ⟨style, hstyle⟩ := h.styles
  obtain ⟨hopened, hclosed⟩ := hstyle readable
  have hparts : ofText (Notice.painted colour sign ++ m).toList = tag colour.toList [] ::
      text sign.toList :: tag ('/' :: colour.toList) [] :: consChar ' ' (ofText m.toList) := by
    have hfuel : (Notice.painted colour sign ++ m).toList.length + 1 =
        (Notice.painted colour sign).toList.length - 4 + m.toList.length + 1 + 4 := by
      have := h.length
      rw [String.toList_append, List.length_append]
      omega
    rw [ofText, hfuel, String.toList_append, h.parts, ofText,
      partsFrom_eq_of_lt (by omega) (Nat.lt_succ_self _)]
  rw [Markup.plain?, Markup.plain?, hparts, plainFrom, hopened]
  dsimp only
  rw [plainFrom, plainFrom, hclosed]
  dsimp only
  rw [plainFrom_consChar (by decide) rfl, h.kept, Option.map_map, Option.map_map, Option.map_map]
  refine congrArg (Option.map · _) (funext fun cs => ?_)
  simp [String.ofList_append, String.append_assoc]

theorem paints_green : Paints "green" "✓" :=
  ⟨fun _ _ => rfl, by decide, ⟨_, fun _ => ⟨rfl, rfl⟩⟩, rfl⟩

theorem paints_red : Paints "red" "✗" :=
  ⟨fun _ _ => rfl, by decide, ⟨_, fun _ => ⟨rfl, rfl⟩⟩, rfl⟩

theorem paints_yellow : Paints "yellow" "⚠" :=
  ⟨fun _ _ => rfl, by decide, ⟨_, fun _ => ⟨rfl, rfl⟩⟩, rfl⟩

end Sign

/-- A harmless text can be shown. -/
theorem plain?_isSome (h : Harmless s) : (plain? readable s).isSome := by
  rw [plain?, Option.isSome_map]
  exact plainFrom_isSome (noneCloses_partsFrom h)

/-- What is left of a harmless text does not depend on what parameters can be read. -/
theorem plain?_eq_of_harmless (h : Harmless s) (readable readable' : List Char → Bool) :
    plain? readable s = plain? readable' s := by
  rw [plain?, plain?, ofText, plainFrom_eq_of_noneCloses (noneCloses_partsFrom h)]

end Markup

namespace Notice

open Markup

variable {n : Notice} {notices : List Notice} {names : List String}
  {kinds : Option (Assoc String String)} {message : RawText} {readable : List Char → Bool}

/-- The texts of a notice that may hold markup. -/
def texts : Notice → List RawText
  | success message | failure message | warning message | info message => [message]
  | order names kinds =>
    (names ++ names.map fun name => (kinds.bind (·.find? name)).getD "").map .whole

theorem messageShown?_isSome (h : Harmless message) :
    (messageShown? readable message).isSome := by
  cases message with
  | whole s =>
    rw [messageShown?, Option.isSome_map]
    exact plain?_isSome h
  | broken t => exact h.elim

/-- A sign in front of a message is no hindrance. -/
theorem messageShown?_painted_isSome {colour sign : String} (hpaints : Paints colour sign)
    (h : Harmless message) :
    (messageShown? readable (painted colour sign ++ message)).isSome := by
  cases message with
  | whole s =>
    rw [RawText.whole_append, messageShown?, hpaints.plain?, Option.isSome_map, Option.isSome_map]
    exact plain?_isSome h
  | broken t => exact h.elim

theorem rows?_isSome {position : Nat} (hnames : ∀ name ∈ names, Harmless name)
    (hkinds : ∀ name ∈ names, Harmless ((kinds.bind (·.find? name)).getD "" : String)) :
    (rows? readable kinds position names).isSome := by
  induction names generalizing position with
  | nil => rfl
  | cons name names ih =>
    rw [List.forall_mem_cons] at hnames hkinds
    have hnode : (plain? readable name).isSome := plain?_isSome hnames.1
    obtain ⟨node, hnode⟩ := Option.isSome_iff_exists.mp hnode
    obtain ⟨more, hmore⟩ := Option.isSome_iff_exists.mp (@ih (position + 1) hnames.2 hkinds.2)
    have hkind : (kindCell? readable kinds name).isSome := by
      cases kinds with
      | none => rfl
      | some m =>
        rw [kindCell?, Option.isSome_map]
        exact plain?_isSome hkinds.1
    obtain ⟨kind, hkind⟩ := Option.isSome_iff_exists.mp hkind
    simp [rows?, hnode, hkind, hmore]

theorem shown?_isSome (h : ∀ t ∈ n.texts, Harmless t) : (n.shown? readable).isSome := by
  cases n with
  | success message => exact messageShown?_painted_isSome paints_green (h message (.head _))
  | failure message => exact messageShown?_painted_isSome paints_red (h message (.head _))
  | warning message => exact messageShown?_painted_isSome paints_yellow (h message (.head _))
  | info message => exact messageShown?_isSome (h message (.head _))
  | order names kinds =>
    rw [shown?, orderShown?, Option.isSome_map]
    refine rows?_isSome (fun name hname => ?_) fun name hname => ?_
    · exact h _ (List.mem_map_of_mem (List.mem_append_left _ hname))
    · exact h _ (List.mem_map_of_mem (List.mem_append_right _ (List.mem_map_of_mem hname)))

/-- Notices with harmless texts can be shown. -/
theorem allShown?_isSome (h : ∀ n ∈ notices, ∀ t ∈ n.texts, Harmless t) :
    (allShown? readable notices).isSome := by
  rw [allShown?, Option.isSome_map]
  induction notices with
  | nil => rfl
  | cons n notices ih =>
    rw [List.forall_mem_cons] at h
    have hshown : (n.shown? readable).isSome := shown?_isSome h.1
    obtain ⟨shown, hshown⟩ := Option.isSome_iff_exists.mp hshown
    obtain ⟨more, hmore⟩ := Option.isSome_iff_exists.mp (ih h.2)
    simp [List.mapM_cons, hshown, hmore]

end Notice

end StreamMesh
