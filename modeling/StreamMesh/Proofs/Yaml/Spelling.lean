import StreamMesh.Proofs.Yaml.Number
import StreamMesh.Proofs.Yaml.Scanner

/-!
# Scalars read back

A scalar is written in one of three ways, and in each of them the scanner cuts one lexeme from it,
which holds the text that was meant and says whether the scalar is plain.

## Main definitions

* `Spelled` — a text in one of the three ways to write it
* `Follows` — what may stand on the line after a scalar
* `Scalar.spelling`, `Scalar.bare` — what a scalar is written as
* `Scalar.Legible` — the scalars that read back

## Main results

* `Spelled.gives` — a scalar gives one lexeme with the text that was meant
* `spelled_scalarText` — a scalar is written in one of the three ways
-/

namespace StreamMesh

namespace Yaml

open Scanner

variable {p : Placing} {m : Mark} {cs rest tail text : List Char} {t : Content}
  {n column : Nat} {bare : Bool}
  {indent : Int} {outer : List Int} {allowed : Bool} {held : List Token} {taken : Nat}
  {ls : List Lexeme}

/-- A text as it is written at a column, what it stands for, and whether it is written bare. -/
inductive Spelled (p : Placing) (column : Nat) : List Char → Content → Bool → Prop
  | plain {cs : List Char} (hne : cs ≠ []) (h : plainAllowed cs = true) :
      Spelled p column (plain p column none cs) (.ofChars cs) true
  | single {cs : List Char} (h : singleAllowed cs = true) :
      Spelled p column (single p column cs) (.ofChars cs) false
  | double (ps : List Point) : Spelled p column (double p column ps) ⟨ps⟩ false

/-- What may stand on the line after a scalar: indentation, and then a token or the end of the text,
but nothing that parts documents. -/
structure Follows (n : Nat) (rest : List Char) : Prop where
  ahead : TokenAhead rest
  separator : ∀ m, (⟨List.replicate n ' ' ++ rest, m⟩ : Cursor).atSeparator = false

namespace Spelled

theorem isWritten (h : Spelled p column text t bare) : ∀ c ∈ text, isWritten c = true := by
  cases h with
  | plain hne h => exact isWritten_plain (isPlainAscii_of_plainAllowed h)
  | single h => exact isWritten_single h
  | double => exact isWritten_double

theorem ahead (h : Spelled p column text t bare) : TokenAhead (text ++ tail) := by
  cases h with
  | plain hne h =>
    obtain ⟨c, cs, rfl⟩ := List.exists_cons_of_ne_nil hne
    have hascii := isPlainAscii_of_plainAllowed h c (List.mem_cons_self ..)
    simp only [plainAllowed, Bool.and_eq_true, bne_iff_ne, Bool.not_eq_true'] at h
    rw [Yaml.plain, if_neg fun e => h.1.1.1.2 e.1]
    intro d hd
    obtain rfl := Option.some.inj hd
    refine ⟨hascii, h.1.1.1.2, ?_⟩
    rintro rfl
    simp [indicatorFirst] at h
  | single h => exact fun d hd => Option.some.inj hd ▸ by decide
  | double => exact fun d hd => Option.some.inj hd ▸ by decide

/-- After a line feed the place is on a later line. -/
theorem line_ne_line_behind : m.line ≠ ((m.behind text).behind ('\n' :: cs)).line := by
  rw [Mark.line_behind, Mark.line_behind, List.count_cons_self]
  omega

section Gives

variable (hm : indent < m.column) (hfollows : Follows n rest)

include hm hfollows

theorem gives_plain (hn : n ≤ indent) (hindent : indent + 1 ≤ p.indent) (hne : cs ≠ [])
    (h : plainAllowed cs = true)
    (hread : Reads ⟨rest, (m.behind (Yaml.plain p column none cs)).behind
      ('\n' :: List.replicate n ' ')⟩
      indent outer ls) :
    (within ⟨Yaml.plain p column none cs ++ '\n' :: (List.replicate n ' ' ++ rest), m⟩ indent outer
      allowed [] held taken).Gives (held.map Token.lexeme ++ .scalar (.ofChars cs) true :: ls) := by
  have hstops := hfollows.ahead.stops
  have hend := plainEnd_line (m := m.behind (Yaml.plain p column none cs)) (fun c hc =>
    beq_eq_false_iff_ne.mpr (hfollows.ahead c hc).2.1) (fun c hc =>
    isBreak_of_isSpaceOrBreak (hstops c hc)) hfollows.separator (Int.lt_add_one_of_le hn)
  have hscan := scanPlain_plain (by omega) hindent hne h (by omega) hend
  have hfetch : (within ⟨Yaml.plain p column none cs ++ '\n' :: (List.replicate n ' ' ++ rest), m⟩
    indent
      outer allowed [] held taken).fetch = _ :=
    (fetch_bare hne h rfl (Int.le_of_lt hm) fun h => by omega).trans (fetchPlain_within hscan)
  refine .leaf hfetch (Int.ne_of_lt hm) ?_ (fun _ _ _ => skipToToken_spaces (n := 0) hfollows.ahead)
    line_ne_line_behind hfollows.ahead (Nat.le_refl _) hread
  simp only [List.length_append, List.length_cons]
  omega

theorem gives_quoted {inDouble : Bool} {c : Char} {more : List Char}
    (hc : c = if inDouble then '"' else '\'')
    (hscan : scanQuoted inDouble ⟨c :: (more ++ '\n' :: (List.replicate n ' ' ++ rest)), m⟩ =
      .ok (t, ⟨'\n' :: (List.replicate n ' ' ++ rest), m.behind (c :: more)⟩))
    (hread : Reads ⟨rest, (m.behind (c :: more)).behind ('\n' :: List.replicate n ' ')⟩ indent outer
      ls) :
    (within ⟨c :: (more ++ '\n' :: (List.replicate n ' ' ++ rest)), m⟩ indent outer
      allowed [] held taken).Gives (held.map Token.lexeme ++ .scalar t false :: ls) := by
  have hfetch : (within ⟨c :: (more ++ '\n' :: (List.replicate n ' ' ++ rest)), m⟩ indent outer
      allowed [] held taken).fetch = _ :=
    (fetch_quote hc (Int.le_of_lt hm)).trans (fetchQuoted_within hscan)
  refine .leaf hfetch (Int.ne_of_lt hm) ?_ (fun _ _ _ => skipToToken_newLine hfollows.ahead)
    line_ne_line_behind hfollows.ahead ?_ hread
  · simp only [List.length_append, List.length_cons]
    omega
  · simp only [List.length_append, List.length_cons]
    omega

/-- A scalar gives one lexeme with the text that was meant. -/
theorem gives (h : Spelled p column text t bare) (hn : n ≤ indent)
    (hindent : indent + 1 ≤ p.indent)
    (hwide : p.indent < foldWidth)
    (hread : Reads ⟨rest, (m.behind text).behind ('\n' :: List.replicate n ' ')⟩ indent outer ls) :
    (within ⟨text ++ '\n' :: (List.replicate n ' ' ++ rest), m⟩ indent outer allowed [] held
      taken).Gives (held.map Token.lexeme ++ .scalar t bare :: ls) := by
  have hp : 0 < p.indent := by omega
  cases h with
  | plain hne h => exact gives_plain hm hfollows hn hindent hne h hread
  | single h => exact gives_quoted hm hfollows rfl (scanQuoted_single hp h nofun) hread
  | double => exact gives_quoted hm hfollows rfl (scanQuoted_double hp hwide nofun) hread

end Gives

end Spelled

/-- Every text is written in one of the three ways. -/
theorem spelled_textAt (p : Placing) (column : Nat) (cs : List Char) :
    Spelled p column (textAt p column cs) (.ofChars cs) (writtenPlain cs) := by
  unfold textAt
  split
  · rename_i h
    rw [h]
    simp only [writtenPlain, Bool.and_eq_true] at h
    refine .plain ?_ h.1
    rintro rfl
    exact absurd h.2 (by decide)
  · rename_i h
    rw [Bool.not_eq_true] at h
    rw [h]
    split
    · rename_i h
      exact .single h
    · exact .double _

/-- A text without a space that may stand bare is written as it is. -/
theorem spelled_self (hne : cs ≠ []) (h : plainAllowed cs = true) (hspace : ' ' ∉ cs) :
    Spelled p column cs (.ofChars cs) true := by
  have hplain : Spelled p column (plain p column none cs) (.ofChars cs) true := .plain hne h
  rwa [plain_of_not_mem hspace] at hplain

end Yaml

namespace Scalar

/-- What a scalar is written for. -/
def spelling : Scalar → Yaml.Content
  | null => .ofChars "null".toList
  | bool b => .ofChars (if b then "true" else "false").toList
  | int n => .ofChars (Yaml.wholeText n)
  | float x => .ofChars (Yaml.floatSpelling x)
  | str t => ⟨t.points⟩

/-- Whether a scalar is written without quotes. -/
def bare : Scalar → Bool
  | str (.whole s) => Yaml.writtenPlain s.toList
  | str (.broken _) => false
  | _ => true

/-- A scalar that is written out in a form that reads back: no decimal fraction, and no whole number
with more digits than a spelling may have. -/
def Legible : Scalar → Prop
  | int n => Decimal.isWritable n = true
  | float _ => False
  | _ => True

end Scalar

namespace Yaml

/-- A scalar is written in one of the three ways. -/
theorem spelled_scalarText {s : Scalar} (h : s.Legible) :
    Spelled p column (scalarText p column s) s.spelling s.bare := by
  have hword : ∀ w ∈ ["null".toList, "false".toList, "true".toList],
      Spelled p column w (.ofChars w) true := by
    intro w hw
    have hwords : w ≠ [] ∧ plainAllowed w = true ∧ ' ' ∉ w := by
      revert w
      decide
    exact spelled_self hwords.1 hwords.2.1 hwords.2.2
  cases s with
  | null => exact hword "null".toList (by decide)
  | bool b =>
    cases b
    · exact hword "false".toList (by decide)
    · exact hword "true".toList (by decide)
  | int n =>
    rw [scalarText, toList_toString]
    exact spelled_self wholeText_ne_nil plainAllowed_wholeText
      (not_mem_wholeText (by decide) (by decide))
  | float x => exact h.elim
  | str t =>
    cases t with
    | whole s => exact spelled_textAt p column s.toList
    | broken t => exact .double t.points

end Yaml

end StreamMesh
