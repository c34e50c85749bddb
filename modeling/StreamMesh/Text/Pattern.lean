/-!
# Patterns of characters

A pattern is built from single characters by sequence, choice and repetition. Whether it accepts a
text is decided by its derivatives: what is left of the pattern after one character.

## Main definitions

* `Pattern` — the patterns
* `Pattern.accepts` — a pattern against a whole text
* `Pattern.acceptsLine` — the end of the pattern may also stand before one final line feed
* `Pattern.Matches` — the texts of a pattern, as a relation

## Main results

* `Pattern.accepts_iff` — `accepts` decides `Matches`
-/

namespace StreamMesh.Text

/-- A set of texts, built from sets of characters. -/
inductive Pattern where
  /-- No text. -/
  | never
  /-- The empty text. -/
  | blank
  /-- One character of a set. -/
  | one (set : Char → Bool)
  | seq (first second : Pattern)
  | alt (first second : Pattern)
  /-- Any number of texts of a pattern, one after the other. -/
  | many (body : Pattern)

namespace Pattern

/-- The texts of a pattern. -/
inductive Matches : Pattern → List Char → Prop
  | blank : Matches .blank []
  | one {set : Char → Bool} {c : Char} (h : set c = true) : Matches (.one set) [c]
  | seq {p q : Pattern} {s t : List Char} (hp : Matches p s) (hq : Matches q t) :
      Matches (.seq p q) (s ++ t)
  | left {p q : Pattern} {s : List Char} (h : Matches p s) : Matches (.alt p q) s
  | right {p q : Pattern} {s : List Char} (h : Matches q s) : Matches (.alt p q) s
  | done {p : Pattern} : Matches (.many p) []
  | more {p : Pattern} {s t : List Char} (hp : Matches p s) (hq : Matches (.many p) t) :
      Matches (.many p) (s ++ t)

/-- Whether the empty text is one of the pattern's. -/
def nullable : Pattern → Bool
  | never => false
  | blank => true
  | one _ => false
  | seq p q => p.nullable && q.nullable
  | alt p q => p.nullable || q.nullable
  | many _ => true

/-- Sequence that drops parts which decide it. -/
def andThen : Pattern → Pattern → Pattern
  | never, _ => never
  | blank, q => q
  | p, never => seq p never
  | p, q => seq p q

/-- Choice that drops parts without texts. -/
def orElse : Pattern → Pattern → Pattern
  | never, q => q
  | p, never => p
  | p, q => alt p q

/-- What is left of a pattern after the character `c`. -/
def derive (c : Char) : Pattern → Pattern
  | never => never
  | blank => never
  | one set => if set c then blank else never
  | seq p q =>
    if p.nullable then orElse (andThen (p.derive c) q) (q.derive c)
    else andThen (p.derive c) q
  | alt p q => orElse (p.derive c) (q.derive c)
  | many p => andThen (p.derive c) (many p)

/-- Whether a text as a whole is one of the pattern's. -/
def accepts : Pattern → List Char → Bool
  | p, [] => p.nullable
  | p, c :: rest => (p.derive c).accepts rest

/-- Like `accepts`, but one line feed after the end of the pattern is passed over. -/
def acceptsLine (p : Pattern) (cs : List Char) : Bool :=
  p.accepts cs || (cs.getLast? == some '\n' && p.accepts cs.dropLast)

/-- One given character. -/
def char (c : Char) : Pattern := one (· == c)

/-- One character of a list. -/
def among (cs : String) : Pattern := one cs.toList.contains

/-- One character between two others. -/
def between (low high : Char) : Pattern := one fun c => low ≤ c && c ≤ high

/-- A fixed text. -/
def text (s : String) : Pattern := s.toList.foldr (fun c p => seq (char c) p) blank

/-- One of several patterns. -/
def oneOf (ps : List Pattern) : Pattern := ps.foldr alt never

/-- Several patterns in a row. -/
def inOrder (ps : List Pattern) : Pattern := ps.foldr seq blank

/-- A pattern or nothing. -/
def optional (p : Pattern) : Pattern := alt p blank

/-- A pattern at least once. -/
def some1 (p : Pattern) : Pattern := seq p (many p)

/-- A pattern a fixed number of times. -/
def times : Nat → Pattern → Pattern
  | 0, _ => blank
  | n + 1, p => seq p (times n p)

/-- An ASCII digit. -/
def digit : Pattern := between '0' '9'

theorem not_matches_never {s : List Char} : ¬ Matches never s := nofun

theorem matches_blank_iff {s : List Char} : Matches blank s ↔ s = [] :=
  ⟨fun h => by cases h; rfl, fun h => h ▸ .blank⟩

theorem matches_one_iff {set : Char → Bool} {s : List Char} :
    Matches (one set) s ↔ ∃ c, set c = true ∧ s = [c] :=
  ⟨fun h => by cases h with | one h => exact ⟨_, h, rfl⟩, fun ⟨_, h, e⟩ => e ▸ .one h⟩

theorem matches_seq_iff {p q : Pattern} {s : List Char} :
    Matches (seq p q) s ↔ ∃ a b, s = a ++ b ∧ Matches p a ∧ Matches q b := by
  constructor
  · intro h
    cases h with
    | seq hp hq => exact ⟨_, _, rfl, hp, hq⟩
  · rintro ⟨a, b, rfl, hp, hq⟩
    exact .seq hp hq

theorem matches_alt_iff {p q : Pattern} {s : List Char} :
    Matches (alt p q) s ↔ Matches p s ∨ Matches q s := by
  constructor
  · intro h
    cases h with
    | left h => exact .inl h
    | right h => exact .inr h
  · rintro (h | h)
    · exact .left h
    · exact .right h

theorem matches_andThen_iff {p q : Pattern} {s : List Char} :
    Matches (andThen p q) s ↔ Matches (seq p q) s := by
  cases p with
  | never => simp [andThen, matches_seq_iff, not_matches_never]
  | blank =>
    simp only [andThen, matches_seq_iff, matches_blank_iff]
    exact ⟨fun h => ⟨[], s, rfl, rfl, h⟩, fun ⟨a, b, e, ha, h⟩ => by subst ha; simpa [e] using h⟩
  | _ => cases q <;> exact Iff.rfl

theorem matches_orElse_iff {p q : Pattern} {s : List Char} :
    Matches (orElse p q) s ↔ Matches p s ∨ Matches q s := by
  cases p <;> cases q <;> simp [orElse, matches_alt_iff, not_matches_never]

theorem nullable_iff {p : Pattern} : p.nullable = true ↔ Matches p [] := by
  induction p with
  | never => simp [nullable, not_matches_never]
  | blank => simp [nullable, matches_blank_iff]
  | one set => simp [nullable, matches_one_iff]
  | seq p q ihp ihq =>
    simp only [nullable, Bool.and_eq_true, ihp, ihq, matches_seq_iff]
    constructor
    · rintro ⟨hp, hq⟩
      exact ⟨[], [], rfl, hp, hq⟩
    · rintro ⟨a, b, e, hp, hq⟩
      obtain ⟨rfl, rfl⟩ := List.append_eq_nil_iff.mp e.symm
      exact ⟨hp, hq⟩
  | alt p q ihp ihq => simp [nullable, ihp, ihq, matches_alt_iff]
  | many p _ => exact ⟨fun _ => .done, fun _ => rfl⟩

/-- A text of a repetition is empty or starts with a text of the body that is not empty. -/
theorem exists_of_matches_many {p : Pattern} {c : Char} {s : List Char}
    (h : Matches (many p) (c :: s)) :
    ∃ a b, s = a ++ b ∧ Matches p (c :: a) ∧ Matches (many p) b := by
  generalize hq : many p = q at h
  generalize ht : c :: s = t at h
  induction h with
  | blank => cases hq
  | one _ => cases hq
  | seq _ _ _ _ => cases hq
  | left _ _ => cases hq
  | right _ _ => cases hq
  | done => cases ht
  | @more p' a b hp hrest _ ih =>
    cases hq
    cases a with
    | nil => exact ih rfl ht
    | cons c' a =>
      injection ht with hc hs
      subst hc
      exact ⟨a, b, hs, hp, hrest⟩

theorem matches_derive_iff {p : Pattern} {c : Char} {s : List Char} :
    Matches (p.derive c) s ↔ Matches p (c :: s) := by
  induction p generalizing s with
  | never => simp [derive, not_matches_never]
  | blank => simp [derive, not_matches_never, matches_blank_iff]
  | one set =>
    rw [derive, matches_one_iff]
    by_cases h : set c = true
    · simp only [h, if_true, matches_blank_iff]
      exact ⟨fun e => ⟨c, h, e ▸ rfl⟩, fun ⟨_, _, e⟩ => (List.cons.inj e).2⟩
    · simp only [h]
      exact ⟨nofun, fun ⟨_, hc, e⟩ => absurd ((List.cons.inj e).1 ▸ hc) h⟩
  | seq p q ihp ihq =>
    have key : Matches (seq p q) (c :: s) ↔
        Matches (seq (p.derive c) q) s ∨ (p.nullable = true ∧ Matches (q.derive c) s) := by
      simp only [matches_seq_iff, ihp, ihq, nullable_iff]
      constructor
      · rintro ⟨a, b, e, hp, hq⟩
        cases a with
        | nil =>
          simp only [List.nil_append] at e
          subst e
          exact .inr ⟨hp, hq⟩
        | cons c' a =>
          injection e with hc hs
          subst hc
          exact .inl ⟨a, b, hs, hp, hq⟩
      · rintro (⟨a, b, rfl, hp, hq⟩ | ⟨hp, hq⟩)
        · exact ⟨c :: a, b, rfl, hp, hq⟩
        · exact ⟨[], c :: s, rfl, hp, hq⟩
    rw [key]
    by_cases h : p.nullable = true
    · simp [derive, h, matches_orElse_iff, matches_andThen_iff]
    · simp [derive, h, matches_andThen_iff]
  | alt p q ihp ihq => simp [derive, matches_orElse_iff, matches_alt_iff, ihp, ihq]
  | many p ih =>
    rw [derive, matches_andThen_iff, matches_seq_iff]
    constructor
    · rintro ⟨a, b, rfl, hp, hq⟩
      exact .more (ih.mp hp) hq
    · intro h
      obtain ⟨a, b, rfl, hp, hq⟩ := exists_of_matches_many h
      exact ⟨a, b, rfl, ih.mpr hp, hq⟩

/-- Derivatives decide which texts belong to a pattern. -/
theorem accepts_iff {p : Pattern} {s : List Char} : p.accepts s = true ↔ Matches p s := by
  induction s generalizing p with
  | nil => exact nullable_iff
  | cons c s ih => rw [accepts, ih, matches_derive_iff]

end Pattern

end StreamMesh.Text
