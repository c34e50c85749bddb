import StreamMesh.Yaml.Error

/-!
# Cursors

A cursor is the rest of a text with the place where it starts.

## Main definitions

* `Cursor` — the rest of a text and its place
* `Cursor.next`, `Cursor.skip`, `Cursor.spanWhile` — moving on
* `Cursor.lineBreak?` — moving over a line break
-/

namespace StreamMesh.Yaml

/-- Whether a character ends a line. -/
def isBreak (c : Char) : Bool :=
  c == '\n' || c == '\r' || c == Char.ofNat 0x85 || c == Char.ofNat 0x2028 || c == Char.ofNat 0x2029

/-- Whether a character ends a line or is a blank. -/
def isSpaceOrBreak (c : Char) : Bool := c == ' ' || c == '\t' || isBreak c

/-- The place after a character that the text `rest` follows. A carriage return before a line feed
does not end the line yet, and a byte order mark takes no column. -/
def Mark.after (m : Mark) (c : Char) (rest : List Char) : Mark :=
  if c = '\r' ∧ rest.head? = some '\n' then ⟨m.index + 1, m.line, m.column + 1⟩
  else if isBreak c then ⟨m.index + 1, m.line + 1, 0⟩
  else if c = Char.ofNat 0xFEFF then ⟨m.index + 1, m.line, m.column⟩
  else ⟨m.index + 1, m.line, m.column + 1⟩

/-- The rest of a text and the place where it starts. -/
structure Cursor where
  rest : List Char
  mark : Mark
  deriving DecidableEq, Repr, Inhabited

namespace Cursor

/-- The cursor at the start of a text. -/
def ofText (cs : List Char) : Cursor := ⟨cs, ⟨0, 0, 0⟩⟩

/-- The next character. -/
def head? (k : Cursor) : Option Char := k.rest.head?

/-- The next character as a text; past the end there is a null character. -/
def found (k : Cursor) : String := String.singleton (k.head?.getD (Char.ofNat 0))

/-- The cursor one character on. -/
def next (k : Cursor) : Cursor :=
  match k.rest with
  | [] => k
  | c :: rest => ⟨rest, k.mark.after c rest⟩

/-- The cursor some characters on. -/
def skip : Nat → Cursor → Cursor
  | 0, k => k
  | n + 1, k => skip n k.next

/-- The characters that meet a condition, and the cursor after them. -/
def spanWhile (p : Char → Bool) (k : Cursor) : List Char × Cursor :=
  go k.rest k.mark
where
  go : List Char → Mark → List Char × Cursor
    | [], m => ([], ⟨[], m⟩)
    | c :: rest, m =>
      if p c then
        let (cs, k) := go rest (m.after c rest)
        (c :: cs, k)
      else ([], ⟨c :: rest, m⟩)

/-- The cursor after the characters that meet a condition. -/
def dropWhile (p : Char → Bool) (k : Cursor) : Cursor := (k.spanWhile p).2

/-- The cursor after a line break, and the break as it counts in a text: all but the two special
separators count as line feeds. -/
def lineBreak? (k : Cursor) : Option (Char × Cursor) :=
  match k.rest with
  | '\r' :: '\n' :: _ => some ('\n', k.next.next)
  | c :: _ =>
    if c = '\n' ∨ c = '\r' ∨ c = Char.ofNat 0x85 then some ('\n', k.next)
    else if isBreak c then some (c, k.next)
    else none
  | [] => none

/-- The cursor after a line break, if there is one. -/
def skipBreak (k : Cursor) : Cursor :=
  match k.lineBreak? with
  | some (_, k') => k'
  | none => k

/-- Whether a blank, a line break or the end of the text stands `n` characters on. -/
def blankAt (k : Cursor) (n : Nat) : Bool :=
  match k.rest[n]? with
  | none => true
  | some c => isSpaceOrBreak c

/-- Whether three equal marks that part documents stand here. -/
def atSeparator (k : Cursor) : Bool :=
  (k.rest.take 3 == ['-', '-', '-'] || k.rest.take 3 == ['.', '.', '.']) && k.blankAt 3

theorem length_spanWhile_le (p : Char → Bool) (k : Cursor) :
    (k.spanWhile p).2.rest.length ≤ k.rest.length := by
  have key : ∀ (cs : List Char) (m : Mark), (spanWhile.go p cs m).2.rest.length ≤ cs.length := by
    intro cs
    induction cs with
    | nil => intro m; simp [spanWhile.go]
    | cons c rest ih =>
      intro m
      rw [spanWhile.go]
      split
      · exact Nat.le_succ_of_le (ih _)
      · exact Nat.le_refl _
  exact key k.rest k.mark

theorem length_lineBreak_lt {k k' : Cursor} {c : Char} (h : k.lineBreak? = some (c, k')) :
    k'.rest.length < k.rest.length := by
  unfold lineBreak? at h
  split at h
  · rename_i heq
    simp only [Option.some.injEq, Prod.mk.injEq] at h
    simp only [← h.2, next, heq, List.length_cons]
    exact Nat.lt_succ_of_lt (Nat.lt_succ_self _)
  · rename_i heq
    split at h
    · simp only [Option.some.injEq, Prod.mk.injEq] at h
      simp [← h.2, next, heq]
    · split at h
      · simp only [Option.some.injEq, Prod.mk.injEq] at h
        simp [← h.2, next, heq]
      · cases h
  · cases h

end Cursor

end StreamMesh.Yaml
