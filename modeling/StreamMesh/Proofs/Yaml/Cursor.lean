import StreamMesh.Yaml.Cursor
import StreamMesh.Yaml.Print

/-!
# Cursors over written text

Written text holds visible ASCII characters, spaces and line feeds only. On such text a cursor moves
in the same way whatever follows: each character takes one column, and a line feed starts a line.

## Main definitions

* `isWritten` — the characters of written text
* `Mark.behind` — the place after a written text
* `Stops` — a text that a run of characters ends before

## Main results

* `Cursor.spanWhile_append` — a run of characters is read up to where it stops
* `Mark.column_behind_line` — the column after a line feed and a line
-/

namespace StreamMesh.Yaml

/-- A character of written text. -/
def isWritten (c : Char) : Bool := c == '\n' || isPlainAscii c

section Characters

variable {c : Char}

theorem isWritten_newline : isWritten '\n' = true := rfl

theorem isWritten_of_isPlainAscii (h : isPlainAscii c = true) : isWritten c = true := by
  simp [isWritten, h]

theorem toNat_of_isPlainAscii (h : isPlainAscii c = true) : 32 ≤ c.toNat ∧ c.toNat ≤ 126 := by
  simp only [isPlainAscii, Bool.and_eq_true, decide_eq_true_eq] at h
  exact ⟨h.1, h.2⟩

theorem isBreak_of_isPlainAscii (h : isPlainAscii c = true) : isBreak c = false := by
  have hc := toNat_of_isPlainAscii h
  have key : ∀ d : Char, ¬ (32 ≤ d.toNat ∧ d.toNat ≤ 126) → c ≠ d := fun d hd e => hd (e ▸ hc)
  simp [isBreak, key '\n' (by decide), key '\r' (by decide), key (Char.ofNat 0x85) (by decide),
    key (Char.ofNat 0x2028) (by decide), key (Char.ofNat 0x2029) (by decide)]

theorem ne_newline_of_isPlainAscii (h : isPlainAscii c = true) : c ≠ '\n' := by
  rintro rfl
  cases h

theorem isSpaceOrBreak_of_isPlainAscii (h : isPlainAscii c = true) :
    isSpaceOrBreak c = (c == ' ') := by
  have htab : c ≠ '\t' := by
    rintro rfl
    cases h
  simp [isSpaceOrBreak, isBreak_of_isPlainAscii h, htab]

theorem isSpaceOrBreak_eq_false (h : isPlainAscii c = true) (hspace : c ≠ ' ') :
    isSpaceOrBreak c = false :=
  (isSpaceOrBreak_of_isPlainAscii h).trans (beq_eq_false_iff_ne.mpr hspace)

end Characters

namespace Mark

/-- The place after a character of written text. -/
def step (m : Mark) (c : Char) : Mark :=
  if c = '\n' then ⟨m.index + 1, m.line + 1, 0⟩ else ⟨m.index + 1, m.line, m.column + 1⟩

/-- The place after a written text. -/
def behind (m : Mark) (cs : List Char) : Mark := cs.foldl step m

variable {m : Mark} {c : Char} {cs : List Char}

@[simp] theorem behind_nil (m : Mark) : m.behind [] = m := rfl

@[simp] theorem behind_cons (m : Mark) (c : Char) (cs : List Char) :
    m.behind (c :: cs) = (m.step c).behind cs := rfl

theorem behind_append (m : Mark) (cs ds : List Char) :
    m.behind (cs ++ ds) = (m.behind cs).behind ds :=
  List.foldl_append

/-- On written text the next place does not depend on what follows. -/
theorem after_eq_step (h : isWritten c = true) (m : Mark) (rest : List Char) :
    m.after c rest = m.step c := by
  unfold after step
  rcases (Bool.or_eq_true _ _).mp h with h | h
  · obtain rfl := beq_iff_eq.mp h
    rfl
  · have hr : c ≠ '\r' := by
      rintro rfl
      cases h
    have hbom : c ≠ Char.ofNat 0xFEFF := by
      rintro rfl
      cases h
    simp [hr, hbom, isBreak_of_isPlainAscii h, ne_newline_of_isPlainAscii h]

theorem index_behind : (m.behind cs).index = m.index + cs.length := by
  induction cs generalizing m with
  | nil => rfl
  | cons c cs ih =>
    rw [behind_cons, ih, List.length_cons]
    unfold step
    split <;> simp only <;> omega

theorem line_behind : (m.behind cs).line = m.line + cs.count '\n' := by
  induction cs generalizing m with
  | nil => rfl
  | cons c cs ih =>
    rw [behind_cons, ih, List.count_cons]
    unfold step
    split
    · simp_all
      omega
    · simp_all

/-- Along a line the column grows with every character. -/
theorem column_behind (h : '\n' ∉ cs) : (m.behind cs).column = m.column + cs.length := by
  induction cs generalizing m with
  | nil => rfl
  | cons c cs ih =>
    simp only [List.mem_cons, not_or] at h
    rw [behind_cons, ih h.2, List.length_cons, step, if_neg fun e => h.1 e.symm]
    simp only
    omega

/-- After a line feed and a line, the column is the length of the line. -/
theorem column_behind_line (h : '\n' ∉ cs) : (m.behind ('\n' :: cs)).column = cs.length := by
  rw [behind_cons, column_behind h, step, if_pos rfl]
  simp

end Mark

/-- A text whose first character, if there is one, is not of a kind. -/
def Stops (p : Char → Bool) (cs : List Char) : Prop := ∀ c ∈ cs.head?, p c = false

theorem stops_cons {p : Char → Bool} {c : Char} {cs : List Char} (h : p c = false) :
    Stops p (c :: cs) := fun _ hd => by
  rw [List.head?_cons, Option.mem_some_iff] at hd
  exact hd ▸ h

namespace Cursor

variable {m : Mark} {c : Char} {cs rest : List Char} {p : Char → Bool}

theorem next_cons (h : isWritten c = true) : (⟨c :: rest, m⟩ : Cursor).next = ⟨rest, m.step c⟩ := by
  simp only [next, Mark.after_eq_step h]

/-- A run of written characters is read up to where it stops. -/
theorem spanWhile_append (hw : ∀ c ∈ cs, isWritten c = true) (hp : ∀ c ∈ cs, p c = true)
    (hstop : Stops p rest) :
    (⟨cs ++ rest, m⟩ : Cursor).spanWhile p = (cs, ⟨rest, m.behind cs⟩) := by
  unfold spanWhile
  induction cs generalizing m with
  | nil =>
    cases rest with
    | nil => rfl
    | cons d ds =>
      have hd : p d = false := hstop d rfl
      simp [spanWhile.go, hd]
  | cons c cs ih =>
    have hc := hp c (List.mem_cons_self ..)
    simp only [List.cons_append, spanWhile.go, hc, if_true,
      Mark.after_eq_step (hw c (List.mem_cons_self ..))]
    rw [ih (fun d hd => hw d (List.mem_cons_of_mem _ hd)) fun d hd =>
      hp d (List.mem_cons_of_mem _ hd)]
    rfl

theorem spanWhile_of_stops (h : Stops p rest) :
    (⟨rest, m⟩ : Cursor).spanWhile p = ([], ⟨rest, m⟩) := by
  have hnil : ∀ q : Char → Prop, ∀ c ∈ ([] : List Char), q c := fun _ _ hc =>
    absurd hc List.not_mem_nil
  exact spanWhile_append (hnil _) (hnil _) h

/-- A row of spaces is read up to where it stops. -/
theorem spanWhile_spaces {n : Nat} (hp : p ' ' = true) (hstop : Stops p rest) :
    (⟨List.replicate n ' ' ++ rest, m⟩ : Cursor).spanWhile p =
      (List.replicate n ' ', ⟨rest, m.behind (List.replicate n ' ')⟩) :=
  spanWhile_append (fun _ hc => List.eq_of_mem_replicate hc ▸ rfl)
    (fun _ hc => List.eq_of_mem_replicate hc ▸ hp) hstop

theorem lineBreak?_newline :
    (⟨'\n' :: rest, m⟩ : Cursor).lineBreak? = some ('\n', ⟨rest, m.step '\n'⟩) := by
  simp [lineBreak?, next_cons isWritten_newline]

theorem lineBreak?_of_stops (h : Stops isBreak rest) : (⟨rest, m⟩ : Cursor).lineBreak? = none := by
  cases rest with
  | nil => rfl
  | cons c cs =>
    have hc : isBreak c = false := h c rfl
    have hne : c ≠ '\n' ∧ c ≠ '\r' ∧ c ≠ Char.ofNat 0x85 := by
      refine ⟨?_, ?_, ?_⟩ <;> rintro rfl <;> cases hc
    unfold lineBreak?
    split
    · rename_i heq
      exact absurd (List.cons.inj heq).1 hne.2.1
    · rename_i heq
      obtain ⟨rfl, rfl⟩ := List.cons.inj heq
      simp [hne, hc]
    · rfl

/-- What starts with a space or a line feed does not part documents. -/
theorem atSeparator_eq_false (h : c = ' ' ∨ c = '\n') :
    (⟨c :: rest, m⟩ : Cursor).atSeparator = false := by
  rcases h with rfl | rfl <;> simp [atSeparator]

end Cursor

end StreamMesh.Yaml
