import StreamMesh.Yaml.Token.Plain

/-!
# Quoted scalars

In single quotes a doubled quote stands for one; in double quotes a backslash starts an escape.
Line breaks are folded in both.

## Main definitions

* `escapes` — the characters that stand for others after a backslash
* `scanQuoted` — a quoted scalar
-/

namespace StreamMesh.Yaml

/-- The characters that stand for others after a backslash. -/
def escapes : List (Char × Char) := [
  ('0', Char.ofNat 0x0), ('a', Char.ofNat 0x7), ('b', Char.ofNat 0x8), ('t', '\t'), ('\t', '\t'),
  ('n', '\n'), ('v', Char.ofNat 0xB), ('f', Char.ofNat 0xC), ('r', '\r'), ('e', Char.ofNat 0x1B),
  (' ', ' '), ('"', '"'), ('\\', '\\'), ('/', '/'), ('N', Char.ofNat 0x85), ('_', Char.ofNat 0xA0),
  ('L', Char.ofNat 0x2028), ('P', Char.ofNat 0x2029)]

/-- How many hexadecimal digits follow a letter after a backslash. -/
def codeLength? (c : Char) : Option Nat :=
  if c = 'x' then some 2 else if c = 'u' then some 4 else if c = 'U' then some 8 else none

/-- The value of a hexadecimal digit. -/
def hexValue? (c : Char) : Option Nat :=
  if '0' ≤ c ∧ c ≤ '9' then some (c.toNat - '0'.toNat)
  else if 'a' ≤ c ∧ c ≤ 'f' then some (c.toNat - 'a'.toNat + 10)
  else if 'A' ≤ c ∧ c ≤ 'F' then some (c.toNat - 'A'.toNat + 10)
  else none

/-- The number that `count` hexadecimal digits spell, or what stands where a digit should. -/
def readHex : Nat → Nat → List Char → Except String Nat
  | 0, n, _ => .ok n
  | _ + 1, _, [] => .error (String.singleton (Char.ofNat 0))
  | count + 1, n, c :: rest => match hexValue? c with
    | some d => readHex count (n * 16 + d) rest
    | none => .error (String.singleton c)

/-- Line breaks with blanks after each; no line may part documents. -/
def quotedBreaks (k : Cursor) : Except Error (List Char × Cursor) :=
  if k.atSeparator then scanError .unexpectedSeparator k.mark
  else
    let k₁ := k.dropWhile fun c => c == ' ' || c == '\t'
    match h : k₁.lineBreak? with
    | none => .ok ([], k₁)
    | some (b, k₂) =>
      have : k₂.rest.length < k.rest.length :=
        Nat.lt_of_lt_of_le (Cursor.length_lineBreak_lt h) (Cursor.length_spanWhile_le _ k)
      match quotedBreaks k₂ with
      | .ok (bs, k₃) => .ok (b :: bs, k₃)
      | .error e => .error e
termination_by k.rest.length

/-- Blanks, or line breaks folded, inside quotes. -/
def quotedGap (k : Cursor) : Except Error (List Char × Cursor) := do
  let (blanks, k₁) := k.spanWhile fun c => c == ' ' || c == '\t'
  if k₁.rest.isEmpty then scanError .unexpectedEnd k₁.mark
  match k₁.lineBreak? with
  | none => return (blanks, k₁)
  | some (b, k₂) =>
    let (more, k₃) ← quotedBreaks k₂
    return (folded b more, k₃)

/-- What an escape stands for, from after the backslash: characters, or a code point. -/
def readEscape (k : Cursor) : Except Error ((List Char ⊕ Nat) × Cursor) :=
  match k.head? with
  | none => scanError (.unknownEscape k.found) k.mark
  | some c =>
    match escapes.lookup c with
    | some d => .ok (.inl [d], k.next)
    | none => match codeLength? c with
      | some count => match readHex count 0 k.next.rest with
        | .error found =>
          let wanted := "escape sequence of " ++ toString count ++ " hexadecimal numbers"
          scanError (.expected wanted found) k.next.mark
        | .ok code =>
          if Nat.pow 2 31 ≤ code then .error .tooLarge
          else if 0x10FFFF < code then .error (.badSpelling "chr() arg not in range(0x110000)")
          else .ok (.inr code, k.next.skip count)
      | none => match k.lineBreak? with
        | some (_, k₁) => match quotedBreaks k₁ with
          | .ok (bs, k₂) => .ok (.inl bs, k₂)
          | .error e => .error e
        | none => scanError (.unknownEscape k.found) k.mark

/-- The inside of a quoted scalar and its closing quote. -/
def quotedRest (double : Bool) : Nat → Cursor → Except Error (Content × Cursor)
  | 0, k => scanError .unexpectedEnd k.mark
  | fuel + 1, k =>
    match k.rest with
    | [] => scanError .unexpectedEnd k.mark
    | c :: rest =>
      if isSpaceOrBreak c then do
        let (gap, k₁) ← quotedGap k
        let (t, k₂) ← quotedRest double fuel k₁
        return (t.after gap, k₂)
      else if double && c == '\\' then do
        let (meaning, k₁) ← readEscape k.next
        let (t, k₂) ← quotedRest double fuel k₁
        match meaning with
        | .inl cs => return (t.after cs, k₂)
        | .inr code => return (t.afterCode code, k₂)
      else if !double && c == '\'' && rest.head? == some '\'' then do
        let (t, k₁) ← quotedRest double fuel k.next.next
        return (t.after ['\''], k₁)
      else if c == (if double then '"' else '\'') then .ok (.empty, k.next)
      else do
        let (t, k₁) ← quotedRest double fuel k.next
        return (t.after [c], k₁)

/-- A quoted scalar, from its opening quote on. -/
def scanQuoted (double : Bool) (k : Cursor) : Except Error (Content × Cursor) :=
  quotedRest double (k.rest.length + 1) k.next

end StreamMesh.Yaml
