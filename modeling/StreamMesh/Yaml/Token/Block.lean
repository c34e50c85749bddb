import StreamMesh.Yaml.Token.Basic

/-!
# Block scalars

A block scalar is a run of lines under a header. The header says whether lines are folded, how far
they are indented, and what becomes of the line breaks at the end.

## Main definitions

* `BlockHeader` — what a header says
* `scanBlock` — a block scalar
-/

namespace StreamMesh.Yaml

/-- What becomes of the line breaks at the end of a block scalar. -/
inductive Chomping where
  | strip
  | clip
  | keep
  deriving DecidableEq, Repr

/-- What the header of a block scalar says. -/
structure BlockHeader where
  chomping : Chomping
  /-- How much further than the block around it the lines are indented, if the header says so. -/
  indent : Option Nat
  deriving DecidableEq, Repr

/-- The sign of a header. -/
def chompingOf? (c : Char) : Option Chomping :=
  if c = '+' then some .keep else if c = '-' then some .strip else none

/-- A sign, if the next character is one. -/
def readChomping (k : Cursor) : Option Chomping × Cursor :=
  match k.head?.bind chompingOf? with
  | some s => (some s, k.next)
  | none => (none, k)

/-- A digit, if the next character is one. -/
def readIndent (k : Cursor) : Except Error (Option Nat × Cursor) :=
  match k.head? with
  | some c =>
    if c.isDigit then
      if c = '0' then scanError .zeroIndent k.mark
      else .ok (some (c.toNat - '0'.toNat), k.next)
    else .ok (none, k)
  | none => .ok (none, k)

/-- Whether a line break or the end of the text comes next. -/
def atLineEnd (k : Cursor) : Bool := k.head?.all isBreak

/-- A header: a sign and a digit in either order, and neither is needed. -/
def readHeader (k : Cursor) : Except Error (BlockHeader × Cursor) := do
  let (sign, k₁) := readChomping k
  let (indent, k₂) ← readIndent k₁
  let (sign, k₃) := if sign.isNone && indent.isSome then readChomping k₂ else (sign, k₂)
  if !(atLineEnd k₃ || k₃.head? == some ' ') then
    scanError (.expected "chomping or indentation indicators" k₃.found) k₃.mark
  return (⟨sign.getD .clip, indent⟩, k₃)

/-- The rest of a line that holds at most a comment, with the line break. -/
def ignoredLine (k : Cursor) : Except Error Cursor :=
  let k₁ := k.dropWhile (· == ' ')
  let k₂ := if k₁.head? == some '#' then k₁.dropWhile (fun c => !isBreak c) else k₁
  if atLineEnd k₂ then .ok k₂.skipBreak
  else scanError (.expected "a comment or a line break" k₂.found) k₂.mark

/-- Spaces up to column `indent`. -/
def skipIndent (indent : Nat) (k : Cursor) : Cursor :=
  go k.rest k.mark
where
  go : List Char → Mark → Cursor
    | [], m => ⟨[], m⟩
    | c :: rest, m =>
      if m.column < indent ∧ c = ' ' then go rest (m.after c rest) else ⟨c :: rest, m⟩

/-- Empty lines before a line that is indented, with the place after the last. -/
def blockBreaks (indent : Nat) : Nat → Cursor → List Char × Cursor × Mark
  | 0, k => ([], k, k.mark)
  | fuel + 1, k =>
    let k₁ := skipIndent indent k
    match k₁.lineBreak? with
    | none => ([], k₁, k.mark)
    | some (b, k₂) =>
      let (bs, k₃, stop) := blockBreaks indent fuel k₂
      (b :: bs, k₃, stop)

/-- Empty lines before the first line, whose indentation is to be found: the furthest column that
the spaces of a line reach. -/
def findIndent (fuel : Nat) (k : Cursor) : List Char × Nat × Cursor × Mark :=
  go fuel k 0 k.mark
where
  go : Nat → Cursor → Nat → Mark → List Char × Nat × Cursor × Mark
    | 0, k, most, stop => ([], most, k, stop)
    | fuel + 1, k, most, stop =>
      match k.lineBreak? with
      | some (b, k₁) =>
        let (bs, most, k₂, stop) := go fuel k₁ most k₁.mark
        (b :: bs, most, k₂, stop)
      | none =>
        if k.head? == some ' ' then
          let k₁ := k.next
          go fuel k₁ (max most k₁.mark.column) stop
        else ([], most, k, stop)

/-- Whether a cursor stands at the start of a line of the block. -/
def inBlock (indent : Nat) (k : Cursor) : Bool := k.mark.column == indent && !k.rest.isEmpty

/-- Whether the next character is a blank. -/
def atBlank (k : Cursor) : Bool := k.head? == some ' ' || k.head? == some '\t'

/-- The characters of a line's end. -/
def breakChars : Option (Char × Cursor) → List Char
  | some (b, _) => [b]
  | none => []

/-- The lines of a block: their text, the last line break, and the empty lines after it. -/
def blockLines (isFolded : Bool) (indent : Nat) :
    Nat → Cursor → List Char × List Char × List Char × Cursor × Mark
  | 0, k => ([], [], [], k, k.mark)
  | fuel + 1, k =>
    let (line, k₁) := k.spanWhile fun c => !isBreak c
    let last := breakChars k₁.lineBreak?
    let k₂ := k₁.skipBreak
    let (empty, k₃, stop) := blockBreaks indent (k₂.rest.length + 1) k₂
    if inBlock indent k₃ then
      let joint :=
        if isFolded && last == ['\n'] && !atBlank k && !atBlank k₃ then
          if empty.isEmpty then [' '] else []
        else last
      let (text, lastBreak, tail, k₄, stop) := blockLines isFolded indent fuel k₃
      (line ++ joint ++ empty ++ text, lastBreak, tail, k₄, stop)
    else (line, last, empty, k₃, stop)

/-- A block scalar from its mark on, inside a block at column `around`, with the place where it
stops. -/
def scanBlock (isFolded : Bool) (around : Int) (k : Cursor) :
    Except Error (List Char × Cursor × Mark) := do
  let (header, k₁) ← readHeader k.next
  let k₂ ← ignoredLine k₁
  let least := (max (around + 1) 1).toNat
  let fuel := k₂.rest.length + 1
  let (empty, indent, k₃, stop) := match header.indent with
    | none =>
      let (empty, most, k₃, stop) := findIndent fuel k₂
      (empty, max least most, k₃, stop)
    | some n =>
      let indent := least + n - 1
      let (empty, k₃, stop) := blockBreaks indent fuel k₂
      (empty, indent, k₃, stop)
  let (text, lastBreak, tail, k₄, stop) :=
    if inBlock indent k₃ then
      let (text, lastBreak, tail, k₄, stop) := blockLines isFolded indent fuel k₃
      (empty ++ text, lastBreak, tail, k₄, stop)
    else ([], [], empty, k₃, stop)
  let ending := match header.chomping with
    | .strip => []
    | .clip => lastBreak
    | .keep => lastBreak ++ tail
  return (text ++ ending, k₄, stop)

end StreamMesh.Yaml
