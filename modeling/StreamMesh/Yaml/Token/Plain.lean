import StreamMesh.Yaml.Token.Basic

/-!
# Plain scalars

A plain scalar ends before a comment, before the colon of a key, before a line that is not indented
enough, and inside flow collections before their marks. Line breaks inside it are folded.

## Main definitions

* `plainRun` — characters without a blank
* `plainGap` — blanks or line breaks between two runs
* `scanPlain` — a plain scalar
-/

namespace StreamMesh.Yaml

/-- Whether a character is a mark of flow collections other than the question mark. -/
def isFlowMark (c : Char) : Bool := c == ',' || c == '[' || c == ']' || c == '\x7b' || c == '\x7d'

/-- Whether a colon before `rest` ends a key. -/
def colonEnds (flow : Bool) : List Char → Bool
  | [] => true
  | c :: _ => isSpaceOrBreak c || (flow && isFlowMark c)

/-- Whether a character before `rest` ends a run of plain characters. -/
def endsRun (flow : Bool) (c : Char) (rest : List Char) : Bool :=
  isSpaceOrBreak c || (c == ':' && colonEnds flow rest) || (flow && (isFlowMark c || c == '?'))

/-- Plain characters without a blank between them. -/
def plainRun (flow : Bool) : List Char → Mark → List Char × Cursor
  | [], m => ([], ⟨[], m⟩)
  | c :: rest, m =>
    if endsRun flow c rest then ([], ⟨c :: rest, m⟩)
    else
      let (cs, k) := plainRun flow rest (m.after c rest)
      (c :: cs, k)

/-- Line breaks with indentation after each, unless a line parts documents. -/
def plainBreaks (k : Cursor) : Option (List Char) × Cursor :=
  let k₁ := k.dropWhile (· == ' ')
  match h : k₁.lineBreak? with
  | none => (some [], k₁)
  | some (b, k₂) =>
    have : k₂.rest.length < k.rest.length :=
      Nat.lt_of_lt_of_le (Cursor.length_lineBreak_lt h) (Cursor.length_spanWhile_le _ k)
    if k₂.atSeparator then (none, k₂)
    else
      let (bs, k₃) := plainBreaks k₂
      (bs.map (b :: ·), k₃)
termination_by k.rest.length

/-- A line break and those after it, folded: a single line feed counts as a space, and the first of
several as nothing. -/
def folded (first : Char) (more : List Char) : List Char :=
  if first ≠ '\n' then first :: more else if more.isEmpty then [' '] else more

/-- What stands between two runs of plain characters, where the scanner is after it, and whether a
line has ended. -/
def plainGap (k : Cursor) : List Char × Cursor × Bool :=
  let (blanks, k₁) := k.spanWhile (· == ' ')
  match k₁.lineBreak? with
  | none => (blanks, k₁, false)
  | some (b, k₂) =>
    if k₂.atSeparator then ([], k₂, true)
    else match plainBreaks k₂ with
      | (some more, k₃) => (folded b more, k₃, true)
      | (none, k₃) => ([], k₃, true)

/-- A plain scalar: its characters, where they stop, where the scanner is after it, and whether a
line has ended since. -/
structure PlainScan where
  chars : List Char
  stop : Mark
  after : Cursor
  lineEnded : Bool
  deriving DecidableEq, Repr

/-- Runs of plain characters and the gaps between them. -/
def plainRuns (flow : Bool) (indent : Int) : Nat → Cursor → PlainScan
  | 0, k => ⟨[], k.mark, k, false⟩
  | fuel + 1, k =>
    let (run, k₁) := plainRun flow k.rest k.mark
    let (gap, k₂, lineEnded) := plainGap k₁
    if gap.isEmpty || k₂.head? == some '#' || (!flow && (k₂.mark.column : Int) < indent)
        || (plainRun flow k₂.rest k₂.mark).1.isEmpty then
      ⟨run, k₁.mark, k₂, lineEnded⟩
    else
      let more := plainRuns flow indent fuel k₂
      { more with chars := run ++ gap ++ more.chars }

/-- A plain scalar, whose lines after the first start at column `indent` or later. -/
def scanPlain (flow : Bool) (indent : Int) (k : Cursor) : PlainScan :=
  plainRuns flow indent (k.rest.length + 1) k

end StreamMesh.Yaml
