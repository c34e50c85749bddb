import StreamMesh.Decimal.Notation
import StreamMesh.Manifest
import StreamMesh.Yaml.Implicit

/-!
# Manifests as YAML text

Mappings and lists stand in block form, two columns a level, and a list under a key stays at the
key's column. A text is written without quotes where it then still reads as the same text, in
single quotes where these can hold it, and otherwise in double quotes with escapes, so the output
is ASCII. Long texts are folded after column 80. A surrogate in a text is escaped like any other
code point that is not ASCII.

A manifest with a whole number of more than 4300 digits has no text. How deep a manifest may be
nested is not limited.

## Main definitions

* `plainAllowed`, `singleAllowed` — which texts may stand bare or in single quotes
* `plain`, `single`, `double` — the three ways to write a text
* `scalarText` — a scalar at a given column
* `Manifest.render?` — a manifest as a document, if its numbers can be written out
-/

namespace StreamMesh.Yaml

/-- Lines are folded once they are longer than this. -/
def foldWidth : Nat := 80

/-- Where a scalar is written: its lines after the first start at column `indent`, and they are
folded only if `folds`. -/
structure Placing where
  indent : Nat
  folds : Bool

/-- The start of a line after the first. -/
def Placing.newLine (p : Placing) : List Char := '\n' :: List.replicate p.indent ' '

/-- A visible ASCII character or the space. -/
def isPlainAscii (c : Char) : Bool := ' ' ≤ c && c ≤ '~'

/-- Whether the rest of a text starts with a blank or is empty. -/
def blankNext : List Char → Bool
  | [] => true
  | c :: _ => c == ' '

/-- Whether a text starts like something other than text. -/
def indicatorFirst : List Char → Bool
  | [] => false
  | c :: rest =>
    "#,[]\x7b\x7d&*!|>'\"%@`".toList.contains c
      || ((c == '?' || c == ':' || c == '-') && blankNext rest)
      || (c :: rest).take 3 == ['-', '-', '-'] || (c :: rest).take 3 == ['.', '.', '.']

/-- Whether a comment or the colon of a key stands after a first character `before`. -/
def indicatorInside (before : Char) : List Char → Bool
  | [] => false
  | c :: rest =>
    (c == ':' && blankNext rest) || (c == '#' && before == ' ') || indicatorInside c rest

/-- Whether a text may be written bare, its implicit type aside. -/
def plainAllowed : List Char → Bool
  | [] => true
  | c :: rest =>
    (c :: rest).all isPlainAscii && c != ' ' && (c :: rest).getLast? != some ' '
      && !indicatorFirst (c :: rest) && !indicatorInside c rest

/-- Whether a blank and a line feed stand side by side. -/
def blankAtLineEnd : List Char → Bool
  | a :: b :: rest =>
    (a == ' ' && b == '\n') || (a == '\n' && b == ' ') || blankAtLineEnd (b :: rest)
  | _ => false

/-- Whether single quotes can hold a text. -/
def singleAllowed (cs : List Char) : Bool :=
  cs.all (fun c => c == '\n' || isPlainAscii c) && !blankAtLineEnd cs

/-- Whether a line is folded at a space that follows `before`, with `rest` after it, at a column. -/
def foldsAt (p : Placing) (column : Nat) (before : Option Char) (rest : List Char) : Bool :=
  p.folds && foldWidth < column && before.isSome && before != some ' ' && !rest.isEmpty
    && !blankNext rest

/-- A text without quotes; `column` is where its rest starts, after the character `before`. -/
def plain (p : Placing) (column : Nat) (before : Option Char) : List Char → List Char
  | [] => []
  | c :: rest =>
    if c = ' ' ∧ foldsAt p column before rest then p.newLine ++ plain p p.indent (some c) rest
    else c :: plain p (column + 1) (some c) rest

/-- What stands between single quotes. A line feed is written as an empty line, the first of a row
as two, and a quote is doubled. -/
def singleBody (p : Placing) (column : Nat) (before : Option Char) : List Char → List Char
  | [] => []
  | c :: rest =>
    if c = ' ' ∧ foldsAt p column before rest then p.newLine ++ singleBody p p.indent (some c) rest
    else if c = '\n' then
      (if before = some '\n' then ['\n'] else ['\n', '\n'])
        ++ (if rest.head? = some '\n' then [] else List.replicate p.indent ' ')
        ++ singleBody p p.indent (some c) rest
    else if c = '\'' then '\'' :: '\'' :: singleBody p (column + 2) (some c) rest
    else c :: singleBody p (column + 1) (some c) rest

/-- A text in single quotes. -/
def single (p : Placing) (column : Nat) (cs : List Char) : List Char :=
  '\'' :: (singleBody p (column + 1) none cs ++ ['\''])

/-- The last `count` hexadecimal digits of a number, in upper case. -/
def upperHex : Nat → Nat → List Char
  | 0, _ => []
  | count + 1, n => upperHex count (n / 16) ++ [(Nat.digitChar (n % 16)).toUpper]

/-- The letters of the characters that have an escape of their own. -/
def letterEscapes : List (Char × Char) := [
  (Char.ofNat 0x0, '0'), (Char.ofNat 0x7, 'a'), (Char.ofNat 0x8, 'b'), ('\t', 't'), ('\n', 'n'),
  (Char.ofNat 0xB, 'v'), (Char.ofNat 0xC, 'f'), ('\r', 'r'), (Char.ofNat 0x1B, 'e'), ('"', '"'),
  ('\\', '\\'), (Char.ofNat 0x85, 'N'), (Char.ofNat 0xA0, '_'), (Char.ofNat 0x2028, 'L'),
  (Char.ofNat 0x2029, 'P')]

/-- The escape that spells a code point by its number. -/
def codeEscape (n : Nat) : List Char :=
  if n ≤ 0xFF then '\\' :: 'x' :: upperHex 2 n
  else if n ≤ 0xFFFF then '\\' :: 'u' :: upperHex 4 n
  else '\\' :: 'U' :: upperHex 8 n

/-- What a code point is inside double quotes: a character that stands for itself, or an escape. -/
def doubled : Point → Char ⊕ List Char
  | .surrogate n => .inr (codeEscape (Point.surrogate n).code)
  | .char c => match letterEscapes.lookup c with
    | some letter => .inr ['\\', letter]
    | none => if isPlainAscii c then .inl c else .inr (codeEscape c.toNat)

/-- Breaks a line inside double quotes, and says at which column the rest goes on. A space that
starts the new line is escaped. -/
def doubleBreak (p : Placing) (rest : List Point) : List Char × Nat :=
  if rest.head? = some (.char ' ') then ('\\' :: (p.newLine ++ ['\\']), p.indent + 1)
  else ('\\' :: p.newLine, p.indent)

/-- What stands between double quotes. A line is broken before a space, or on either side of an
escape, but neither at the start of the text nor before its last character. -/
def doubleBody (p : Placing) (column : Nat) (first escaped : Bool) : List Point → List Char
  | [] => []
  | x :: rest =>
    let inside := p.folds && !first && !rest.isEmpty
    match doubled x with
    | .inl c =>
      -- A break comes before a space, or before what follows an escape.
      if inside && (c == ' ' || escaped) && foldWidth < column then
        let (text, next) := doubleBreak p (x :: rest)
        text ++ c :: doubleBody p (next + 1) false false rest
      else c :: doubleBody p (column + 1) false false rest
    | .inr text =>
      -- A break comes after the escape, as soon as the escape has passed the width.
      let column := column + text.length
      if inside && foldWidth + 1 < column then
        let (pause, next) := doubleBreak p rest
        text ++ pause ++ doubleBody p next false true rest
      else text ++ doubleBody p column false true rest

/-- A text in double quotes. -/
def double (p : Placing) (column : Nat) (ps : List Point) : List Char :=
  '"' :: (doubleBody p (column + 1) true false ps ++ ['"'])

/-- Whether a text is written bare: it may be, and its spelling has no other type. -/
def writtenPlain (cs : List Char) : Bool := plainAllowed cs && Implicit.ofPlain cs == .str

/-- A text, in the first of the three ways that can hold it. -/
def textAt (p : Placing) (column : Nat) (cs : List Char) : List Char :=
  if writtenPlain cs then plain p column none cs
  else if singleAllowed cs then single p column cs
  else double p column (cs.map .char)

/-- A text of any code points. -/
def rawTextAt (p : Placing) (column : Nat) : RawText → List Char
  | .whole s => textAt p column s.toList
  | .broken t => double p column t.points

/-- Puts a point and a zero before the exponent of a number that has an exponent but no point. -/
def pointed (cs : List Char) : List Char :=
  if cs.contains '.' then cs
  else match cs.span (· != 'e') with
    | (_, []) => cs
    | (mantissa, exponent) => mantissa ++ '.' :: '0' :: exponent

/-- The spelling of a float. -/
def floatSpelling (x : Float) : List Char :=
  match Decimal.Binary.ofFloat x with
  | .nan => ".nan".toList
  | .infinite negative => (if negative then "-.inf" else ".inf").toList
  | .finite .. => pointed (Decimal.floatText x).toList

/-- A scalar that starts at a column. -/
def scalarText (p : Placing) (column : Nat) : Scalar → List Char
  | .null => "null".toList
  | .bool b => (if b then "true" else "false").toList
  | .int n => (toString n).toList
  | .float x => floatSpelling x
  | .str t => rawTextAt p column t

/-- Whether a text can be a key on the line of its value. -/
def isSimpleKey (cs : List Char) : Bool :=
  !cs.isEmpty && cs.length < 123
    && !cs.any fun c =>
      c == '\n' || c == Char.ofNat 0x85 || c == Char.ofNat 0x2028 || c == Char.ofNat 0x2029

/-- A key on the line of its value. -/
def simpleKey (cs : List Char) : List Char := textAt ⟨0, false⟩ 0 cs

/-- Blocks of lines in a column: each but the first is indented to it. -/
def stacked (indent : Nat) : List (List Char) → List Char
  | [] => []
  | [block] => block
  | block :: rest => block ++ List.replicate indent ' ' ++ stacked indent rest

mutual

/-- What follows the mark of a list item or of a long key or its value, the mark standing at column
`indent`. A block starts on the same line, two columns further. -/
def afterMark (indent : Nat) : Manifest → List Char
  | .scalar s => ' ' :: (scalarText ⟨indent + 2, true⟩ (indent + 2) s ++ ['\n'])
  | .list [] => " []\n".toList
  | .list items => ' ' :: stacked (indent + 2) (itemBlocks (indent + 2) items)
  | .map [] => [' ', '{', '}', '\n']
  | .map entries => ' ' :: stacked (indent + 2) (entryBlocks (indent + 2) entries)

/-- What follows a key and its colon, the key at column `indent` and the rest at `column`. A block
starts on the next line; a list stays at the column of the key. -/
def afterKey (indent column : Nat) : Manifest → List Char
  | .scalar s => ' ' :: (scalarText ⟨indent + 2, true⟩ (column + 1) s ++ ['\n'])
  | .list [] => " []\n".toList
  | .list items =>
    '\n' :: (List.replicate indent ' ' ++ stacked indent (itemBlocks indent items))
  | .map [] => [' ', '{', '}', '\n']
  | .map entries =>
    '\n' :: (List.replicate (indent + 2) ' '
      ++ stacked (indent + 2) (entryBlocks (indent + 2) entries))

/-- The items of a list whose marks stand at column `indent`. -/
def itemBlocks (indent : Nat) : List Manifest → List (List Char)
  | [] => []
  | item :: rest => ('-' :: afterMark indent item) :: itemBlocks indent rest

/-- The entries of a mapping whose keys stand at column `indent`. A key that cannot share the line
of its value is marked, and so is its value. -/
def entryBlocks (indent : Nat) : List (String × Manifest) → List (List Char)
  | [] => []
  | (key, value) :: rest =>
    (if isSimpleKey key.toList then
      let text := simpleKey key.toList
      text ++ ':' :: afterKey indent (indent + text.length + 1) value
    else
      '?' :: ' ' :: (textAt ⟨indent + 2, true⟩ (indent + 2) key.toList
        ++ '\n' :: (List.replicate indent ' ' ++ ':' :: afterMark indent value)))
      :: entryBlocks indent rest

end

/-- A document. A bare scalar is closed by three dots. -/
def document : Manifest → List Char
  | .scalar s =>
    let text := scalarText ⟨2, true⟩ 0 s
    let bare := match s with
      | .str (.whole t) => writtenPlain t.toList
      | .str (.broken _) => false
      | _ => true
    text ++ '\n' :: (if bare then "...\n".toList else [])
  | .list [] => "[]\n".toList
  | .list items => stacked 0 (itemBlocks 0 items)
  | .map [] => ['{', '}', '\n']
  | .map entries => stacked 0 (entryBlocks 0 entries)

end Yaml

/-- A manifest as YAML text, however long its numbers are. -/
def Manifest.spelled (m : Manifest) : String := String.ofList (Yaml.document m)

/-- A manifest as YAML text, if its numbers can be written out. -/
def Manifest.render? (m : Manifest) : Option String := if m.isWritable then some m.spelled else none

end StreamMesh
