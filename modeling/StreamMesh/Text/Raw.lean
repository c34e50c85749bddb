import StreamMesh.Text.Quoted

/-!
# Texts of code points

A document can spell code points that stand for no character: the halves of pairs that name one
character in another encoding. A text that holds such a surrogate is no string, and no file and no
console can take it.

## Main definitions

* `Point` — a code point
* `BrokenText`, `RawText` — texts with a surrogate, and texts of any code points
* `RawText.points`, `RawText.ofPoints` — the code points of a text
* `BrokenText.reason` — what is said where a text cannot be encoded
-/

namespace StreamMesh

/-- A code point: a character, or a surrogate by its distance from the first. -/
inductive Point where
  | char (c : Char)
  | surrogate (n : Fin 0x800)
  deriving DecidableEq, Repr, Inhabited

namespace Point

/-- The number of a code point. -/
def code : Point → Nat
  | char c => c.toNat
  | surrogate n => 0xD800 + n

/-- The code point of a number. -/
def ofCode (n : Nat) : Point :=
  if 0xD800 ≤ n ∧ n < 0xE000 then surrogate (Fin.ofNat 0x800 (n - 0xD800)) else char (Char.ofNat n)

/-- The character that a code point is. -/
def char? : Point → Option Char
  | char c => some c
  | surrogate _ => none

/-- Whether a code point is a character. -/
def isChar (p : Point) : Bool := p.char?.isSome

/-- One code point inside quotes of kind `q`. -/
def quoted (q : Char) : Point → List Char
  | char c => Text.quotedChar q c
  | surrogate n => '\\' :: 'u' :: Text.hexDigits 4 (0xD800 + n)

end Point

/-- A text in which a surrogate stands. -/
structure BrokenText where
  points : List Point
  broken : points.all Point.isChar = false
  deriving DecidableEq, Repr

namespace BrokenText

/-- The quoted form of a text. -/
def quoted (t : BrokenText) : String :=
  let q := Text.quoteFor (t.points.filterMap Point.char?)
  String.ofList (q :: (t.points.flatMap (Point.quoted q) ++ [q]))

/-- The text with three replacement marks for each surrogate. -/
def lossy (t : BrokenText) : String :=
  String.ofList (t.points.flatMap fun
    | .char c => [c]
    | .surrogate _ => List.replicate 3 (Char.ofNat 0xFFFD))

/-- What is said where a text cannot be encoded: it names the first surrogates in a row. -/
def reason (t : BrokenText) : String :=
  let first := (t.points.takeWhile Point.isChar).length
  match (t.points.drop first).takeWhile fun p => !p.isChar with
  | [p] =>
    "'utf-8' codec can't encode character '" ++ String.ofList (p.quoted '\'') ++ "' in position "
      ++ toString first ++ ": surrogates not allowed"
  | run =>
    "'utf-8' codec can't encode characters in position " ++ toString first ++ "-"
      ++ toString (first + run.length - 1) ++ ": surrogates not allowed"

end BrokenText

/-- A text of any code points. -/
inductive RawText where
  | whole (s : String)
  | broken (t : BrokenText)
  deriving DecidableEq, Repr

namespace RawText

instance : Coe String RawText := ⟨whole⟩

instance : Inhabited RawText := ⟨""⟩

/-- The code points of a text. -/
def points : RawText → List Point
  | whole s => s.toList.map .char
  | broken t => t.points

/-- The text of some code points. -/
def ofPoints (ps : List Point) : RawText :=
  if h : ps.all Point.isChar = false then broken ⟨ps, h⟩
  else whole (String.ofList (ps.filterMap Point.char?))

/-- One text after another. Surrogates stay what they are, also where two come to stand side by
side. -/
protected def append : RawText → RawText → RawText
  | whole s, whole t => whole (s ++ t)
  | a, b => ofPoints (a.points ++ b.points)

instance : Append RawText := ⟨RawText.append⟩

@[simp] theorem whole_append (s t : String) : (whole s ++ whole t : RawText) = whole (s ++ t) := rfl

/-- The string that a text is. -/
def string? : RawText → Option String
  | whole s => some s
  | broken _ => none

/-- Whether a text is empty. -/
def isEmpty : RawText → Bool
  | whole s => s.isEmpty
  | broken _ => false

/-- The text with three replacement marks for each surrogate. -/
def lossy : RawText → String
  | whole s => s
  | broken t => t.lossy

/-- Texts in a row, parted by another. -/
def join (between : RawText) : List RawText → RawText
  | [] => ""
  | [t] => t
  | t :: rest => t ++ between ++ join between rest

/-- Whether a text stands before another in the order of their code points. -/
def precedes (a b : RawText) : Bool := a.points.map Point.code < b.points.map Point.code

end RawText

end StreamMesh
