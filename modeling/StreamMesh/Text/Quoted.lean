import StreamMesh.Text.Visible

/-!
# Quoted text

A quoted text shows a string so that every character can be told: it stands in single quotes, or
in double quotes if it holds single quotes only; what has no visible form is escaped by its code.

## Main definitions

* `hexDigits` — a number in a fixed count of hexadecimal digits
* `quoted` — the quoted form of a string
-/

namespace StreamMesh.Text

/-- The last `count` hexadecimal digits of a number, in lower case. -/
def hexDigits : Nat → Nat → List Char
  | 0, _ => []
  | count + 1, n => hexDigits count (n / 16) ++ [Nat.digitChar (n % 16)]

/-- One character inside quotes of kind `q`. -/
def quotedChar (q : Char) (c : Char) : List Char :=
  if c = q ∨ c = '\\' then ['\\', c]
  else if c = '\n' then ['\\', 'n']
  else if c = '\r' then ['\\', 'r']
  else if c = '\t' then ['\\', 't']
  else if isVisible c then [c]
  else if c.toNat < 0x100 then '\\' :: 'x' :: hexDigits 2 c.toNat
  else if c.toNat < 0x10000 then '\\' :: 'u' :: hexDigits 4 c.toNat
  else '\\' :: 'U' :: hexDigits 8 c.toNat

/-- The kind of quote that stands around a text. -/
def quoteFor (cs : List Char) : Char :=
  if cs.contains '\'' && !cs.contains '"' then '"' else '\''

/-- The quoted form of a string. -/
def quoted (s : String) : String :=
  let cs := s.toList
  let q := quoteFor cs
  String.ofList (q :: (cs.flatMap (quotedChar q) ++ [q]))

end StreamMesh.Text
