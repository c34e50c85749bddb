/-!
# Blank characters

The characters of Unicode's white space property, and texts without those at their ends.

## Main definitions

* `isBlank` — the white space property
* `trim` — a text without blanks at either end
-/

namespace StreamMesh.Text

/-- Whether a character has the white space property. -/
def isBlank (c : Char) : Bool :=
  (0x9 ≤ c.toNat && c.toNat ≤ 0xD) || (0x2000 ≤ c.toNat && c.toNat ≤ 0x200A)
    || [0x20, 0x85, 0xA0, 0x1680, 0x2028, 0x2029, 0x202F, 0x205F, 0x3000].contains c.toNat

/-- A text without blanks at either end. -/
def trim (cs : List Char) : List Char :=
  ((cs.dropWhile isBlank).reverse.dropWhile isBlank).reverse

end StreamMesh.Text
