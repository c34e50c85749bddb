/-!
# The pieces of a text

## Main definitions

* `pieces` — what stands between the occurrences of a character
-/

namespace StreamMesh.Text

/-- Puts a character in front of the first of some pieces. -/
def ontoFirst (c : Char) : List (List Char) → List (List Char)
  | [] => [[c]]
  | piece :: rest => (c :: piece) :: rest

/-- What stands before, between and after the occurrences of a character: one piece more than there
are occurrences. -/
def pieces (separator : Char) : List Char → List (List Char)
  | [] => [[]]
  | c :: rest =>
    if c = separator then [] :: pieces separator rest else ontoFirst c (pieces separator rest)

end StreamMesh.Text
