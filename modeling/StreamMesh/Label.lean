import StreamMesh.Text.Pattern

/-!
# Labels

Names of steps and namespaces are made of lower-case letters, digits and hyphens, and neither start
nor end with a hyphen.

## Main definitions

* `Label.pattern` — the pattern
* `Label.isNamespace` — the pattern against a whole text
* `Label.isStepName` — the same within 63 characters, where a final line feed is passed over
-/

namespace StreamMesh.Label

open Text (Pattern)
open Text.Pattern

/-- A lower-case letter or a digit. -/
def alphanumeric : Pattern := alt (between 'a' 'z') digit

/-- An alphanumeric character, or a text that starts and ends with one and holds hyphens between. -/
def pattern : Pattern :=
  seq alphanumeric (optional (seq (many (alt (char '-') alphanumeric)) alphanumeric))

/-- How the pattern is written in messages. -/
def patternText : String := "^[a-z0-9]([-a-z0-9]*[a-z0-9])?$"

/-- Whether a text can be a namespace. -/
def isNamespace (s : String) : Bool := pattern.accepts s.toList

/-- The most characters a step's name may have. -/
def maxLength : Nat := 63

/-- Whether a text can be the name of a step. -/
def isStepName (s : String) : Bool := s.length ≤ maxLength && pattern.acceptsLine s.toList

end StreamMesh.Label
