import StreamMesh.Text.Pattern

/-!
# What a plain scalar stands for

A scalar written without quotes and without a tag takes its type from its spelling. Each type but
text has a pattern; the first pattern that the spelling matches decides.

## Main definitions

* `Implicit` — the types that a spelling can have
* `Implicit.ofPlain` — the type of a spelling
-/

namespace StreamMesh.Yaml

open Text (Pattern)
open Text.Pattern

/-- The type of a plain scalar. -/
inductive Implicit where
  | bool
  | float
  | int
  /-- The key whose value is merged into the mapping around it. -/
  | merge
  | null
  | timestamp
  /-- The key that marks the default value of a mapping. -/
  | value
  | str
  deriving DecidableEq, Repr

namespace Implicit

/-- A sign or nothing. -/
def sign : Pattern := optional (among "+-")

/-- A digit, then digits and underscores. -/
def digits : Pattern := seq digit (many (alt digit (char '_')))

/-- Groups of base sixty after the first, each led by a colon. -/
def sixties : Pattern := some1 (inOrder [char ':', optional (between '0' '5'), digit])

/-- A signed power of ten. -/
def power : Pattern := inOrder [among "eE", among "-+", some1 digit]

/-- Words for truth values. -/
def boolPattern : Pattern :=
  oneOf (["yes", "Yes", "YES", "no", "No", "NO", "true", "True", "TRUE", "false", "False", "FALSE",
    "on", "On", "ON", "off", "Off", "OFF"].map text)

/-- Decimal fractions, in base ten or sixty, the infinities, and no number. -/
def floatPattern : Pattern :=
  oneOf [
    inOrder [sign, digits, char '.', many (alt digit (char '_')), optional power],
    inOrder [char '.', digits, optional power],
    inOrder [sign, digits, sixties, char '.', many (alt digit (char '_'))],
    inOrder [sign, char '.', oneOf (["inf", "Inf", "INF"].map text)],
    inOrder [char '.', oneOf (["nan", "NaN", "NAN"].map text)]]

/-- Whole numbers in base two, eight, ten, sixteen or sixty. -/
def intPattern : Pattern :=
  oneOf [
    inOrder [sign, text "0b", some1 (among "01_")],
    inOrder [sign, char '0', some1 (alt (between '0' '7') (char '_'))],
    inOrder [sign, alt (char '0') (seq (between '1' '9') (many (alt digit (char '_'))))],
    inOrder [sign, text "0x", some1 (oneOf [digit, between 'a' 'f', between 'A' 'F', char '_'])],
    inOrder [sign, between '1' '9', many (alt digit (char '_')), sixties]]

/-- The words for nothing, the empty word among them. -/
def nullPattern : Pattern := oneOf ([ "~", "null", "Null", "NULL", ""].map text)

/-- A run of spaces and tabs. -/
def blanks : Pattern := many (among " \t")

/-- A date. -/
def datePattern : Pattern :=
  inOrder [times 4 digit, char '-', times 2 digit, char '-', times 2 digit]

/-- A date with a time of day, which may name a fraction of a second and a zone. -/
def momentPattern : Pattern :=
  inOrder [times 4 digit, char '-', digit, optional digit, char '-', digit, optional digit,
    alt (among "Tt") (some1 (among " \t")),
    digit, optional digit, char ':', times 2 digit, char ':', times 2 digit,
    optional (seq (char '.') (many digit)),
    optional (seq blanks (alt (char 'Z')
      (inOrder [among "+-", digit, optional digit, optional (seq (char ':') (times 2 digit))])))]

/-- The pattern of each type, in the order in which they are tried. -/
def patterns : List (Implicit × Pattern) := [
  (bool, boolPattern), (float, floatPattern), (int, intPattern), (merge, text "<<"),
  (null, nullPattern), (timestamp, alt datePattern momentPattern), (value, char '=')]

/-- The type of a spelling; a spelling that no pattern takes is text. A line feed at the end is
passed over, but a spelling that starts with one is text. -/
def ofPlain (cs : List Char) : Implicit :=
  match patterns.find? fun p => p.2.acceptsLine cs && cs.head? != some '\n' with
  | some (type, _) => type
  | none => str

end Implicit

end StreamMesh.Yaml
