import StreamMesh.Yaml.Cursor

/-!
# Tokens

The tokens of a document are its marks, names and scalars, and the starts and ends of its blocks,
which are told by indentation alone.

## Main definitions

* `Content` — what a scalar holds
* `Lexeme` — what a token is
* `Token` — a lexeme and where it stands
-/

namespace StreamMesh.Yaml

/-- What a scalar holds. Escapes can spell code points that stand for no character. -/
structure Content where
  points : List Point
  deriving DecidableEq, Repr, Inhabited

namespace Content

/-- The content of some characters. -/
def ofChars (cs : List Char) : Content := ⟨cs.map .char⟩

/-- The empty content. -/
def empty : Content := ofChars []

/-- Content with characters before it. -/
def after (t : Content) (cs : List Char) : Content := ⟨cs.map .char ++ t.points⟩

/-- Content with a code point before it. -/
def afterCode (t : Content) (n : Nat) : Content := ⟨.ofCode n :: t.points⟩

/-- The content as a text. -/
def text (t : Content) : RawText := .ofPoints t.points

end Content

/-- What a token is. -/
inductive Lexeme where
  | streamEnd
  /-- A directive that names a version of the format, by its first number. -/
  | version (major : Nat)
  /-- A directive that gives tags a short form. -/
  | handle (name expansion : String)
  | otherDirective
  | documentStart
  | documentEnd
  | blockSequence
  | blockMapping
  | blockEnd
  | flowSequence
  | flowMapping
  | flowSequenceEnd
  | flowMappingEnd
  | key
  | value
  | entry
  | comma
  | reference (name : String)
  | anchor (name : String)
  | tag (handle : Option String) (suffix : String)
  /-- A scalar; it is plain if it is neither quoted nor a block. -/
  | scalar (content : Content) (plain : Bool)
  deriving DecidableEq, Repr, Inhabited

/-- How a lexeme is named in messages. -/
def Lexeme.name : Lexeme → String
  | streamEnd => "<stream end>"
  | version _ | handle .. | otherDirective => "<directive>"
  | documentStart => "<document start>"
  | documentEnd => "<document end>"
  | blockSequence => "<block sequence start>"
  | blockMapping => "<block mapping start>"
  | blockEnd => "<block end>"
  | flowSequence => "["
  | flowMapping => "\x7b"
  | flowSequenceEnd => "]"
  | flowMappingEnd => "\x7d"
  | key => "?"
  | value => ":"
  | entry => "-"
  | comma => ","
  | reference _ => "<alias>"
  | anchor _ => "<anchor>"
  | tag .. => "<tag>"
  | scalar .. => "<scalar>"

/-- A lexeme and the places where it starts and stops. -/
structure Token where
  lexeme : Lexeme
  start : Mark
  stop : Mark
  deriving DecidableEq, Repr, Inhabited

/-- The error of a scanner at a place. -/
def scanError {α : Type} (p : Problem) (m : Mark) : Except Error α := .error (.at .scanner p m)

end StreamMesh.Yaml
