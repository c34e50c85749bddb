import StreamMesh.Text.Raw

/-!
# Why a text is no document

## Main definitions

* `Mark` — a place in a text
* `Problem` — what is wrong there
* `Error` — why a text yields no value
-/

namespace StreamMesh.Yaml

/-- A place in a text; lines and columns are counted from zero. -/
structure Mark where
  index : Nat
  line : Nat
  column : Nat
  deriving DecidableEq, Repr, Inhabited

/-- What is wrong at a place. -/
inductive Problem where
  /-- No token starts with a character. -/
  | badStart (found : String)
  | keyWithoutColon
  | entryNotAllowed
  | keyNotAllowed
  | valueNotAllowed
  | expected (what found : String)
  | zeroIndent
  | unknownEscape (found : String)
  | unexpectedEnd
  | unexpectedSeparator
  | badEncoding (reason : String)
  /-- A flow collection goes on without a comma. -/
  | expectedComma (close found : String)
  | secondVersion
  | unsupportedVersion
  | secondHandle (handle : String)
  | unknownHandle (handle : String)
  | unknownAlias (name : String)
  | secondAnchor
  | secondDocument
  | unknownTag (tag : String)
  /-- A node is of another kind than its tag or its place asks for. -/
  | wrongNode (wanted found : String)
  | notSingle (count : Nat)
  | badKey
  | notAscii (reason : String)
  | badBase64 (reason : String)
  deriving DecidableEq, Repr

/-- A problem in words. -/
def Problem.message : Problem → String
  | badStart found => "found character " ++ Text.quoted found ++ " that cannot start any token"
  | keyWithoutColon => "could not find expected ':'"
  | entryNotAllowed => "sequence entries are not allowed here"
  | keyNotAllowed => "mapping keys are not allowed here"
  | valueNotAllowed => "mapping values are not allowed here"
  | expected what found => "expected " ++ what ++ ", but found " ++ Text.quoted found
  | zeroIndent => "expected indentation indicator in the range 1-9, but found 0"
  | unknownEscape found => "found unknown escape character " ++ Text.quoted found
  | unexpectedEnd => "found unexpected end of stream"
  | unexpectedSeparator => "found unexpected document separator"
  | badEncoding reason => reason
  | expectedComma close found => "expected ',' or '" ++ close ++ "', but got " ++ Text.quoted found
  | secondVersion => "found duplicate YAML directive"
  | unsupportedVersion => "found incompatible YAML document (version 1.* is required)"
  | secondHandle handle => "duplicate tag handle " ++ Text.quoted handle
  | unknownHandle handle => "found undefined tag handle " ++ Text.quoted handle
  | unknownAlias name => "found undefined alias " ++ Text.quoted name
  | secondAnchor => "second occurrence"
  | secondDocument => "but found another document"
  | unknownTag tag => "could not determine a constructor for the tag " ++ Text.quoted tag
  | wrongNode wanted found => "expected " ++ wanted ++ ", but found " ++ found
  | notSingle count => "expected a single mapping item, but found " ++ toString count ++ " items"
  | badKey => "found unhashable key"
  | notAscii reason => "failed to convert base64 data into ascii: " ++ reason
  | badBase64 reason => "failed to decode base64 data: " ++ reason

/-- The stage of reading at which a problem is found. -/
inductive Stage where
  | scanner
  | parser
  | composer
  | constructor
  deriving DecidableEq, Repr

/-- Why a text yields no value. -/
inductive Error where
  /-- A character that no document may hold, by its code point and position. -/
  | forbidden (code position : Nat)
  | at (stage : Stage) (problem : Problem) (mark : Mark)
  /-- A scalar spells no value of its type. -/
  | badSpelling (reason : String)
  /-- A word spells no truth value. -/
  | unknownWord (word : RawText)
  /-- A scalar is too short for its type. -/
  | tooShort
  /-- A spelling has no reading at all. -/
  | unreadable
  /-- A code point is too large for a machine word, or a number for a float. -/
  | tooLarge
  /-- A node with parts stands where text is needed. -/
  | notText
  /-- Collections stand in one another too deeply to be followed. -/
  | tooDeep
  deriving DecidableEq, Repr

/-- The message about a forbidden character of a named text. -/
def forbiddenMessage (source : String) (code position : Nat) : String :=
  "unacceptable character #x"
    ++ String.ofList (Text.hexDigits (max 4 (Nat.toDigits 16 code).length) code)
    ++ ": special characters are not allowed\n  in \"" ++ source ++ "\", position "
    ++ toString position

end StreamMesh.Yaml
