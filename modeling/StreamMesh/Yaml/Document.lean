import StreamMesh.Yaml.Node.OfTokens
import StreamMesh.Yaml.Node.Value
import StreamMesh.Yaml.Token.Scan

/-!
# Documents

A text holds at most one document, and a document one value. Quoted texts may spell surrogates, so
the texts in a value need not be strings.

Whole numbers of more than 4300 digits in base ten, and versions of that length, are refused. How
deep collections may be nested is not limited here, though an interpreter with a bounded stack gives
up on some hundred levels; what is proved of commands therefore leaves the reading of documents
open.

## Main definitions

* `isAllowed` — the characters that a text may hold
* `documentValue` — the value of a text
-/

namespace StreamMesh.Yaml

/-- Whether a text may hold a character: all but the control characters, tabs and line ends aside,
and the two that stand for no character. -/
def isAllowed (c : Char) : Bool :=
  c == '\t' || c == '\n' || c == '\r' || c.toNat == 0x85
    || (0x20 ≤ c.toNat && c.toNat ≤ 0x7E) || (0xA0 ≤ c.toNat && c.toNat ≤ 0xFFFD)
    || 0x10000 ≤ c.toNat

/-- The first character that a text may not hold, as an error. -/
def forbidden? (cs : List Char) : Option Error :=
  let (before, rest) := cs.span isAllowed
  rest.head?.map fun c => .forbidden c.toNat before.length

/-- The value of a text; a text without a document has no value. -/
def documentValue (text : String) : Except Error Value :=
  match forbidden? text.toList with
  | some e => .error e
  | none => do
    match ← Node.ofTokens? (scan text.toList) with
    | none => return .null
    | some n => n.toValue

end StreamMesh.Yaml
