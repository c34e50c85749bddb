import StreamMesh.Assoc
import StreamMesh.Console.Markup
import StreamMesh.Console.Table
import StreamMesh.Text.Raw

/-!
# Notices

What a command tells its user: messages with a sign for their kind in front, and the order of nodes
as a table. Messages and names may hold markup. A message with a surrogate cannot be encoded for a
console.

## Main definitions

* `Notice` — what is told
* `Notice.shown?` — how it is shown, if its markup is well formed and its text can be encoded
-/

namespace StreamMesh

/-- What a command tells its user. -/
inductive Notice where
  | success (message : RawText)
  | failure (message : RawText)
  | warning (message : RawText)
  | info (message : RawText)
  /-- The order of some nodes, where asked for with the kinds of those that have one. -/
  | order (names : List String) (kinds : Option (Assoc String String))
  deriving DecidableEq, Repr

namespace Notice

/-- A sign in a colour, as markup. -/
def painted (colour sign : String) : String :=
    "[" ++ colour ++ "]" ++ sign ++ "[/" ++ colour ++ "] "

/-- A message with the sign for its kind, as markup. -/
def signed : Notice → RawText
  | success message => painted "green" "✓" ++ message
  | failure message => painted "red" "✗" ++ message
  | warning message => painted "yellow" "⚠" ++ message
  | info message => message
  | order .. => ""

/-- Lines with spaces for their tabs, each ended by a line feed. -/
def printLines (lines : List (List Char)) : String :=
  String.join (lines.map fun line => String.ofList (Text.expandTabs 0 line ++ ['\n']))

section Handlers

/- Which parameters of handlers can be read. -/
variable (readable : List Char → Bool)

/-- How a message is shown. -/
def messageShown? : RawText → Option String
  | .whole message =>
    (Markup.plain? readable message).map fun s => printLines (Text.pieces '\n' s.toList)
  | .broken _ => none

/-- The columns of a table of nodes. -/
def columns (withKinds : Bool) : List Column :=
  [⟨"#", true⟩, ⟨"Node", false⟩] ++ if withKinds then [⟨"Kind", false⟩] else []

/-- The cell for the kind of a node. -/
def kindCell? (kinds : Option (Assoc String String)) (name : String) : Option (List String) :=
  match kinds with
  | none => some []
  | some m => (Markup.plain? readable ((m.find? name).getD "")).map fun s => [s]

/-- The rows of a table of nodes, from a position on. -/
def rows? (kinds : Option (Assoc String String)) : Nat → List String → Option (List (List String))
  | _, [] => some []
  | position, name :: rest => do
    let node ← Markup.plain? readable name
    let kind ← kindCell? readable kinds name
    let more ← rows? kinds (position + 1) rest
    return (toString position :: node :: kind) :: more

/-- How the order of nodes is shown. -/
def orderShown? (names : List String) (kinds : Option (Assoc String String)) : Option String :=
  (rows? readable kinds 1 names).map fun rows =>
    printLines ((Table.draw ⟨"Compilation order", columns kinds.isSome, rows⟩).map String.toList)

/-- How a notice is shown, if its markup is well formed and its text can be encoded. -/
def shown? : Notice → Option String
  | order names kinds => orderShown? readable names kinds
  | n => messageShown? readable n.signed

/-- How several notices are shown, one after the other. -/
def allShown? (notices : List Notice) : Option String :=
  (notices.mapM (shown? readable)).map String.join

end Handlers

end Notice

end StreamMesh
