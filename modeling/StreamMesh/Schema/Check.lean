import StreamMesh.Assoc
import StreamMesh.Schema.Lenient
import StreamMesh.Text.Pattern

/-!
# Checks of records, lists and mappings

A record is a mapping with known keys. Its fields are checked in the order in which the record
declares them, and keys that it does not know come after them, in the order of the document.

## Main definitions

* `record`, `required`, `optional`, `noOthers` — the parts of a record's check
* `items`, `texts` — lists, and mappings from text to text
* `textThat`, `nonEmptyText`, `wholeIn`, `share` — scalars with a further rule
-/

namespace StreamMesh.Schema

variable {α : Type}

/-- Whether a key is a text that is no string. -/
def isBrokenKey : Value → Bool
  | .brokenStr _ => true
  | _ => false

/-- Whether some key of a mapping is a text that is no string. -/
def hasBrokenKey (entries : List (Value × Value)) : Bool := entries.any fun e => isBrokenKey e.1

/-- A record named `name`, whose entries pass `check`. A broken key ends the search for keys that
the record does not know. -/
def record (name : String) (check : List (Value × Value) → Checked α) : Value → Checked α
  | .map entries =>
    if hasBrokenKey entries then (check entries).spoiled else check entries
  | _ => .fail (.notRecord name)

/-- The field `key` of a record, which has to be there. -/
def required (key : String) (check : Value → Checked α) (entries : List (Value × Value)) :
    Checked α :=
  Checked.under (.key key) (match Value.entry? key entries with
    | some v => check v
    | none => .fail .missing)

/-- The field `key` of a record, or what stands for it where it is absent. -/
def optional (key : String) (absent : α) (check : Value → Checked α)
    (entries : List (Value × Value)) : Checked α :=
  match Value.entry? key entries with
  | some v => (check v).under (.key key)
  | none => .accepted absent

/-- The text that a key spells, if it is a text. -/
def keyText? : Value → Option String
  | .str s => some s
  | .bytes data => textOfBytes? data
  | _ => none

/-- The issue with a key of a record in which the fields `given` are found, if there is one. -/
def keyIssue (given : List String) (key : Value) : Option Issue :=
  match keyText? key with
  | some s => if given.contains s then none else some ⟨[Place.ofKey key], .unexpected⟩
  | none => some ⟨[Place.ofKey key], .badKey⟩

/-- Refuses keys that are not fields of the record. -/
def noOthers (known : List String) (entries : List (Value × Value)) : Checked Unit :=
  let given := known.filter fun name => (Value.entry? name entries).isSome
  match entries.filterMap fun e => keyIssue given e.1 with
  | [] => .accepted ()
  | issues => .rejected issues

/-- The members of a list, whatever kind of list it is. -/
def members? : Value → Option (List Value)
  | .list xs => some xs
  | .tuple xs => some xs
  | .set xs => some xs
  | _ => none

/-- A list whose items pass `check`. -/
def items (check : Value → Checked α) (v : Value) : Checked (List α) :=
  match members? v with
  | none => .fail .notList
  | some xs => Checked.all (xs.zipIdx.map fun (x, i) => (check x).under (.index i))

/-- A list with at least one item. -/
def someItems (check : Value → Checked α) (v : Value) : Checked (List α) :=
  (items check v).bind fun xs => if xs.isEmpty then .fail .emptyList else .accepted xs

/-- One entry of a mapping from text to text. -/
def textEntry (entry : Value × Value) : Checked (RawText × RawText) :=
  let place := Place.ofKey entry.1
  Prod.mk <$> ((text entry.1).under (.key "[key]")).under place <*> (text entry.2).under place

/-- A mapping from text to text. -/
def texts : Value → Checked (Assoc RawText RawText)
  | .map entries => Assoc.ofList <$> Checked.all (entries.map textEntry)
  | _ => .fail .notMapping

/-- A value or nothing. -/
def nullable (check : Value → Checked α) : Value → Checked (Option α)
  | .null => .accepted none
  | v => some <$> check v

/-- A string that passes a further rule, or has the defect that the rule names. -/
def textThat (rule : String → Option Defect) (v : Value) : Checked String :=
  (string v).bind fun s => match rule s with
    | none => .accepted s
    | some d => .fail d

/-- A string with at least one character. -/
def nonEmptyText : Value → Checked String :=
  textThat fun s => if s.isEmpty then some .emptyText else none

/-- The least and the greatest value of a number, where there are such. -/
structure Bounds where
  low : Int
  high : Option Int

/-- The defect of a whole number out of bounds. -/
def Bounds.defect? (b : Bounds) (n : Int) : Option Defect :=
  match b.high with
  | some high => if high < n then some (.tooLarge (toString high)) else lowDefect?
  | none => lowDefect?
where
  lowDefect? : Option Defect := if n < b.low then some (.tooSmall (toString b.low)) else none

/-- A whole number within bounds. -/
def wholeIn (b : Bounds) (v : Value) : Checked Int :=
  (whole v).bind fun n => match b.defect? n with
    | none => .accepted n
    | some d => .fail d

/-- A number from zero to one. What is no number counts as too large. -/
def share (v : Value) : Checked Float :=
  (number v).bind fun x =>
    if !(x ≤ 1.0) then .fail (.tooLarge "1")
    else if !(x ≥ 0.0) then .fail (.tooSmall "0")
    else .accepted x

end StreamMesh.Schema
