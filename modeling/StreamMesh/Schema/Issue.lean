import StreamMesh.Decimal.Whole
import StreamMesh.Value

/-!
# What is wrong with a document

A check of a document against a schema lists every defect it finds, each with the place where it
stands. Checks of the parts of a record run side by side and none hides another.

## Main definitions

* `Place` — a step on the way to a part of a document
* `Defect` — what can be wrong with a part
* `Issue` — a defect and where it stands
* `Checked` — a checked value, or the issues that were found

## Main results

* `Checked.seq_accepted_iff` — two checks side by side pass if and only if both pass
-/

namespace StreamMesh.Schema

/-- A step on the way to a part of a document. -/
inductive Place where
  | key (name : String)
  | index (n : Int)
  deriving DecidableEq, Repr

/-- Two to the power of 63, past the greatest number that fits in a word of 64 bits. -/
def wordEnd : Int := 0x8000000000000000

/-- The least and the greatest number that fit in a word of 64 bits. -/
def isWord (n : Int) : Bool := -wordEnd ≤ n && n < wordEnd

/-- The step to what stands under a key. A number too long to be written is only named by its
type. -/
def Place.ofKey : Value → Place
  | .str s => key s
  | .brokenStr t => key t.lossy
  | .bool b => index (if b then 1 else 0)
  | .int n =>
    if isWord n then index n
    else key (if Decimal.isWritable n then toString n else "<unprintable int object>")
  | v => key v.inner

/-- A step as text. -/
def Place.text : Place → String
  | key name => name
  | index n => toString n

/-- What can be wrong with a part of a document. -/
inductive Defect where
  | notText
  | emptyText
  | mismatch (pattern : String)
  | illFormedText
  | missing
  | unexpected
  | notList
  | notMapping
  /-- Not a mapping where a record with a name is expected. -/
  | notRecord (name : String)
  | badKey
  | emptyList
  | notOneOf (choices : String)
  | notWhole
  | unreadableWhole
  | fractional
  | outOfRange
  | notFinite
  | notNumber
  | unreadableNumber
  | notTruth
  | unreadableTruth
  | tooSmall (bound : String)
  | tooLarge (bound : String)
  /-- A rule of the record refuses the value. -/
  | refused (reason : RawText)
  deriving DecidableEq, Repr

/-- The short name of a defect. -/
def Defect.code : Defect → String
  | notText => "string_type"
  | emptyText => "string_too_short"
  | mismatch _ => "string_pattern_mismatch"
  | illFormedText => "string_unicode"
  | missing => "missing"
  | unexpected => "extra_forbidden"
  | notList => "list_type"
  | notMapping => "dict_type"
  | notRecord _ => "model_type"
  | badKey => "invalid_key"
  | emptyList => "too_short"
  | notOneOf _ => "enum"
  | notWhole => "int_type"
  | unreadableWhole => "int_parsing"
  | fractional => "int_from_float"
  | outOfRange => "int_parsing_size"
  | notFinite => "finite_number"
  | notNumber => "float_type"
  | unreadableNumber => "float_parsing"
  | notTruth => "bool_type"
  | unreadableTruth => "bool_parsing"
  | tooSmall _ => "greater_than_equal"
  | tooLarge _ => "less_than_equal"
  | refused _ => "value_error"

/-- A defect in a message. -/
def Defect.message : Defect → RawText
  | notText => "Input should be a valid string"
  | emptyText => "String should have at least 1 character"
  | mismatch pattern => "String should match pattern '" ++ pattern ++ "'"
  | illFormedText => "Input should be a valid string, unable to parse raw data as a unicode string"
  | missing => "Field required"
  | unexpected => "Extra inputs are not permitted"
  | notList => "Input should be a valid list"
  | notMapping => "Input should be a valid dictionary"
  | notRecord name => "Input should be a valid dictionary or instance of " ++ name
  | badKey => "Keys should be strings"
  | emptyList => "List should have at least 1 item after validation, not 0"
  | notOneOf choices => "Input should be " ++ choices
  | notWhole => "Input should be a valid integer"
  | unreadableWhole => "Input should be a valid integer, unable to parse string as an integer"
  | fractional => "Input should be a valid integer, got a number with a fractional part"
  | outOfRange => "Unable to parse input string as an integer, exceeded maximum size"
  | notFinite => "Input should be a finite number"
  | notNumber => "Input should be a valid number"
  | unreadableNumber => "Input should be a valid number, unable to parse string as a number"
  | notTruth => "Input should be a valid boolean"
  | unreadableTruth => "Input should be a valid boolean, unable to interpret input"
  | tooSmall bound => "Input should be greater than or equal to " ++ bound
  | tooLarge bound => "Input should be less than or equal to " ++ bound
  | refused reason => "Value error, " ++ reason

/-- The reason of a defect that cannot be encoded. -/
def Defect.unencodable? : Defect → Option BrokenText
  | refused (.broken t) => some t
  | _ => none

/-- A defect and the way from the top of the document to it. -/
structure Issue where
  place : List Place
  defect : Defect
  deriving DecidableEq, Repr

/-- A checked value, or the issues that were found. -/
inductive Checked (α : Type) where
  | accepted (a : α)
  | rejected (issues : List Issue)
  deriving Repr

namespace Checked

variable {α β : Type}

/-- The issues that were found. -/
def issues : Checked α → List Issue
  | accepted _ => []
  | rejected is => is

/-- A check that found one defect, right here. -/
def fail (d : Defect) : Checked α := rejected [⟨[], d⟩]

/-- Two checks side by side. -/
protected def seq (f : Checked (α → β)) (x : Checked α) : Checked β :=
  match f, x with
  | accepted f, accepted a => accepted (f a)
  | accepted _, rejected js => rejected js
  | rejected is, accepted _ => rejected is
  | rejected is, rejected js => rejected (is ++ js)

/-- A check, and then another of the result. -/
protected def bind (x : Checked α) (f : α → Checked β) : Checked β :=
  match x with
  | accepted a => f a
  | rejected is => rejected is

instance : Applicative Checked where
  pure := accepted
  seq f x := f.seq (x ())

/-- The issues of a check, one step further from the top. -/
def under (p : Place) : Checked α → Checked α
  | accepted a => accepted a
  | rejected is => rejected (is.map fun i => ⟨p :: i.place, i.defect⟩)

/-- A check of a record that cannot tell its keys apart: it says no more than that, unless a reason
has come up that cannot be encoded. -/
def spoiled : Checked α → Checked α
  | accepted _ => fail .illFormedText
  | rejected is =>
    rejected ((is.filter fun i => i.defect.unencodable?.isSome) ++ [⟨[], .illFormedText⟩])

/-- Checks of many values side by side. -/
def all : List (Checked α) → Checked (List α)
  | [] => accepted []
  | x :: rest => List.cons <$> x <*> all rest

theorem seq_accepted_iff {f : Checked (α → β)} {x : Checked α} {b : β} :
    f.seq x = accepted b ↔ ∃ g a, f = accepted g ∧ x = accepted a ∧ g a = b := by
  cases f <;> cases x <;> simp [Checked.seq]

end Checked

end StreamMesh.Schema
