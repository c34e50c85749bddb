import StreamMesh.Schema.Issue
import StreamMesh.Text.Blank

/-!
# Lenient readings of scalars

A number or a truth value may also be given as a text, and one kind of number for another. The
readings say which spellings are taken and which defect the others have.

## Main definitions

* `wholeOfText`, `numberOfText?` — numbers from their spelling
* `whole`, `number`, `truth` — whole numbers, numbers and truth values from document values
* `text`, `string` — texts, which are never made from other scalars, and those that are strings
-/

namespace StreamMesh.Schema

/-- The value of a row of decimal digits. -/
def natOfDigits (ds : List Char) : Nat :=
  ds.foldl (fun n c => n * 10 + (c.toNat - '0'.toNat)) 0

/-- A spelling without the zeros before its first other digit. Underscores among these zeros go as
well, and one digit always stays. -/
def dropLeadingZeros : List Char → Option (List Char)
  | '0' :: rest => go '0' rest
  | c :: rest => if c.isDigit || c == '-' then some (c :: rest) else none
  | [] => none
where
  go (last : Char) : List Char → Option (List Char)
    | [] => some [last]
    | c :: rest =>
      if c == '0' || c == '_' then go c rest
      else if c.isDigit then some (c :: rest)
      else if c == '.' then some (last :: c :: rest)
      else none

/-- A spelling without a fraction of zeros at its end. -/
def dropZeroFraction (cs : List Char) : List Char :=
  match cs.span (· != '.') with
  | (whole, '.' :: fraction) =>
    if !fraction.isEmpty && fraction.all (· == '0') then whole else cs
  | _ => cs

/-- Whether two underscores stand side by side. -/
def doubleUnderscore : List Char → Bool
  | a :: b :: rest => (a == '_' && b == '_') || doubleUnderscore (b :: rest)
  | _ => false

/-- A spelling without its underscores, if each of them stands between two other characters. -/
def dropUnderscores (cs : List Char) : Option (List Char) :=
  if cs.head? == some '_' || cs.getLast? == some '_' || doubleUnderscore cs then none
  else some (cs.filter (· != '_'))

/-- A whole number without signs of grouping: no zero leads it. -/
def strictWhole (cs : List Char) : Checked Int :=
  let (negative, ds) := match cs with
    | '-' :: ds => (true, ds)
    | ds => (false, ds)
  if ds.isEmpty || !ds.all Char.isDigit || (1 < ds.length && ds.head? == some '0') then
    .fail .unreadableWhole
  else if Decimal.maxDigits < ds.length then .fail .outOfRange
  else .accepted (if negative then -(natOfDigits ds : Int) else natOfDigits ds)

/-- A whole number: blanks around it, a plus, leading zeros, single underscores between digits and
a fraction of zeros are passed over. -/
def wholeOfText (s : String) : Checked Int :=
  let cs := match Text.trim s.toList with
    | '+' :: '-' :: _ => []
    | '+' :: rest => rest
    | cs => cs
  match (dropLeadingZeros cs).bind fun cs => dropUnderscores (dropZeroFraction cs) with
  | none => .fail .unreadableWhole
  | some cs => strictWhole cs

/-- The words for the values that no digits spell. -/
def namedNumber? (cs : List Char) : Option Float :=
  let word := String.ofList (cs.map Char.toLower)
  if word = "inf" ∨ word = "infinity" then some (1.0 / 0.0)
  else if word = "nan" then some (0.0 / 0.0)
  else none

/-- A signed power of ten after its letter. -/
def exponentOf? (cs : List Char) : Option Int :=
  let (negative, ds) := match cs with
    | '-' :: ds => (true, ds)
    | '+' :: ds => (false, ds)
    | ds => (false, ds)
  if ds.isEmpty || !ds.all Char.isDigit then none
  else some (if negative then -(natOfDigits ds : Int) else natOfDigits ds)

/-- A decimal number: digits with a point before, among or after them, and a power of ten. -/
def decimal? (negative : Bool) (cs : List Char) : Option Float :=
  let (whole, rest) := cs.span Char.isDigit
  let (fraction, rest) := match rest with
    | '.' :: more => more.span Char.isDigit
    | rest => ([], rest)
  if whole.isEmpty && fraction.isEmpty then none
  else
    let power := match rest with
      | [] => some 0
      | c :: more => if c == 'e' || c == 'E' then exponentOf? more else none
    power.map fun e =>
      Decimal.nearestFloat negative (natOfDigits (whole ++ fraction)) (e - fraction.length)

/-- A number without blanks around it. -/
def bareNumber? (cs : List Char) : Option Float :=
  let (negative, cs) := match cs with
    | '-' :: rest => (true, rest)
    | '+' :: rest => (false, rest)
    | cs => (false, cs)
  match namedNumber? cs with
  | some x => some (if negative then -x else x)
  | none => decimal? negative cs

/-- A number: blanks around it are passed over, or single underscores between digits. -/
def numberOfText? (s : String) : Option Float :=
  match bareNumber? (Text.trim s.toList) with
  | some x => some x
  | none => (dropUnderscores s.toList).bind bareNumber?

/-- The text that a byte string encodes, if it is a valid encoding. -/
def textOfBytes? (data : List UInt8) : Option String :=
  String.fromUTF8? ⟨data.toArray⟩

/-- A text. Bytes that encode one are taken for it; other scalars are not. -/
def text : Value → Checked RawText
  | .str s => .accepted s
  | .brokenStr t => .accepted (.broken t)
  | .bytes data =>
    match textOfBytes? data with
    | some s => .accepted s
    | none => .fail .illFormedText
  | _ => .fail .notText

/-- A text that is a string. -/
def string (v : Value) : Checked String :=
  (text v).bind fun
    | .whole s => .accepted s
    | .broken _ => .fail .illFormedText

/-- The whole number that a float stands for, if it fits in a word. -/
def wholeOfFloat (x : Float) : Checked Int :=
  if x.isNaN || x.isInf then .fail .notFinite
  else match Decimal.wholeNumber? x with
    | none => .fail .fractional
    | some n => if -wordEnd < n ∧ n < wordEnd then .accepted n else .fail .outOfRange

/-- A whole number, of any size unless it is given as a float. -/
def whole : Value → Checked Int
  | .int n => .accepted n
  | .bool b => .accepted (if b then 1 else 0)
  | .float x => wholeOfFloat x
  | .str s => wholeOfText s
  | .brokenStr _ => .fail .illFormedText
  | .bytes data => match textOfBytes? data with
    | some s => wholeOfText s
    | none => .fail .unreadableWhole
  | _ => .fail .notWhole

/-- The float nearest to a whole number. -/
def floatOfInt (n : Int) : Float := Decimal.nearestFloat (n < 0) n.natAbs 0

/-- A number. -/
def number : Value → Checked Float
  | .float x => .accepted x
  | .bool b => .accepted (if b then 1.0 else 0.0)
  | .int n => let x := floatOfInt n; if x.isInf then .fail .notNumber else .accepted x
  | .str s => match numberOfText? s with
    | some x => .accepted x
    | none => .fail .unreadableNumber
  | .brokenStr _ => .fail .illFormedText
  | .bytes data => match (textOfBytes? data).bind numberOfText? with
    | some x => .accepted x
    | none => .fail .unreadableNumber
  | _ => .fail .notNumber

/-- A truth value from its number: one or zero. -/
def truthOfWhole (n : Int) : Checked Bool :=
  if n = 0 then .accepted false else if n = 1 then .accepted true else .fail .unreadableTruth

/-- A truth value from a word, in letters of either case. -/
def truthOfText (s : String) : Checked Bool :=
  let word := String.ofList (s.toList.map Char.toLower)
  if ["0", "f", "n", "no", "off", "false"].contains word then .accepted false
  else if ["1", "t", "y", "on", "yes", "true"].contains word then .accepted true
  else .fail .unreadableTruth

/-- A truth value. Numbers too large for a word count as no truth value at all. -/
def truth : Value → Checked Bool
  | .bool b => .accepted b
  | .int n => if isWord n then truthOfWhole n else .fail .notTruth
  | .float x => match wholeOfFloat x with
    | .accepted n => truthOfWhole n
    | .rejected _ => .fail .notTruth
  | .str s => truthOfText s
  | .brokenStr _ => .fail .illFormedText
  | .bytes data => match textOfBytes? data with
    | some s => truthOfText s
    | none => .fail .unreadableTruth
  | _ => .fail .notTruth

end StreamMesh.Schema
