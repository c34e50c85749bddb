import StreamMesh.Decimal.Binary
import StreamMesh.Decimal.Whole
import StreamMesh.Text.Blank
import StreamMesh.Text.Digit
import StreamMesh.Text.Pieces
import StreamMesh.Yaml.Error

/-!
# Numbers and truth values

The tag of a scalar may ask for a number whatever the spelling is, so a spelling can fail here that
no pattern has let through.

## Main definitions

* `wholeValue` — whole numbers in base two, eight, ten, sixteen or sixty
* `floatValue` — decimal fractions in base ten or sixty, infinities, and no number
* `boolValue` — truth values
-/

namespace StreamMesh.Yaml

/-- The value of a digit in some base. -/
def digitValue? (base : Nat) (c : Char) : Option Nat :=
  let v :=
    if '0' ≤ c ∧ c ≤ '9' then c.toNat - '0'.toNat
    else if 'a' ≤ c ∧ c ≤ 'f' then c.toNat - 'a'.toNat + 10
    else if 'A' ≤ c ∧ c ≤ 'F' then c.toNat - 'A'.toNat + 10
    else base
  if v < base then some v else none

/-- The value of a row of digits in some base, of which there has to be one. -/
def digitsValue? (base : Nat) (cs : List Char) : Option Nat :=
  if cs.isEmpty then none
  else cs.foldlM (fun n c => (digitValue? base c).map fun d => n * base + d) 0

/-- What marks a base before the digits. -/
def baseLetters (base : Nat) : List Char :=
  if base = 2 then ['b', 'B']
  else if base = 8 then ['o', 'O']
  else if base = 16 then ['x', 'X']
  else []

/-- Digits without a zero and a letter that mark their base. -/
def dropBaseMark (base : Nat) : List Char → List Char
  | '0' :: c :: rest => if (baseLetters base).contains c then rest else '0' :: c :: rest
  | cs => cs

/-- A sign and what follows it. -/
def splitSign : List Char → Bool × List Char
  | '-' :: rest => (true, rest)
  | '+' :: rest => (false, rest)
  | cs => (false, cs)

/-- A number with its sign. -/
def signed (negative : Bool) (n : Int) : Int := if negative then -n else n

/-- A whole number in some base, with blanks around it, in digits of any script. -/
def readWhole (base : Nat) (cs : List Char) : Except Error Int :=
  let (negative, ds) := splitSign ((Text.trim cs).map Text.plainDigit)
  match digitsValue? base (dropBaseMark base ds) with
  | none =>
    .error (.badSpelling ("invalid literal for int() with base " ++ toString base ++ ": "
      ++ Text.quoted (String.ofList cs)))
  | some n =>
    if base = 10 ∧ Decimal.maxDigits < ds.length then
      .error (.badSpelling (Decimal.tooLongToRead ds.length))
    else .ok (signed negative n)

/-- A whole number of a scalar; underscores are passed over. -/
def wholeValue (cs : List Char) : Except Error Int := do
  let cs := cs.filter (· != '_')
  if cs.isEmpty then throw .tooShort
  let (negative, ds) := splitSign cs
  match ds with
  | [] => throw .tooShort
  | '0' :: 'b' :: rest => return signed negative (← readWhole 2 rest)
  | '0' :: 'x' :: rest => return signed negative (← readWhole 16 rest)
  | '0' :: rest => if rest.isEmpty then return 0 else return signed negative (← readWhole 8 ds)
  | _ =>
    if ds.contains ':' then
      let parts ← (Text.pieces ':' ds).mapM (readWhole 10)
      return signed negative (parts.foldl (fun n d => n * 60 + d) 0)
    else return signed negative (← readWhole 10 ds)

/-- What is said of a spelling of no decimal fraction. -/
def notFloat (cs : List Char) : Error :=
  .badSpelling ("could not convert string to float: " ++ Text.quoted (String.ofList cs))

/-- A power of ten after its letter. -/
def powerOf? (cs : List Char) : Option Int :=
  let (negative, ds) := splitSign cs
  (digitsValue? 10 ds).map fun n => signed negative n

/-- A decimal fraction without sign or blanks. -/
def bareFloat? (negative : Bool) (cs : List Char) : Option Float :=
  let word := String.ofList cs
  if word = "inf" ∨ word = "infinity" then some (if negative then -1.0 / 0.0 else 1.0 / 0.0)
  else if word = "nan" then some (0.0 / 0.0)
  else
    let (whole, rest) := cs.span Char.isDigit
    let (fraction, rest) := match rest with
      | '.' :: more => more.span Char.isDigit
      | rest => ([], rest)
    if whole.isEmpty && fraction.isEmpty then none
    else do
      let n ← digitsValue? 10 (whole ++ fraction)
      let power ← match rest with
        | [] => some 0
        | c :: more => if c = 'e' then powerOf? more else none
      return Decimal.nearestFloat negative n (power - fraction.length)

/-- A decimal fraction with blanks around it, in digits of any script. -/
def readFloat (cs : List Char) : Except Error Float :=
  let (negative, rest) := splitSign ((Text.trim cs).map Text.plainDigit)
  match bareFloat? negative rest with
  | some x => .ok x
  | none => .error (notFloat cs)

/-- Adds a fraction to those after it, with what it counts; that has to fit in a float. -/
def addSixties (after : Float × Nat) (x : Float) : Except Error (Float × Nat) :=
  let weight := Decimal.nearestFloat false after.2 0
  if weight.isInf then .error .tooLarge else .ok (after.1 + x * weight, after.2 * 60)

/-- The sum of fractions, each of which counts sixty times the one after it. -/
def sixtiesValue (parts : List Float) : Except Error Float := do
  return (← parts.reverse.foldlM addSixties (0.0, 1)).1

/-- A decimal fraction of a scalar; underscores are passed over. -/
def floatValue (cs : List Char) : Except Error Float := do
  let cs := (cs.filter (· != '_')).map Char.toLower
  if cs.isEmpty then throw .tooShort
  let (negative, ds) := splitSign cs
  let sign : Float := if negative then -1.0 else 1.0
  if ds = ".inf".toList then return sign * (1.0 / 0.0)
  if ds = ".nan".toList then return 0.0 / 0.0
  if ds.contains ':' then
    let parts ← (Text.pieces ':' ds).mapM readFloat
    return sign * (← sixtiesValue parts)
  return sign * (← readFloat ds)

/-- The truth value of a word. -/
def boolValue (cs : List Char) : Except Error Bool :=
  let word := String.ofList (cs.map Char.toLower)
  if ["yes", "true", "on"].contains word then .ok true
  else if ["no", "false", "off"].contains word then .ok false
  else .error (.unknownWord (word : String))

end StreamMesh.Yaml
