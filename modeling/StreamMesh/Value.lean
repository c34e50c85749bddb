import StreamMesh.Decimal.Notation
import StreamMesh.Text.Raw

/-!
# Document values

What a document holds before anything is known about its meaning: scalars of many types, lists,
and mappings whose keys are values as well.

## Main definitions

* `Value` — a value of a document
* `Value.sameKey` — whether two keys of a mapping are one
* `Value.isBlank` — the values that count as nothing
* `Value.text`, `Value.ofRaw` — a value in a message, and a text as a value
-/

namespace StreamMesh

/-- A point in time: a date, a time of day, and the minutes between its zone and universal time. -/
structure Moment where
  year : Nat
  month : Nat
  day : Nat
  hour : Nat
  minute : Nat
  second : Nat
  microsecond : Nat
  offset : Option Int
  deriving DecidableEq, Repr, Inhabited

/-- A value of a document. -/
inductive Value where
  | null
  | bool (b : Bool)
  | int (n : Int)
  | float (x : Float)
  | str (s : String)
  /-- A text that is no string. -/
  | brokenStr (t : BrokenText)
  | bytes (data : List UInt8)
  | date (year month day : Nat)
  | moment (m : Moment)
  | list (items : List Value)
  /-- A list that can be a key. -/
  | tuple (items : List Value)
  | set (items : List Value)
  | map (entries : List (Value × Value))
  deriving Inhabited

/-- Days since the first day of year zero, in the calendar without a gap. -/
def daysBefore (year month day : Nat) : Nat :=
  let before := year - 1
  let leap := year % 4 = 0 ∧ (year % 100 ≠ 0 ∨ year % 400 = 0)
  let months := [31, if leap then 29 else 28, 31, 30, 31, 30, 31, 31, 30, 31, 30, 31]
  let earlier := (months.take (month - 1)).foldl (· + ·) 0
  before * 365 + before / 4 - before / 100 + before / 400 + earlier + day

/-- Microseconds since the first day, seen from the moment's own zone. -/
def Moment.ticks (m : Moment) : Int :=
  let minutes := (daysBefore m.year m.month m.day * 24 + m.hour) * 60 + m.minute
  ((minutes * 60 + m.second) * 1000000 + m.microsecond : Nat)

/-- Whether two moments are one: both without a zone, or the same instant. -/
def Moment.same (a b : Moment) : Bool :=
  match a.offset, b.offset with
  | none, none => a.ticks == b.ticks
  | some x, some y => a.ticks - x * 60000000 == b.ticks - y * 60000000
  | _, _ => false

/-- A number in at least `count` digits. -/
def padded (count n : Nat) : String :=
  let ds := Nat.toDigits 10 n
  String.ofList (List.replicate (count - ds.length) '0' ++ ds)

/-- A date as year, month and day. -/
def dateText (year month day : Nat) : String :=
  padded 4 year ++ "-" ++ padded 2 month ++ "-" ++ padded 2 day

/-- A moment as date, time and zone. -/
def Moment.text (m : Moment) : String :=
  dateText m.year m.month m.day ++ " " ++ padded 2 m.hour ++ ":" ++ padded 2 m.minute ++ ":"
    ++ padded 2 m.second ++ (if m.microsecond = 0 then "" else "." ++ padded 6 m.microsecond)
    ++ match m.offset with
      | none => ""
      | some x =>
        (if x < 0 then "-" else "+") ++ padded 2 (x.natAbs / 60) ++ ":" ++ padded 2 (x.natAbs % 60)

/-- One byte in a message. -/
def byteText (b : UInt8) : List Char :=
  if b.toNat < 128 then Text.quotedChar '\'' (Char.ofNat b.toNat)
  else '\\' :: 'x' :: Text.hexDigits 2 b.toNat

namespace Value

/-- The number that a value is, if it is a number without a fractional part. -/
def whole? : Value → Option Int
  | bool b => some (if b then 1 else 0)
  | int n => some n
  | float x => Decimal.wholeNumber? x
  | _ => none

/-- Whether two keys of a mapping are one. Numbers are compared by what they count, truth values
being one and zero; a float that is no number is the same as itself. -/
def sameKey (a b : Value) : Bool :=
  match a, b with
  | null, null => true
  | str s, str t => s == t
  | brokenStr s, brokenStr t => s == t
  | bytes s, bytes t => s == t
  | date y m d, date y' m' d' => y == y' && m == m' && d == d'
  | moment m, moment n => m.same n
  | tuple xs, tuple ys => sameKeys xs ys
  | a, b =>
    match a.whole?, b.whole?, a, b with
    | some m, some n, _, _ => m == n
    | none, none, float x, float y => x == y || (x.isNaN && y.isNaN)
    | _, _, _, _ => false
where
  sameKeys : List Value → List Value → Bool
    | [], [] => true
    | x :: xs, y :: ys => sameKey x y && sameKeys xs ys
    | _, _ => false

/-- Whether a value counts as nothing: null, false, zero, or empty. -/
def isBlank : Value → Bool
  | null => true
  | bool b => !b
  | int n => n == 0
  | float x => x == 0.0
  | str s => s.isEmpty
  | brokenStr _ => false
  | bytes data => data.isEmpty
  | date .. => false
  | moment _ => false
  | list items => items.isEmpty
  | tuple items => items.isEmpty
  | set items => items.isEmpty
  | map entries => entries.isEmpty

/-- The value if it counts for something, and otherwise an empty mapping. -/
def orEmpty (v : Value) : Value := if v.isBlank then map [] else v

mutual

/-- A value as part of another in a message: texts are quoted. -/
def inner : Value → String
  | null => "None"
  | bool b => if b then "True" else "False"
  | int n => toString n
  | float x => Decimal.floatText x
  | str s => Text.quoted s
  | brokenStr t => t.quoted
  | bytes data => "b'" ++ String.ofList (data.flatMap byteText) ++ "'"
  | date y m d => dateText y m d
  | moment m => m.text
  | list items => "[" ++ String.intercalate ", " (inners items) ++ "]"
  | tuple [item] => "(" ++ item.inner ++ ",)"
  | tuple items => "(" ++ String.intercalate ", " (inners items) ++ ")"
  | set items => "\x7b" ++ String.intercalate ", " (inners items) ++ "\x7d"
  | map entries => "\x7b" ++ String.intercalate ", " (innerEntries entries) ++ "\x7d"

/-- The parts of a value in a message. -/
def inners : List Value → List String
  | [] => []
  | item :: rest => item.inner :: inners rest

/-- The entries of a mapping in a message. -/
def innerEntries : List (Value × Value) → List String
  | [] => []
  | (key, value) :: rest => (key.inner ++ ": " ++ value.inner) :: innerEntries rest

end

/-- A value in a message: texts stand as they are. -/
def text : Value → RawText
  | str s => s
  | brokenStr t => .broken t
  | v => v.inner

/-- A text as a value. -/
def ofRaw : RawText → Value
  | .whole s => str s
  | .broken t => brokenStr t

/-- Adds an entry to those of a mapping: in place if the key is known, at the end otherwise. -/
def putEntry (key value : Value) : List (Value × Value) → List (Value × Value)
  | [] => [(key, value)]
  | (key', value') :: rest =>
    if key'.sameKey key then (key', value) :: rest else (key', value') :: putEntry key value rest

/-- The mapping of a list of pairs: each key at its first place with its last value. -/
def ofEntries (pairs : List (Value × Value)) : Value :=
  map (pairs.foldl (fun entries p => putEntry p.1 p.2 entries) [])

/-- What a mapping's entries hold under a text. -/
def entry? (key : String) : List (Value × Value) → Option Value
  | [] => none
  | (str s, value) :: rest => if s = key then some value else entry? key rest
  | _ :: rest => entry? key rest

end Value

end StreamMesh
