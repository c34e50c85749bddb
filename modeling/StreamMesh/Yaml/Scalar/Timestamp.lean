import StreamMesh.Value
import StreamMesh.Yaml.Scalar.Number

/-!
# Dates and moments

## Main definitions

* `timestampValue` — a date, or a date with a time of day and a zone
-/

namespace StreamMesh.Yaml

/-- A number of at least `least` and at most `most` digits, and what follows it. -/
def readDigits (least most : Nat) (cs : List Char) : Option (Nat × List Char) :=
  let ds := (cs.take most).takeWhile Char.isDigit
  if ds.length < least then none else (digitsValue? 10 ds).map fun n => (n, cs.drop ds.length)

/-- What follows a given character. -/
def after? (c : Char) : List Char → Option (List Char)
  | d :: rest => if d = c then some rest else none
  | [] => none

/-- Whether a character is a space or a tab. -/
def isTabOrSpace (c : Char) : Bool := c == ' ' || c == '\t'

/-- The zone of a moment: whether it is named, and its minutes. -/
def readZone (cs : List Char) : Option (Option Int × List Char) :=
  match cs.dropWhile isTabOrSpace with
  | 'Z' :: rest => some (some 0, rest)
  | c :: rest =>
    if c = '+' ∨ c = '-' then do
      let (hours, rest) ← readDigits 1 2 rest
      let (minutes, rest) := match after? ':' rest with
        | some more => match readDigits 2 2 more with
          | some (n, more) => (n, more)
          | none => (0, rest)
        | none => (0, rest)
      return (some (signed (c = '-') (hours * 60 + minutes : Nat)), rest)
    else some (none, cs)
  | [] => some (none, cs)

/-- The microseconds of a fraction of a second, from its first six digits. -/
def microseconds (ds : List Char) : Nat :=
  ((ds.take 6 ++ List.replicate (6 - ds.length) '0').foldl
    (fun n c => n * 10 + (c.toNat - '0'.toNat)) 0)

/-- A fraction of a second, if there is one. -/
def readFraction (cs : List Char) : Nat × List Char :=
  match after? '.' cs with
  | some rest => (microseconds (rest.takeWhile Char.isDigit), rest.dropWhile Char.isDigit)
  | none => (0, cs)

/-- The time of day after a date, with its zone. -/
def readTime (cs : List Char) : Option (Nat × Nat × Nat × Nat × Option Int × List Char) := do
  let cs ← match cs with
    | 'T' :: rest => some rest
    | 't' :: rest => some rest
    | c :: rest => if isTabOrSpace c then some (rest.dropWhile isTabOrSpace) else none
    | [] => none
  let (hour, cs) ← readDigits 1 2 cs
  let (minute, cs) ← readDigits 2 2 (← after? ':' cs)
  let (second, cs) ← readDigits 2 2 (← after? ':' cs)
  let (fraction, cs) := readFraction cs
  let (zone, cs) ← readZone cs
  return (hour, minute, second, fraction, zone, cs)

/-- A date or a moment, before its numbers are checked. -/
inductive RawTimestamp where
  | date (year month day : Nat)
  | moment (m : Moment)

/-- Whether nothing but a line feed is left. -/
def isDone (cs : List Char) : Bool := cs.isEmpty || cs == ['\n']

/-- The numbers of a date or a moment. -/
def readTimestamp (cs : List Char) : Option RawTimestamp := do
  let (year, cs) ← readDigits 4 4 cs
  let (month, cs) ← readDigits 1 2 (← after? '-' cs)
  let (day, cs) ← readDigits 1 2 (← after? '-' cs)
  if isDone cs then return .date year month day
  let (hour, minute, second, fraction, zone, cs) ← readTime cs
  if isDone cs then return .moment ⟨year, month, day, hour, minute, second, fraction, zone⟩
  else none

/-- How many days a month has. -/
def monthLength (year month : Nat) : Nat :=
  if month = 2 then
    if year % 4 = 0 ∧ (year % 100 ≠ 0 ∨ year % 400 = 0) then 29 else 28
  else if month = 4 ∨ month = 6 ∨ month = 9 ∨ month = 11 then 30
  else 31

/-- What is wrong with a date. -/
def dateDefect? (year month day : Nat) : Option String :=
  if year = 0 then some "year 0 is out of range"
  else if month = 0 ∨ 12 < month then some "month must be in 1..12"
  else if day = 0 ∨ monthLength year month < day then some "day is out of range for month"
  else none

/-- The days and seconds of some minutes, seconds being less than a day. -/
def spanText (minutes : Int) : String :=
  let days := minutes.fdiv 1440
  let seconds := minutes.fmod 1440 * 60
  "datetime.timedelta(days=" ++ toString days
    ++ (if seconds = 0 then "" else ", seconds=" ++ toString seconds) ++ ")"

/-- What is wrong with a zone: it has to be less than a day away. -/
def zoneDefect? (zone : Option Int) : Option String :=
  match zone with
  | none => none
  | some n =>
    if n.natAbs < 1440 then none
    else some ("offset must be a timedelta strictly between -timedelta(hours=24) and "
      ++ "timedelta(hours=24), not " ++ spanText n ++ ".")

/-- What is wrong with a moment. -/
def momentDefect? (m : Moment) : Option String :=
  (zoneDefect? m.offset).or <| (dateDefect? m.year m.month m.day).or <|
    if 23 < m.hour then some "hour must be in 0..23"
    else if 59 < m.minute then some "minute must be in 0..59"
    else if 59 < m.second then some "second must be in 0..59"
    else none

/-- A date or a moment of a scalar. -/
def timestampValue (cs : List Char) : Except Error Value :=
  match readTimestamp cs with
  | none => .error .unreadable
  | some (.date year month day) => match dateDefect? year month day with
    | some reason => .error (.badSpelling reason)
    | none => .ok (.date year month day)
  | some (.moment m) => match momentDefect? m with
    | some reason => .error (.badSpelling reason)
    | none => .ok (.moment m)

end StreamMesh.Yaml
