import StreamMesh.Decimal.Binary

/-!
# Decimal digits of a float

Two ways to pick the digits of a positive float: the fewest that read back as the same float, and
a fixed count rounded to nearest. Both return a coefficient and a power of ten.

## Main definitions

* `Digits` — `coefficient · 10 ^ exponent`
* `pointOf` — where the decimal point stands before the first digit
* `shortest` — the fewest digits that read back, and of those the nearest
* `significant` — a fixed number of digits, a half going to the even neighbour
-/

namespace StreamMesh.Decimal

/-- The number `coefficient · 10 ^ exponent`. -/
structure Digits where
  coefficient : Nat
  exponent : Int
  deriving DecidableEq, Repr

/-- How many places a positive fraction below one is to be moved left to reach one. -/
def leadingPlaces (r : Ratio) : Nat → Nat → Nat
  | 0, j => j
  | fuel + 1, j => if r.den ≤ r.num * Nat.pow 10 j then j else leadingPlaces r fuel (j + 1)

/-- The least `k` with `r < 10 ^ k`, for a positive `r` not below the least float. -/
def pointOf (r : Ratio) : Int :=
  if r.den ≤ r.num then ((Nat.toDigits 10 r.floor).length : Int)
  else 1 - (leadingPlaces r 400 1 : Int)

/-- Drops the zeros at the end of a coefficient. -/
def Digits.trim (d : Digits) : Digits :=
  go (Nat.toDigits 10 d.coefficient).length d
where
  go : Nat → Digits → Digits
    | 0, d => d
    | fuel + 1, d =>
      if d.coefficient ≠ 0 ∧ d.coefficient % 10 = 0 then
        go fuel ⟨d.coefficient / 10, d.exponent + 1⟩
      else d

/-- The numbers that round to `mantissa · 2 ^ exponent`: half of the gap to each neighbour, where
the gap below a power of two is half as wide. The ends round to the even mantissa. -/
def readsBack (mantissa : Nat) (exponent : Int) (r : Ratio) : Bool :=
  let narrow := mantissa = Nat.pow 2 52 ∧ -1074 < exponent
  let lower := if narrow then 4 * mantissa - 1 else 4 * mantissa - 2
  let low := Ratio.dyadic lower (exponent - 2)
  let high := Ratio.dyadic (4 * mantissa + 2) (exponent - 2)
  if mantissa % 2 = 0 then low.le r && r.le high else low.lt r && r.lt high

/-- Of the two grid points around the value, the one that reads back, or the nearer of two. -/
def onGrid (mantissa : Nat) (exponent : Int) (value : Ratio) (place : Int) : Option Digits :=
  let scaled := value.shift place
  let below := scaled.floor
  let fits (c : Nat) : Bool := readsBack mantissa exponent (Ratio.decimal c place)
  match fits below, fits (below + 1) with
  | true, false => some ⟨below, place⟩
  | false, true => some ⟨below + 1, place⟩
  | true, true => some ⟨scaled.round, place⟩
  | false, false => none

/-- Tries grids with more and more digits; the first with a point that reads back wins. -/
def firstGrid (mantissa : Nat) (exponent : Int) (value : Ratio) (point : Int) : Nat → Nat → Digits
  | 0, n => ⟨(value.shift (point - n)).round, point - n⟩
  | fuel + 1, n =>
    match onGrid mantissa exponent value (point - n) with
    | some d => d
    | none => firstGrid mantissa exponent value point fuel (n + 1)

/-- The fewest digits that read back as `mantissa · 2 ^ exponent`, for a positive mantissa.
Seventeen digits always suffice. -/
def shortest (mantissa : Nat) (exponent : Int) : Digits :=
  let value := Ratio.dyadic mantissa exponent
  (firstGrid mantissa exponent value (pointOf value) 16 1).trim

/-- The value rounded to `count` digits, without zeros at the end. -/
def significant (count : Nat) (mantissa : Nat) (exponent : Int) : Digits :=
  let value := Ratio.dyadic mantissa exponent
  let place := pointOf value - count
  Digits.trim ⟨(value.shift place).round, place⟩

end StreamMesh.Decimal
