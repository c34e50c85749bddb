/-!
# Binary floating point as exact fractions

A finite 64-bit float is `mantissa · 2 ^ exponent` with natural `mantissa`. Everything that turns
a float into decimal text works on that exact value.

## Main definitions

* `Binary` — what a float stands for
* `Binary.ofFloat` — read off the sign, exponent and fraction bits
* `Ratio` — a non-negative fraction, the exact value without its sign
* `nearestFloat` — the float nearest to a decimal literal
-/

namespace StreamMesh.Decimal

/-- What a float stands for. -/
inductive Binary where
  | nan
  | infinite (negative : Bool)
  /-- The value `mantissa · 2 ^ exponent`, negated if `negative`. -/
  | finite (negative : Bool) (mantissa : Nat) (exponent : Int)
  deriving DecidableEq, Repr

/-- Reads a float's bits. The exponent field 0 belongs to subnormals, which lack the leading one;
2047 belongs to infinities and to values that are no number. -/
def Binary.ofFloat (x : Float) : Binary :=
  let bits := x.toBits.toNat
  let negative := bits / Nat.pow 2 63 == 1
  let field : Nat := bits / Nat.pow 2 52 % Nat.pow 2 11
  let fraction : Nat := bits % Nat.pow 2 52
  if field = 2047 then
    if fraction = 0 then .infinite negative else .nan
  else if field = 0 then .finite negative fraction (-1074)
  else .finite negative (fraction + Nat.pow 2 52) ((field : Int) - 1075)

/-- A non-negative fraction. -/
structure Ratio where
  num : Nat
  den : Nat
  deriving DecidableEq, Repr

/-- The fraction `n · 2 ^ e`. -/
def Ratio.dyadic (n : Nat) (e : Int) : Ratio :=
  ⟨n * Nat.pow 2 e.toNat, Nat.pow 2 (-e).toNat⟩

/-- The fraction `n · 10 ^ e`. -/
def Ratio.decimal (n : Nat) (e : Int) : Ratio :=
  ⟨n * Nat.pow 10 e.toNat, Nat.pow 10 (-e).toNat⟩

/-- Division by a power of ten. -/
def Ratio.shift (r : Ratio) (e : Int) : Ratio :=
  ⟨r.num * Nat.pow 10 (-e).toNat, r.den * Nat.pow 10 e.toNat⟩

/-- Whether the first fraction is at most the second. -/
def Ratio.le (a b : Ratio) : Bool := a.num * b.den ≤ b.num * a.den

/-- Whether the first fraction is less than the second. -/
def Ratio.lt (a b : Ratio) : Bool := a.num * b.den < b.num * a.den

/-- The greatest natural number not above the fraction. -/
def Ratio.floor (r : Ratio) : Nat := r.num / r.den

/-- The natural number nearest to the fraction; a half goes to the even neighbour. -/
def Ratio.round (r : Ratio) : Nat :=
  let below := r.num / r.den
  let twice := 2 * (r.num % r.den)
  if twice < r.den then below
  else if r.den < twice then below + 1
  else if below % 2 = 0 then below else below + 1

/-- The float nearest to `coefficient · 10 ^ exponent`. Coefficients far out of range are settled
by their count of digits, so that no huge power is computed. -/
def nearestFloat (negative : Bool) (coefficient : Nat) (exponent : Int) : Float :=
  let places : Int := (Nat.toDigits 10 coefficient).length + exponent
  let size : Float :=
    if coefficient = 0 ∨ places < -400 then 0.0
    else if 400 < places then 1.0 / 0.0
    else Float.ofScientific coefficient (exponent < 0) exponent.natAbs
  if negative then -size else size

/-- The integer that a float stands for, if it has no fractional part. -/
def wholeNumber? (x : Float) : Option Int :=
  match Binary.ofFloat x with
  | .finite negative mantissa exponent =>
    let r := Ratio.dyadic mantissa exponent
    if r.num % r.den = 0 then
      some (if negative then -((r.num / r.den : Nat) : Int) else ((r.num / r.den : Nat) : Int))
    else none
  | _ => none

end StreamMesh.Decimal
