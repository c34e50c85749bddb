/-!
# Whole numbers as decimal text

A whole number may have any size, but only so many of its digits are ever written or read.

## Main definitions

* `maxDigits` — the most digits of a number in a text
* `isWritable` — whether a number can be written
* `tooLong`, `tooLongToRead` — what is said of a number with more digits
-/

namespace StreamMesh.Decimal

/-- The most digits that a whole number may have in a text. -/
def maxDigits : Nat := 4300

/-- Whether a whole number can be written out. -/
def isWritable (n : Int) : Bool := (Nat.toDigits 10 n.natAbs).length ≤ maxDigits

/-- What is said of a whole number with too many digits to be written out. -/
def tooLong : String :=
  "Exceeds the limit (4300 digits) for integer string conversion; "
    ++ "use sys.set_int_max_str_digits() to increase the limit"

/-- What is said of a spelling with too many digits. -/
def tooLongToRead (count : Nat) : String :=
  "Exceeds the limit (4300 digits) for integer string conversion: value has " ++ toString count
    ++ " digits; use sys.set_int_max_str_digits() to increase the limit"

end StreamMesh.Decimal
