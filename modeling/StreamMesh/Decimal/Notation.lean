import StreamMesh.Decimal.Digits

/-!
# Floats as decimal text

The digits of a float are written positionally while the decimal point stays close to them, and
with an exponent of at least two digits otherwise.

## Main definitions

* `Layout` — where positional notation ends and whether whole numbers keep `.0`
* `Layout.exact`, `Layout.brief` — the two layouts in use
* `floatText` — the shortest text that reads back
* `briefText` — six significant digits
-/

namespace StreamMesh.Decimal

/-- The choices that turn digits into text. -/
structure Layout where
  /-- Positional notation needs the decimal point after this place. -/
  after : Int
  /-- Positional notation needs the decimal point at or before this place. -/
  upTo : Int
  /-- Whole numbers in positional notation end in `.0`. -/
  keepsPoint : Bool

/-- Numbers read back exactly: positional from `1e-4` to below `1e16`, whole numbers with `.0`. -/
def Layout.exact : Layout := ⟨-4, 16, true⟩

/-- Numbers for people: positional from `1e-4` to below `1e6`, whole numbers bare. -/
def Layout.brief : Layout := ⟨-4, 6, false⟩

/-- The two-digit exponent with its sign. -/
def exponentText (e : Int) : List Char :=
  let ds := Nat.toDigits 10 e.natAbs
  (if e < 0 then '-' else '+') :: (if ds.length < 2 then '0' :: ds else ds)

/-- Digits `ds` with the decimal point `point` places after their start. -/
def Layout.write (layout : Layout) (ds : List Char) (point : Int) : List Char :=
  if layout.after < point ∧ point ≤ layout.upTo then
    if point ≤ 0 then '0' :: '.' :: (List.replicate (-point).toNat '0' ++ ds)
    else if (ds.length : Int) ≤ point then
      ds ++ List.replicate (point.toNat - ds.length) '0'
        ++ (if layout.keepsPoint then ['.', '0'] else [])
    else ds.take point.toNat ++ '.' :: ds.drop point.toNat
  else
    match ds with
    | [] => []
    | [d] => d :: 'e' :: exponentText (point - 1)
    | d :: rest => d :: '.' :: (rest ++ 'e' :: exponentText (point - 1))

/-- Text of a float whose digits are picked by `pick`. -/
def textBy (layout : Layout) (pick : Nat → Int → Digits) (x : Float) : String :=
  match Binary.ofFloat x with
  | .nan => "nan"
  | .infinite negative => if negative then "-inf" else "inf"
  | .finite negative mantissa exponent =>
    let body :=
      if mantissa = 0 then layout.write ['0'] 1
      else
        let d := pick mantissa exponent
        let ds := Nat.toDigits 10 d.coefficient
        layout.write ds (ds.length + d.exponent)
    String.ofList (if negative then '-' :: body else body)

/-- The shortest text that reads back as the same float. -/
def floatText (x : Float) : String := textBy .exact shortest x

/-- The float rounded to six significant digits. -/
def briefText (x : Float) : String := textBy .brief (significant 6) x

end StreamMesh.Decimal
