import TypedCatalog.Json.Double
import TypedCatalog.Text.Digits

/-!
# The shortest decimal text of a double

Of the decimals that read back as a given double, `Decimal.shortest` is one on the coarsest grid of
powers of ten, and of those on that grid the nearest to the double. `Double.text` writes it with a
point while the number is of moderate size and with an exponent otherwise.
-/

namespace TypedCatalog.Json

/-- The number `digits * 10 ^ exponent`. -/
structure Decimal where
  /-- The digits, as a number. -/
  digits : Nat
  /-- The power of ten. -/
  exponent : Int
  deriving DecidableEq, Repr

namespace Decimal

/-- Numerator and denominator of `quarters / 4 * 2 ^ exponent`. -/
def quarters (n : Nat) (exponent : Int) : Nat × Nat :=
  Double.scaled n 4 (-exponent)

/-- Numerator and denominator of `num / den / 10 ^ grid`. -/
def onGrid (num den : Nat) (grid : Int) : Nat × Nat :=
  if 0 ≤ grid then (num, den * Nat.pow 10 grid.toNat)
  else (num * Nat.pow 10 (-grid).toNat, den)

/-- The multiples of `10 ^ grid` next to a double that read back as it, the nearest first; of two
equally near ones the one with an even last digit first. The reals that read back as the double
reach half way to its neighbours, ends included if the significand is even. -/
def candidates (significand : Nat) (exponent : Int) (grid : Int) : List Nat :=
  let below := if significand = Nat.pow 2 52 && Double.minExponent < exponent then 1 else 2
  let even := significand % 2 = 0
  let inside (c : Nat) : Bool :=
    let (lowNum, lowDen) := onGrid (quarters (4 * significand - below) exponent).1
      (quarters (4 * significand - below) exponent).2 grid
    let (highNum, highDen) := onGrid (quarters (4 * significand + 2) exponent).1
      (quarters (4 * significand + 2) exponent).2 grid
    if even then lowNum ≤ c * lowDen && c * highDen ≤ highNum
    else lowNum < c * lowDen && c * highDen < highNum
  let (num, den) := onGrid (quarters (4 * significand) exponent).1
    (quarters (4 * significand) exponent).2 grid
  let floor := num / den
  let nearest := roundQuotient num den
  let other := if nearest = floor then floor + 1 else floor
  [nearest, other].filter fun c => c != 0 && inside c

/-- The first grid with a candidate, going from `10 ^ grid` to ever finer ones. -/
def search (significand : Nat) (exponent : Int) : (steps : Nat) → (grid : Int) → Decimal
  | 0, grid => ⟨0, grid⟩
  | steps + 1, grid =>
    match candidates significand exponent grid with
    | c :: _ => ⟨c, grid⟩
    | [] => search significand exponent steps (grid - 1)

/-- An exponent of ten above that of any double with the given parts. -/
def startGrid (significand : Nat) (exponent : Int) : Int :=
  let bits : Int := significand.log2 + 1 + exponent
  if 0 ≤ bits then bits * 30103 / 100000 + 1 else bits * 30102 / 100000 + 1

/-- The shortest decimal that reads back as `significand * 2 ^ exponent`. -/
def shortest (significand : Nat) (exponent : Int) : Decimal :=
  search significand exponent 20 (startGrid significand exponent)

end Decimal

/-- Where a number is written without an exponent, counted in digits before the point: down to four
zeros after the point and up to sixteen digits before it. -/
def isPositional (point : Int) : Bool :=
  -4 ≤ point && point ≤ 16

/-- A decimal in digits: with a point in its place and at least one digit on each side of it, or
with one digit before the point and an exponent that always has a sign. -/
def Decimal.text (d : Decimal) : List Char :=
  let digits := Text.decimal d.digits
  let point : Int := digits.length + d.exponent
  if isPositional point then
    if point ≤ 0 then ['0', '.'] ++ List.replicate (-point).toNat '0' ++ digits
    else if point < digits.length then
      digits.take point.toNat ++ ['.'] ++ digits.drop point.toNat
    else digits ++ List.replicate (point.toNat - digits.length) '0' ++ ['.', '0']
  else
    let fraction := if digits.length = 1 then [] else '.' :: digits.drop 1
    let power := point - 1
    digits.take 1 ++ fraction ++ ['e', if power < 0 then '-' else '+'] ++
      Text.decimal power.natAbs

/-- The shortest text that reads back as the double. -/
def Double.text (d : Double) : List Char :=
  let magnitude :=
    if d.significand = 0 then ['0', '.', '0']
    else (Decimal.shortest d.significand d.exponent).text
  if d.negative then '-' :: magnitude else magnitude

end TypedCatalog.Json
