/-!
# Double-precision numbers, exactly

A finite double is a whole significand times a power of two. Here it is kept as those two numbers,
so that rounding can be stated and computed over the naturals: `Double.nearest?` takes a quotient
to the double nearest to it, halves to the even neighbour, and has no answer where the quotient is
too large. Products and quotients of doubles are rounded once.
-/

namespace TypedCatalog.Json

/-- A finite double: `significand * 2 ^ exponent`, with a sign that zero has too. -/
structure Double where
  /-- Whether there is a minus sign. -/
  negative : Bool
  /-- The whole number before the power of two, below `2 ^ 53`. -/
  significand : Nat
  /-- The power of two. -/
  exponent : Int
  deriving DecidableEq, Repr

/-- The whole number nearest to `num / den`; a half goes to the even neighbour. -/
def roundQuotient (num den : Nat) : Nat :=
  let whole := num / den
  let twice := 2 * (num % den)
  if twice < den then whole
  else if den < twice then whole + 1
  else if whole % 2 = 0 then whole else whole + 1

namespace Double

/-- The least exponent. -/
def minExponent : Int := -1074

/-- The greatest exponent. -/
def maxExponent : Int := 971

/-- The numerator and denominator of `num / den / 2 ^ exponent`. -/
def scaled (num den : Nat) (exponent : Int) : Nat × Nat :=
  if 0 ≤ exponent then (num, den * Nat.pow 2 exponent.toNat)
  else (num * Nat.pow 2 (-exponent).toNat, den)

/-- The exponent under which `num / den` has a significand of 53 bits, or the least exponent for a
quotient too small for that. -/
def exponentOf (num den : Nat) : Int :=
  let guess : Int := (num.log2 : Int) - den.log2 - 52
  let (n, d) := scaled num den guess
  max (if n / d < Nat.pow 2 52 then guess - 1 else guess) minExponent

/-- The double nearest to `num / den`, or `none` if that is beyond the greatest double. -/
def nearest? (negative : Bool) (num den : Nat) : Option Double :=
  if num = 0 then some ⟨negative, 0, minExponent⟩
  else
    let exponent := exponentOf num den
    let (n, d) := scaled num den exponent
    let significand := roundQuotient n d
    let result : Double :=
      if significand = Nat.pow 2 53 then ⟨negative, Nat.pow 2 52, exponent + 1⟩
      else ⟨negative, significand, exponent⟩
    if maxExponent < result.exponent then none else some result

/-- The double nearest to `num / den * 2 ^ exponent`. -/
def nearestScaled? (negative : Bool) (num den : Nat) (exponent : Int) : Option Double :=
  if 0 ≤ exponent then nearest? negative (num * Nat.pow 2 exponent.toNat) den
  else nearest? negative num (den * Nat.pow 2 (-exponent).toNat)

/-- The product, rounded once. -/
def mul? (a b : Double) : Option Double :=
  nearestScaled? (a.negative != b.negative) (a.significand * b.significand) 1
    (a.exponent + b.exponent)

/-- The quotient, rounded once. -/
def div? (a b : Double) : Option Double :=
  nearestScaled? (a.negative != b.negative) a.significand b.significand (a.exponent - b.exponent)

/-- The double nearest to `10 ^ n`. -/
def powerOfTen? (n : Nat) : Option Double :=
  nearest? false (Nat.pow 10 n) 1

/-- `value * 10 ^ exponent`, one power of ten of at most 308 at a time and rounded at each step;
`none` if it is too large. -/
def scaleByTen? (value : Double) (exponent : Int) : Option Double :=
  if exponent.natAbs ≤ 308 then do
    let power ← powerOfTen? exponent.natAbs
    if 0 ≤ exponent then value.mul? power else value.div? power
  else if value.significand = 0 then some value
  else if 0 < exponent then none
  else do
    let power ← powerOfTen? 308
    scaleByTen? (← value.div? power) (exponent + 308)
termination_by (-exponent).toNat
decreasing_by omega

/-- The double read from `significand * 10 ^ exponent` in decimal notation. -/
def ofDecimal? (negative : Bool) (significand : Nat) (exponent : Int) : Option Double := do
  let start ← nearest? false significand 1
  let result ← start.scaleByTen? exponent
  return { result with negative := negative }

end Double

/-! ### Rounding -/

/-- Rounding errs by at most a half. -/
theorem roundQuotient_near (num den : Nat) (h : 0 < den) :
    2 * num ≤ (2 * roundQuotient num den + 1) * den ∧
      2 * roundQuotient num den * den ≤ 2 * num + den := by
  have hdiv := Nat.div_add_mod num den
  have hmod := Nat.mod_lt num h
  generalize hq : num / den = q at hdiv
  generalize hr : num % den = r at hdiv hmod
  have hd : den * q = q * den := Nat.mul_comm _ _
  simp only [roundQuotient, hq, hr]
  split
  · constructor <;> grind
  · split
    · constructor <;> grind
    · split <;> constructor <;> grind

end TypedCatalog.Json
