import ChainExplorer.Words

/-!
# Finite binary64 values

A display amount is a binary64 number, and so is any JSON number with a point, an exponent or too
many digits. Such a value is a sign, a significand and a power of two, and everything done with it
here is exact arithmetic on naturals followed by one rounding: `nearest` is the only place where
precision is lost, and it goes to the nearest value with ties to the even significand. Nothing in
this library computes with machine floats, so a statement about amounts is one about integers.
-/

namespace ChainExplorer

/-- A finite value: `significand · 2 ^ exponent`, with a sign that zero has as well. -/
structure Binary64 where
  negative : Bool
  significand : Nat
  exponent : Int
  deriving DecidableEq, Repr

namespace Binary64

/-- The least exponent, that of the subnormal values. -/
def minExponent : Int := -1074

/-- The greatest exponent. -/
def maxExponent : Int := 971

/-- Zero of either sign. -/
def zero (negative : Bool) : Binary64 := ⟨negative, 0, minExponent⟩

/-- The leading binary digit of a significand: two to the fifty-second. -/
def leadingDigit : Nat := 4503599627370496

/-- The quotient rounded to the nearest natural number, a half to the even one. -/
def roundHalfEven (num den : Nat) : Nat :=
  let q := num / den
  let twice := 2 * (num % den)
  if den < twice ∨ (twice = den ∧ q % 2 = 1) then q + 1 else q

/-- The quotient rounded to the nearest natural number, a half upwards. -/
def roundHalfUp (num den : Nat) : Nat := (2 * num + den) / (2 * den)

/-- `num / den · 2 ^ (-e)` as a fraction of naturals. -/
def scaleDown (num den : Nat) (e : Int) : Nat × Nat :=
  (num * Nat.pow 2 (-e).toNat, den * Nat.pow 2 e.toNat)

/-- The exponent at which a positive quotient has fifty-three binary digits before the point, or
the least exponent if that is greater. -/
def exponentOf (num den : Nat) : Int :=
  let e : Int := (num.log2 : Int) - (den.log2 : Int) - 52
  let scaled := scaleDown num den e
  max minExponent (if scaled.1 / scaled.2 < leadingDigit then e - 1 else e)

/-- The value nearest to a quotient, with ties to the even significand; none where that would lie
past the greatest finite value. -/
def nearest (negative : Bool) (num den : Nat) : Option Binary64 :=
  if num = 0 ∨ den = 0 then some (zero negative)
  else
    let e := exponentOf num den
    let scaled := scaleDown num den e
    let s := roundHalfEven scaled.1 scaled.2
    let x : Binary64 := if s = 2 * leadingDigit then ⟨negative, leadingDigit, e + 1⟩
      else ⟨negative, s, e⟩
    if x.exponent ≤ maxExponent then some x else none

/-- The magnitude as a fraction of naturals. -/
def magnitude (x : Binary64) : Nat × Nat :=
  (x.significand * Nat.pow 2 x.exponent.toNat, Nat.pow 2 (-x.exponent).toNat)

/-- The value nearest to an integer; every integer of sixty-four bits has one. -/
def ofInt (i : Int) : Binary64 :=
  (nearest (i < 0) i.natAbs 1).getD (zero (i < 0))

/-- The product with another value's magnitude, rounded once. -/
def mul? (x y : Binary64) : Option Binary64 :=
  nearest (x.negative != y.negative) (x.magnitude.1 * y.magnitude.1) (x.magnitude.2 * y.magnitude.2)

/-- The quotient by another value, rounded once. -/
def div? (x y : Binary64) : Option Binary64 :=
  nearest (x.negative != y.negative) (x.magnitude.1 * y.magnitude.2) (x.magnitude.2 * y.magnitude.1)

/-- The magnitude rounded to an integer, a half away from zero. -/
def roundMagnitude (x : Binary64) : Nat := roundHalfUp x.magnitude.1 x.magnitude.2

/-- The sixty-four bits of the format: sign, biased exponent, significand without its leading
one. -/
def bits (x : Binary64) : Nat :=
  let sign := if x.negative then signedBound else 0
  if x.significand < leadingDigit then sign + x.significand
  else sign + ((x.exponent - minExponent).toNat + 1) * leadingDigit + (x.significand - leadingDigit)

end Binary64

end ChainExplorer
