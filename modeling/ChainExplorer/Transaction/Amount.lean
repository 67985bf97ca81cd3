import ChainExplorer.Error.Query
import ChainExplorer.Words

/-!
# Amounts

Inside the library an amount is a whole number of base units. The node writes it in coins, as a
number or as a string; records show it in coins again, as a binary64 value. A string is read
exactly: the coins in front of its point and the base units behind it are words of their own, and
the product and the sum that put them together are checked. A number has been through binary64
already, so it is scaled there and rounded to a whole number of base units.
-/

namespace ChainExplorer.Amount

open ChainExplorer.Text

/-- Base units in a coin. -/
def coin : Nat := 1000000

/-- Decimal places of an amount in coins. -/
def places : Nat := 6

/-- The value of a coin in base units. -/
def coinValue : Binary64 := .ofInt coin

/-- An amount of base units in coins. -/
def display (units : Int) : Binary64 := ((Binary64.ofInt units).div? coinValue).getD (.zero false)

/-- The base units that a product with the value of a coin rounds to, a half away from zero. What
is exactly one past the largest word still counts as the largest. -/
def ofProduct : Option Binary64 → Except AmountFault UInt64
  | none => .error .outOfRange
  | some scaled =>
    let units := scaled.roundMagnitude
    if (scaled.negative ∧ units ≠ 0) ∨ wordBound < units then .error .outOfRange
    else .ok (UInt64.ofNat (min units (wordBound - 1)))

/-- The base units of a number of coins. -/
def ofNumber (coins : Binary64) : Except AmountFault UInt64 := ofProduct (coins.mul? coinValue)

/-- The text before the first point, and the text after it. -/
def splitPoint (cs : List Char) : List Char × List Char :=
  (cs.takeWhile (· ≠ '.'), (cs.dropWhile (· ≠ '.')).drop 1)

/-- The base units of the digits behind the point, which are filled up to six places. -/
def fractionUnits? (ds : List Char) : Option UInt64 :=
  if ds.isEmpty then some 0 else word? (padRight places ds)

/-- The base units of a decimal of coins with at most six places. -/
def ofDecimal? (cs : List Char) : Option UInt64 :=
  let (whole, fraction) := splitPoint cs
  if whole.isEmpty || places < fraction.length || !whole.all isDigit || !fraction.all isDigit then
    none
  else do
    let coins ← word? whole
    let rest ← fractionUnits? fraction
    let units ← checkedMul coins (UInt64.ofNat coin)
    checkedAdd units rest

/-- The base units of an amount on the wire. -/
def ofJson : Json → Except AmountFault UInt64
  | .int i => ofNumber (.ofInt i)
  | .float x => ofNumber x
  | .string s =>
    match ofDecimal? s.toList with
    | some units => .ok units
    | none => .error .malformed
  | _ => .error .notANumber

end ChainExplorer.Amount
