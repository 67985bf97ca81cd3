import ChainExplorer.Binary64.Basic
import ChainExplorer.Text.Decimal

/-!
# The shortest decimal that reads back

The text of a binary64 value is the shortest decimal in the interval of reals that round to the
value, and of two equally short ones the nearer. The search goes through the decimal grids from one
digit to seventeen and tests the two neighbours of the value on each: if a point of a grid lies in
the interval at all, so does one of these two.
-/

namespace ChainExplorer.Binary64

open ChainExplorer.Text

/-- A decimal `digits · 10 ^ exponent`. -/
structure Decimal where
  digits : Nat
  exponent : Int
  deriving DecidableEq, Repr

/-- The same decimal without zeros at the end of its digits. -/
def Decimal.trim (d : Decimal) : Decimal :=
  if h : d.digits ≠ 0 ∧ d.digits % 10 = 0 then Decimal.trim ⟨d.digits / 10, d.exponent + 1⟩ else d
termination_by d.digits
decreasing_by exact Nat.div_lt_self (Nat.pos_of_ne_zero h.1) (by decide)

/-- The reals that round to a value, in quarters of a unit in its last place: the value, the two
ends and whether the ends belong to it. -/
structure Interval where
  low : Nat
  mid : Nat
  high : Nat
  closed : Bool
  deriving DecidableEq, Repr

/-- The interval of a value; below a power of two the lower half of it is half as wide. -/
def interval (x : Binary64) : Interval where
  low := if x.significand = leadingDigit ∧ minExponent < x.exponent then 4 * x.significand - 1
    else 4 * x.significand - 2
  mid := 4 * x.significand
  high := 4 * x.significand + 2
  closed := x.significand % 2 = 0

/-- `n · 2 ^ p · 10 ^ (-k)` as a fraction of naturals. -/
def onGrid (n : Nat) (p k : Int) : Nat × Nat :=
  (n * Nat.pow 2 p.toNat * Nat.pow 10 (-k).toNat, Nat.pow 2 (-p).toNat * Nat.pow 10 k.toNat)

/-- Whether a point of the grid of step `10 ^ k` rounds to the value whose interval is given, in
steps of `2 ^ p`. -/
def Interval.holds (i : Interval) (p k : Int) (point : Nat) : Bool :=
  let low := onGrid i.low p k
  let high := onGrid i.high p k
  if i.closed then low.1 ≤ point * low.2 && point * high.2 ≤ high.1
  else low.1 < point * low.2 && point * high.2 < high.1

/-- The nearer of a value's two neighbours on a grid that round to it; a tie goes to the even
one. -/
def Interval.pick (i : Interval) (p k : Int) : Option Nat :=
  let mid := onGrid i.mid p k
  let below := mid.1 / mid.2
  let twice := 2 * (mid.1 % mid.2)
  let nearer := if mid.2 < twice ∨ (twice = mid.2 ∧ below % 2 = 1) then below + 1 else below
  let farther := if nearer = below then below + 1 else below
  if i.holds p k nearer then some nearer
  else if i.holds p k farther then some farther
  else none

/-- Whether `10 ^ n` is at most the value. -/
def tenPowLe (x : Binary64) (n : Int) : Bool :=
  Nat.pow 10 n.toNat * x.magnitude.2 ≤ x.magnitude.1 * Nat.pow 10 (-n).toNat

/-- The decimal exponent of a value's first digit. -/
def decimalExponent (x : Binary64) : Int :=
  let m := x.magnitude
  let guess : Int := ((m.1.log2 : Int) - (m.2.log2 : Int)) * 30103 / 100000
  if tenPowLe x (guess + 1) then guess + 1
  else if tenPowLe x guess then guess
  else guess - 1

/-- The first hit on the grids of `count`, `count + 1`, … digits, for at most `fuel` of them. -/
def search (i : Interval) (p first : Int) : Nat → Nat → Option Decimal
  | 0, _ => none
  | fuel + 1, count =>
    let k := first - count + 1
    match i.pick p k with
    | some digits => some ⟨digits, k⟩
    | none => search i p first fuel (count + 1)

/-- The shortest decimal that reads back as the value's magnitude. A value just below a power of
ten is reached from the grid of the digit before it, hence the trimming. -/
def shortest (x : Binary64) : Decimal :=
  if x.significand = 0 then ⟨0, 0⟩
  else
    ((search x.interval (x.exponent - 2) x.decimalExponent 17 1).getD ⟨x.significand, 0⟩).trim

/-- How a decimal is written: the exponents at which its first digit may stand for the notation to
be positional. -/
structure Layout where
  least : Int
  greatest : Int

/-- Positional from `10 ^ -5` to below `10 ^ 16`. -/
def plain : Layout := ⟨-5, 15⟩

/-- The text of a decimal. A whole number keeps a zero after the point, and an exponent has a
sign. -/
def Layout.render (layout : Layout) (d : Decimal) : List Char :=
  let ds := toDigits d.digits
  let first : Int := d.exponent + ds.length - 1
  if layout.least ≤ first ∧ first ≤ layout.greatest then
    if 0 ≤ d.exponent then ds ++ List.replicate d.exponent.toNat '0' ++ ['.', '0']
    else if 0 ≤ first then ds.take (first.toNat + 1) ++ '.' :: ds.drop (first.toNat + 1)
    else ['0', '.'] ++ List.replicate (-first - 1).toNat '0' ++ ds
  else
    ds.take 1 ++ (if ds.length = 1 then [] else '.' :: ds.drop 1)
      ++ ['e', if first < 0 then '-' else '+'] ++ toDigits first.natAbs

/-- The text of a value. -/
def text (x : Binary64) : List Char :=
  (if x.negative then ['-'] else []) ++ plain.render x.shortest

end ChainExplorer.Binary64
