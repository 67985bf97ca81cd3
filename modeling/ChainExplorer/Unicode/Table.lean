import ChainExplorer.Bytes.Hex
import ChainExplorer.Text.Blank
import ChainExplorer.Text.Pieces

/-!
# Tables of character properties

A property of characters is a list of stretches of code points, in ascending order, with the numbers
that the property gives to each. The tables are written as text, since they are long: a stretch is
`first-last`, with `/2` behind it where only every second code point belongs to it, and `=` and its
numbers, joined by `+`. All numbers are hexadecimal, and a stretch of one code point is written
`first`.
-/

namespace ChainExplorer.Unicode

open ChainExplorer.Text

/-- The code points from `first` to `last` in steps, and the numbers that go with them. -/
structure Stretch where
  first : Nat
  last : Nat
  step : Nat
  values : List Nat
  deriving DecidableEq, Repr

/-- The stretch that an entry of a table denotes. -/
def Stretch.ofText (entry : List Char) : Stretch :=
  let (points, values) := cutAt '=' entry
  let (range, step) := cutAt '/' points
  let (first, last) := cutAt '-' range
  { first := Hex.value first
    last := Hex.value (if last.isEmpty then first else last)
    step := if step.isEmpty then 1 else Hex.value step
    values := if values.isEmpty then [] else (pieces '+' values).map Hex.value }

/-- Whether a stretch holds a code point. -/
def Stretch.holds (s : Stretch) (n : Nat) : Bool :=
  s.first ≤ n && n ≤ s.last && (n - s.first) % s.step == 0

/-- The stretches of a property. -/
abbrev Table := List Stretch

namespace Table

/-- The table that a text denotes, line by line. -/
def ofText (text : String) : Table :=
  (text.splitOn "\n").flatMap fun line => (fields line.toList).map Stretch.ofText

/-- The stretch that a character lies in. -/
def find? (table : Table) (c : Char) : Option Stretch := List.find? (·.holds c.toNat) table

/-- Whether a character lies in one of the stretches. -/
def has (table : Table) (c : Char) : Bool := (table.find? c).isSome

end Table

/-- Whether a character is one of ASCII. -/
def isAscii (c : Char) : Bool := c.toNat < 128

end ChainExplorer.Unicode
