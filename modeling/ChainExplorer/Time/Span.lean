import ChainExplorer.Text.Decimal

/-!
# Spans of time

Clocks and limits are counted in whole milliseconds. The text of a span names the largest unit that
keeps its number at one or more, so that a message shows the limit as it was configured: `5s`,
`1.5s`, `250ms`.
-/

namespace ChainExplorer.Time

open ChainExplorer.Text

/-- Milliseconds in a second. -/
def second : Nat := 1000

/-- Drops the zeros at the end of a run of digits. -/
def trimZeros (cs : List Char) : List Char := (cs.reverse.dropWhile (· == '0')).reverse

/-- The text of a span: seconds with as many places as they need, else milliseconds. -/
def spanText (ms : Nat) : String :=
  if second ≤ ms then
    let places := trimZeros (padLeft 3 (toDigits (ms % second)))
    let fraction := if places.isEmpty then [] else '.' :: places
    String.ofList (toDigits (ms / second) ++ fraction ++ ['s'])
  else if 0 < ms then decimal ms ++ "ms"
  else "0ns"

end ChainExplorer.Time
