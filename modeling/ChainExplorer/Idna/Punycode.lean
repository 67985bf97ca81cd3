import ChainExplorer.Text.Pieces
import ChainExplorer.Words

/-!
# Punycode

The ASCII form of a label: its ASCII characters, a hyphen, and digits of base thirty-six that say
where the other characters go. The others are put in by ascending code point, each at its place in
what is there by then. So a single number that counts places first and code points second says
which comes next, and only its growth is written. How many digits a growth takes depends on a bias
that follows the growths before it.
-/

namespace ChainExplorer.Idna.Punycode

open ChainExplorer.Text

/-- The value of a digit: letters of either case, then decimal digits. -/
def digit? (c : Char) : Option Nat :=
  if 'a' ≤ c ∧ c ≤ 'z' then some (c.toNat - 97)
  else if 'A' ≤ c ∧ c ≤ 'Z' then some (c.toNat - 65)
  else if '0' ≤ c ∧ c ≤ '9' then some (c.toNat - 48 + 26)
  else none

/-- The digit of a value below thirty-six. -/
def digitChar (n : Nat) : Char := if n < 26 then Char.ofNat (97 + n) else Char.ofNat (22 + n)

/-- The least value of a digit at a place that is not the last of its number. -/
def threshold (bias place : Nat) : Nat := min 26 (max 1 (36 * place - bias))

theorem threshold_pos (bias place : Nat) : 1 ≤ threshold bias place := by
  simp only [threshold]
  omega

/-- How often a growth is divided before it counts as small, and what is left of it. -/
def shrink (n : Nat) : Nat × Nat :=
  if 455 < n then
    let r := shrink (n / 35)
    (r.1 + 1, r.2)
  else (0, n)
termination_by n
decreasing_by omega

/-- The bias behind a growth, in a text of such a length. The first growth is larger than others. -/
def adapted (growth length : Nat) (first : Bool) : Nat :=
  let halved := if first then growth / 700 else growth / 2
  let (times, rest) := shrink (halved + halved / length)
  36 * times + 36 * rest / (rest + 38)

/-! ## Reading -/

/-- Adds the number at the front of a text to a count; also yields the text behind it. Counts and
weights are half words. -/
def readNumber (bias : Nat) : Nat → Nat → Nat → List Char → Option (Nat × List Char)
  | _, _, _, [] => none
  | place, weight, count, c :: cs =>
    match digit? c with
    | none => none
    | some d =>
      let count := count + d * weight
      let least := threshold bias place
      let weight' := weight * (36 - least)
      if halfWordBound ≤ count then none
      else if d < least then some (count, cs)
      else if halfWordBound ≤ weight' then none
      else readNumber bias (place + 1) weight' count cs

theorem length_of_readNumber {bias place weight count n : Nat} {cs rest : List Char}
    (h : readNumber bias place weight count cs = some (n, rest)) : rest.length < cs.length := by
  induction cs generalizing place weight count with
  | nil => simp [readNumber] at h
  | cons c cs ih =>
    simp only [readNumber] at h
    split at h
    · contradiction
    · split at h
      · contradiction
      · split at h
        · cases h
          simp
        · split at h
          · contradiction
          · exact Nat.lt_succ_of_lt (ih h)

/-- Whether a number is that of a character. -/
def isScalar (n : Nat) : Bool := n < 0xD800 || (0xDFFF < n && n < 0x110000)

/-- Puts characters into a text as digits say, from a code point and a place on. -/
def insertAll (text : List Char) (point place bias : Nat) (digits : List Char) :
    Option (List Char) :=
  match digits with
  | [] => some text
  | d :: ds =>
    match _h : readNumber bias 1 1 place (d :: ds) with
    | none => none
    | some (count, rest) =>
      let length := text.length + 1
      let point := point + count / length
      let slot := count % length
      if isScalar point then
        insertAll (text.take slot ++ Char.ofNat point :: text.drop slot) point (slot + 1)
          (adapted (count - place) length (place == 0)) rest
      else none
termination_by digits.length
decreasing_by exact length_of_readNumber _h

/-- The first code point that is not ASCII. -/
def firstPoint : Nat := 128

/-- The bias before the first number. -/
def firstBias : Nat := 72

/-- The ASCII characters in front of the last hyphen, and the digits behind it. -/
def splitDigits (cs : List Char) : List Char × List Char :=
  let digits := (cs.reverse.takeWhile (· ≠ '-')).reverse
  let front := cs.take (cs.length - digits.length - 1)
  if front.isEmpty then ([], cs) else (front, digits)

/-- The label that a text denotes. -/
def decode? (cs : List Char) : Option (List Char) :=
  insertAll ((splitDigits cs).1.map Char.toLower) firstPoint 0 firstBias (splitDigits cs).2

/-! ## Writing -/

/-- The digits of a growth. -/
def writeNumber (bias place n : Nat) : List Char :=
  let least := threshold bias place
  if n < least then [digitChar n]
  else digitChar (least + (n - least) % (36 - least))
    :: writeNumber bias (place + 1) ((n - least) / (36 - least))
termination_by n
decreasing_by
  have hpos := threshold_pos bias place
  have hdiv := Nat.div_le_self (n - threshold bias place) (36 - threshold bias place)
  omega

/-- A label that is being written: the digits so far, how many characters are there, the growth
since the last number, and the bias. -/
structure Writing where
  digits : List Char := []
  length : Nat
  growth : Nat := 0
  bias : Nat := firstBias
  first : Bool := true

/-- Passes a character of the label while the characters of a code point go in. -/
def Writing.pass (point : Nat) (w : Writing) (c : Char) : Writing :=
  if c.toNat < point then { w with growth := w.growth + 1 }
  else if c.toNat = point then
    { digits := w.digits ++ writeNumber w.bias 1 w.growth
      length := w.length + 1
      growth := 0
      bias := adapted w.growth (w.length + 1) w.first
      first := false }
  else w

/-- Puts in the characters of ascending code points, from a code point on. -/
def Writing.putIn (label : List Char) (w : Writing) (least : Nat) : List Nat → Writing
  | [] => w
  | point :: points =>
    let w := { w with growth := w.growth + (point - least) * (w.length + 1) }
    let w := label.foldl (Writing.pass point) w
    Writing.putIn label { w with growth := w.growth + 1 } (point + 1) points

/-- The text that denotes a label. -/
def encode (label : List Char) : List Char :=
  let basic := label.filter (·.toNat < firstPoint)
  let points := ((label.map Char.toNat).filter (firstPoint ≤ ·)).eraseDups.mergeSort (· ≤ ·)
  let written := Writing.putIn label { length := basic.length } firstPoint points
  (if basic.isEmpty then [] else basic ++ ['-']) ++ written.digits

end ChainExplorer.Idna.Punycode
