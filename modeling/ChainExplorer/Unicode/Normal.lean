import ChainExplorer.Unicode.Combining
import ChainExplorer.Unicode.Decomposition

/-!
# The normal form of a text

Texts that are the same to a reader may be written in several ways. The normal form is found by
taking every character apart, putting the marks behind each character into the order of their
classes, and putting together again what has a composite. A mark is kept from the character in front
of it only by another mark of its own class or a higher one in between.
-/

namespace ChainExplorer.Unicode

/-! ## Syllables of Hangul -/

/-- The first syllable. -/
def syllableBase : Nat := 0xAC00

/-- The first leading consonant. -/
def leadBase : Nat := 0x1100

/-- The first vowel. -/
def vowelBase : Nat := 0x1161

/-- One before the first trailing consonant; a syllable without one counts as this. -/
def tailBase : Nat := 0x11A7

/-- Leading consonants. -/
def leadCount : Nat := 19

/-- Vowels. -/
def vowelCount : Nat := 21

/-- Trailing consonants, and one for none. -/
def tailCount : Nat := 28

/-- The number of a syllable among all of them. -/
def syllable? (c : Char) : Option Nat :=
  let n := c.toNat - syllableBase
  if syllableBase ≤ c.toNat ∧ n < leadCount * vowelCount * tailCount then some n else none

/-- The letters of a syllable. -/
def syllableLetters (n : Nat) : List Char :=
  let letters := [leadBase + n / (vowelCount * tailCount), vowelBase + n / tailCount % vowelCount]
  let tail := if n % tailCount = 0 then [] else [tailBase + n % tailCount]
  (letters ++ tail).map Char.ofNat

/-- The syllable of two letters, or of a syllable without a tail and a trailing consonant. -/
def joinedSyllable? (a b : Char) : Option Char :=
  let lead := a.toNat - leadBase
  let vowel := b.toNat - vowelBase
  let tail := b.toNat - tailBase
  if leadBase ≤ a.toNat ∧ lead < leadCount ∧ vowelBase ≤ b.toNat ∧ vowel < vowelCount then
    some (Char.ofNat (syllableBase + (lead * vowelCount + vowel) * tailCount))
  else match syllable? a with
    | some n =>
      if n % tailCount = 0 ∧ tailBase < b.toNat ∧ tail < tailCount then
        some (Char.ofNat (a.toNat + tail))
      else none
    | none => none

/-! ## Taking apart -/

/-- The parts that a character has by the tables. -/
def parts? (c : Char) : Option (List Char) :=
  match (composites.find? c).or (standIns.find? c) with
  | some s => some (s.values.map fun n => Char.ofNat (n + (c.toNat - s.first)))
  | none => none

/-- Takes a character apart, and its parts again, down to a depth. -/
def decompose : Nat → Char → List Char
  | 0, c => [c]
  | depth + 1, c =>
    match syllable? c with
    | some n => syllableLetters n
    | none =>
      match parts? c with
      | some cs => cs.flatMap (decompose depth)
      | none => [c]

/-- No character has parts of parts of parts that have parts. -/
def decompositionDepth : Nat := 3

/-! ## Ordering -/

/-- Puts a character behind a reversed text; a mark passes the marks of higher classes. -/
def place (c : Char) : List Char → List Char
  | [] => [c]
  | d :: rest =>
    if combiningClass c ≠ 0 ∧ combiningClass c < combiningClass d then d :: place c rest
    else c :: d :: rest

/-- A text with the marks behind each character in the order of their classes. -/
def ordered (cs : List Char) : List Char := (cs.foldl (fun text c => place c text) []).reverse

/-! ## Putting together -/

/-- The composite of two characters. -/
def composite? (a b : Char) : Option Char :=
  match joinedSyllable? a b with
  | some c => some c
  | none =>
    (List.find? (fun s => s.values == [a.toNat, b.toNat]) composites).map
      fun s => Char.ofNat s.first

/-- A text that is being put together: what is final, the last character that can still take marks,
and the marks behind it that it did not take. Lists are reversed. -/
structure Composing where
  final : List Char := []
  base : Option Char := none
  marks : List Char := []

namespace Composing

/-- All that has been read. -/
def text (s : Composing) : List Char := s.marks ++ s.base.toList ++ s.final

/-- Whether the marks that were not taken keep a character from the base. -/
def isBlocked (s : Composing) (c : Char) : Bool :=
  match s.marks with
  | [] => false
  | m :: _ => combiningClass c ≤ combiningClass m

/-- Reads a character. -/
def read (s : Composing) (c : Char) : Composing :=
  let composite := if s.isBlocked c then none else s.base.bind (composite? · c)
  match composite with
  | some d => { s with base := some d }
  | none =>
    if combiningClass c = 0 then { final := s.text, base := some c }
    else if s.base.isSome then { s with marks := c :: s.marks }
    else { s with final := c :: s.final }

end Composing

/-- Puts an ordered text together. -/
def composed (cs : List Char) : List Char := (cs.foldl Composing.read {}).text.reverse

/-! ## The normal form -/

/-- The normal form of a text. -/
def normalize (cs : List Char) : List Char :=
  composed (ordered (cs.flatMap (decompose decompositionDepth)))

end ChainExplorer.Unicode
