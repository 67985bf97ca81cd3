import ChainExplorer.Idna.Mapping
import ChainExplorer.Idna.Punycode
import ChainExplorer.Unicode.Joining

/-!
# Labels

A domain name is a row of labels. A label in ASCII stands for itself, unless it begins with `xn--`:
then the rest is the Punycode of a label with other characters, which has to be in mapped form
already, so that no two spellings reach one name. Hyphens may stand anywhere.
-/

namespace ChainExplorer.Idna

open ChainExplorer.Unicode

/-! ## What a label must look like -/

/-- Whether a label begins with a mark, which would belong to the label before it. -/
def beginsWithMark : List Char → Bool
  | [] => false
  | c :: _ => marks.has c

/-- A joiner makes its neighbours join. -/
def joiner : Char := Char.ofNat 0x200D

/-- A nonjoiner keeps its neighbours from joining. -/
def nonJoiner : Char := Char.ofNat 0x200C

/-- Whether the first character that is not transparent joins in a way. -/
def reaches (joins : Joining → Bool) : List Char → Bool
  | [] => false
  | c :: cs =>
    joins (joining c) || (joining c = .transparent && reaches joins cs)

/-- Whether a joiner or nonjoiner may stand between two texts, the first of which is reversed. Both
may stand behind a silenced vowel, and a nonjoiner between two letters that would join. -/
def mayStand (c : Char) (before after : List Char) : Bool :=
  match before with
  | [] => false
  | b :: _ =>
    combiningClass b == viramaClass
      || (c == nonJoiner && reaches (fun j => j = .left || j = .both) before
        && reaches (fun j => j = .right || j = .both) after)

/-- Whether all joiners behind a reversed text may stand where they do. -/
def joinersStand (before : List Char) : List Char → Bool
  | [] => true
  | c :: cs =>
    (!(c == joiner || c == nonJoiner) || mayStand c before cs) && joinersStand (c :: before) cs

/-- The most characters of a label outside ASCII. -/
def longestLabel : Nat := 1000

/-- Whether a label may stand in a domain name. -/
def isLabel (label : List Char) : Bool :=
  label.all isAscii
    || (!beginsWithMark label && joinersStand [] label && label.length ≤ longestLabel)

/-! ## Labels in ASCII -/

/-- What a label in Punycode begins with. -/
def acePrefix : List Char := ['x', 'n', '-', '-']

/-- Whether a label in lower case is in Punycode. -/
def isAce (label : List Char) : Bool := acePrefix.isPrefixOf label

/-- The most characters of Punycode. -/
def longestCode : Nat := 2000

/-- The label that Punycode denotes: a mapped one that holds more than ASCII and no dot. -/
def ofCode? (code : List Char) : Option (List Char) :=
  if code.all isAscii ∧ code.getLast? ≠ none ∧ code.getLast? ≠ some '-'
      ∧ code.length ≤ longestCode then
    (Punycode.decode? code).filter fun label => !label.contains '.' && isMapped label
  else none

/-- The label that a mapped text denotes. -/
def ofText? (text : List Char) : Option (List Char) :=
  if isAce text then ofCode? (text.drop acePrefix.length) else some text

/-- A label in ASCII. -/
def asciiLabel (label : List Char) : List Char :=
  if label.all isAscii then label else acePrefix ++ Punycode.encode label

end ChainExplorer.Idna
