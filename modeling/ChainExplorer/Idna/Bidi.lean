import ChainExplorer.Unicode.Direction

/-!
# Labels in two directions

Where a domain name holds anything that runs from right to left, each of its labels has to run one
way, so that what a reader sees at its ends is what is there. A label begins with a letter, and that
letter says which way; the other way's letters do not occur, it ends with a letter or a digit, and
digits of two kinds do not mix from the right.
-/

namespace ChainExplorer.Idna

open ChainExplorer.Unicode

/-- Whether a direction class makes a domain name subject to the rule. -/
def runsFromRight : Direction → Bool
  | .rightToLeft | .arabicDigit => true
  | _ => false

/-- What stands behind the first letter, in front of the marks at the end; reversed. -/
def body (rest : List Direction) : List Direction := rest.reverse.dropWhile (· = .mark)

/-- Whether classes behind a first letter make a label that runs from left to right. -/
def endsLeftToRight (rest : List Direction) : Bool :=
  match body rest with
  | [] => true
  | last :: middle =>
    (last = .leftToRight || last = .europeanDigit)
      && middle.all fun d => !runsFromRight d

/-- Whether classes behind a first letter make a label that runs from right to left. -/
def endsRightToLeft (rest : List Direction) : Bool :=
  match body rest with
  | [] => true
  | last :: middle =>
    (runsFromRight last || last = .europeanDigit)
      && middle.all (· ≠ .leftToRight)
      && !((last :: middle).contains .europeanDigit && (last :: middle).contains .arabicDigit)

/-- Whether a label runs one way. -/
def runsOneWay (label : List Char) : Bool :=
  match label.map direction with
  | [] => true
  | .leftToRight :: rest => endsLeftToRight rest
  | .rightToLeft :: rest => endsRightToLeft rest
  | _ => false

/-- Whether the labels of a domain name keep the rule, if they are subject to it. -/
def keepDirection (labels : List (List Char)) : Bool :=
  !(labels.any fun label => label.any fun c => runsFromRight (direction c))
    || labels.all runsOneWay

end ChainExplorer.Idna
