import ChainExplorer.Bytes.Hex
import ChainExplorer.Json.Value
import ChainExplorer.Text.Decimal
import ChainExplorer.Words

/-!
# Reading JSON

The reader takes exactly the grammar of RFC 8259, nested to fewer than `depthLimit` levels. A number
without a point or an exponent is an integer as long as it fits a word; any other number is read
from its first digits that fit an unsigned word, scaled by one power of ten, which is the nearest
binary64 value for every number of up to fifteen digits and of a modest exponent, and close to it
otherwise.
-/

namespace ChainExplorer.Json

open ChainExplorer.Text

/-- Drops the four blanks that JSON allows between tokens. -/
def skipBlanks : List Char → List Char
  | c :: cs => if c = ' ' ∨ c = '\n' ∨ c = '\t' ∨ c = '\r' then skipBlanks cs else c :: cs
  | [] => []

/-! ## Strings -/

/-- The number that four hexadecimal digits denote. -/
def fourHex? (a b c d : Char) : Option Nat :=
  match Hex.digit? a, Hex.digit? b, Hex.digit? c, Hex.digit? d with
  | some w, some x, some y, some z => some (((w * 16 + x) * 16 + y) * 16 + z)
  | _, _, _, _ => none

/-- The character of an escape of one letter. -/
def unescape? (c : Char) : Option Char :=
  if c = '"' ∨ c = '\\' ∨ c = '/' then some c
  else if c = 'b' then some (Char.ofNat 8)
  else if c = 'f' then some (Char.ofNat 12)
  else if c = 'n' then some '\n'
  else if c = 'r' then some '\r'
  else if c = 't' then some '\t'
  else none

/-- The code point of a high and a low surrogate. -/
def pairValue (high low : Nat) : Nat := 0x10000 + (high - 0xD800) * 0x400 + (low - 0xDC00)

/-- The rest of a string up to its closing quote, and what follows; `acc` holds the characters
before it, last first. A lone surrogate and a bare control character are refused. -/
def readString (acc : List Char) : List Char → Option (List Char × List Char)
  | [] => none
  | '"' :: rest => some (acc.reverse, rest)
  | '\\' :: 'u' :: a :: b :: c :: d :: '\\' :: 'u' :: e :: f :: g :: h :: rest =>
    match fourHex? a b c d with
    | none => none
    | some high =>
      if 0xD800 ≤ high ∧ high < 0xDC00 then
        match fourHex? e f g h with
        | none => none
        | some low =>
          if 0xDC00 ≤ low ∧ low < 0xE000 then
            readString (Char.ofNat (pairValue high low) :: acc) rest
          else none
      else if 0xDC00 ≤ high ∧ high < 0xE000 then none
      else readString (Char.ofNat high :: acc) ('\\' :: 'u' :: e :: f :: g :: h :: rest)
  | '\\' :: 'u' :: a :: b :: c :: d :: rest =>
    match fourHex? a b c d with
    | none => none
    | some n =>
      if 0xD800 ≤ n ∧ n < 0xE000 then none else readString (Char.ofNat n :: acc) rest
  | '\\' :: c :: rest =>
    match unescape? c with
    | none => none
    | some c => readString (c :: acc) rest
  | c :: rest => if c.toNat < 32 then none else readString (c :: acc) rest

/-! ## Numbers -/

/-- A decimal on its way to a number: `significand · 10 ^ exponent`, with a significand that fits
an unsigned word. -/
structure Scaled where
  significand : Nat
  exponent : Int
  deriving DecidableEq, Repr

/-- Takes in the digits before the point. From the first that no longer fits on, each digit counts
as a power of ten only. -/
def Scaled.whole (s : Scaled) : List Char → Scaled
  | [] => s
  | c :: cs =>
    let next := 10 * s.significand + (digit? c).getD 0
    if next < wordBound then Scaled.whole ⟨next, s.exponent⟩ cs
    else ⟨s.significand, s.exponent + (cs.length + 1)⟩

/-- Takes in the digits after the point, and none from the first that no longer fits on. -/
def Scaled.fraction (s : Scaled) : List Char → Scaled
  | [] => s
  | c :: cs =>
    let next := 10 * s.significand + (digit? c).getD 0
    if next < wordBound then Scaled.fraction ⟨next, s.exponent - 1⟩ cs else s

/-- The binary64 value of a power of ten up to the 308th. -/
def tenPow (n : Nat) : Binary64 := (Binary64.nearest false (Nat.pow 10 n) 1).getD (.zero false)

/-- Divides by `10 ^ 308` for as long as the exponent is below `-308`. Two such steps bring any
significand of a word to zero. -/
def sink : Nat → Binary64 → Int → Binary64 × Int
  | 0, x, e => (x, e)
  | n + 1, x, e =>
    if e < -308 then sink n ((x.div? (tenPow 308)).getD x) (e + 308) else (x, e)

/-- The value of a scaled decimal; none past the greatest finite value. -/
def Scaled.value? (negative : Bool) (s : Scaled) : Option Binary64 :=
  match Binary64.nearest negative s.significand 1 with
  | none => none
  | some x =>
    if s.significand = 0 then some x
    else if 308 < s.exponent then none
    else if 0 ≤ s.exponent then x.mul? (tenPow s.exponent.toNat)
    else
      let (x, e) := sink 2 x s.exponent
      if e < -308 then some (.zero negative) else x.div? (tenPow (-e).toNat)

/-- The number of a run of digits without point and exponent. -/
def wholeNumber (negative : Bool) (s : Scaled) : Option Json :=
  if s.exponent ≠ 0 then (s.value? negative).map float
  else if !negative then some (int s.significand)
  else if s.significand = 0 ∨ signedBound < s.significand then (s.value? true).map float
  else some (int (-s.significand))

/-- The exponent part behind its letter, if it has at least one digit. -/
def readExponent (s : Scaled) (cs : List Char) : Option (Scaled × List Char) :=
  let (negative, cs) := match cs with
    | '-' :: cs => (true, cs)
    | '+' :: cs => (false, cs)
    | cs => (false, cs)
  let (ds, rest) := spanDigits cs
  if ds.isEmpty then none
  else
    let n : Int := ofDigits ds
    some (⟨s.significand, s.exponent + (if negative then -n else n)⟩, rest)

/-- The fraction and the exponent of a number, where it has them. -/
def readTail (negative : Bool) (s : Scaled) (cs : List Char) : Option (Json × List Char) :=
  let withExponent (s : Scaled) (cs : List Char) : Option (Json × List Char) :=
    match readExponent s cs with
    | none => none
    | some (s, rest) => (s.value? negative).map fun x => (float x, rest)
  match cs with
  | '.' :: cs =>
    let (ds, rest) := spanDigits cs
    if ds.isEmpty then none
    else
      let s := s.fraction ds
      match rest with
      | 'e' :: rest => withExponent s rest
      | 'E' :: rest => withExponent s rest
      | rest => (s.value? negative).map fun x => (float x, rest)
  | 'e' :: cs => withExponent s cs
  | 'E' :: cs => withExponent s cs
  | cs => (wholeNumber negative s).map fun v => (v, cs)

/-- A number behind its sign. Only a lone zero may begin with a zero. -/
def readMagnitude (negative : Bool) (cs : List Char) : Option (Json × List Char) :=
  match spanDigits cs with
  | ([], _) => none
  | ('0' :: _ :: _, _) => none
  | (ds, rest) => readTail negative ((Scaled.mk 0 0).whole ds) rest

/-- A number. -/
def readNumber : List Char → Option (Json × List Char)
  | '-' :: cs => readMagnitude true cs
  | cs => readMagnitude false cs

/-! ## Values -/

/-- Arrays and objects may stand inside one another fewer than this many times. -/
def depthLimit : Nat := 128

mutual

/-- A value and what follows it. The fuel bounds the number of calls, the depth the nesting. -/
def readValue (fuel depth : Nat) (cs : List Char) : Option (Json × List Char) :=
  match fuel with
  | 0 => none
  | fuel + 1 =>
    match skipBlanks cs with
    | 'n' :: 'u' :: 'l' :: 'l' :: rest => some (null, rest)
    | 't' :: 'r' :: 'u' :: 'e' :: rest => some (bool true, rest)
    | 'f' :: 'a' :: 'l' :: 's' :: 'e' :: rest => some (bool false, rest)
    | '"' :: rest => (readString [] rest).map fun r => (string (String.ofList r.1), r.2)
    | '[' :: rest =>
      if depth ≤ 1 then none
      else match skipBlanks rest with
        | ']' :: rest => some (array [], rest)
        | rest => (readItems fuel (depth - 1) rest []).map fun r => (array r.1, r.2)
    | '\x7b' :: rest =>
      if depth ≤ 1 then none
      else match skipBlanks rest with
        | '\x7d' :: rest => some (object [], rest)
        | rest => (readMembers fuel (depth - 1) rest []).map fun r => (ofMembers r.1, r.2)
    | rest => readNumber rest

/-- The items of an array from one of them to the closing bracket. -/
def readItems (fuel depth : Nat) (cs : List Char) (acc : List Json) :
    Option (List Json × List Char) :=
  match fuel with
  | 0 => none
  | fuel + 1 =>
    match readValue fuel depth cs with
    | none => none
    | some (v, rest) =>
      match skipBlanks rest with
      | ']' :: rest => some ((v :: acc).reverse, rest)
      | ',' :: rest => readItems fuel depth rest (v :: acc)
      | _ => none

/-- The members of an object from one of them to the closing brace, as they are written. -/
def readMembers (fuel depth : Nat) (cs : List Char) (acc : List (String × Json)) :
    Option (List (String × Json) × List Char) :=
  match fuel with
  | 0 => none
  | fuel + 1 =>
    match skipBlanks cs with
    | '"' :: rest =>
      match readString [] rest with
      | none => none
      | some (k, rest) =>
        match skipBlanks rest with
        | ':' :: rest =>
          match readValue fuel depth rest with
          | none => none
          | some (v, rest) =>
            match skipBlanks rest with
            | '\x7d' :: rest => some (((String.ofList k, v) :: acc).reverse, rest)
            | ',' :: rest => readMembers fuel depth rest ((String.ofList k, v) :: acc)
            | _ => none
        | _ => none
    | _ => none

end

/-- Calls enough for any text of a length: each takes at least one character, or hands on to one
that does. -/
def fuelFor (cs : List Char) : Nat := 2 * cs.length + 2

/-- The value that a text holds, with nothing but blanks around it. -/
def read? (cs : List Char) : Option Json :=
  match readValue (fuelFor cs) depthLimit cs with
  | some (v, rest) => if (skipBlanks rest).isEmpty then some v else none
  | none => none

/-- The value that a text holds. -/
def parse? (s : String) : Option Json := read? s.toList

end ChainExplorer.Json
