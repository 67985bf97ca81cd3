import ChainExplorer.Error.Decode
import ChainExplorer.Words

/-!
# Words written in hexadecimal

The numbers on a tape are words of sixty-four bits, in either byte order. Leading zeros do not
count: they are taken off first, and a numeral is out of range if more digits are left than a word
has room for.
-/

namespace ChainExplorer.Script

open ChainExplorer.Text

/-- The digits of the largest word. -/
def wordWidth : Nat := 16

/-- A word with one more digit behind it; nothing where the character is no digit, or the word has
no room for it. -/
def pushDigit? (w : UInt64) (c : Char) : Option UInt64 :=
  (Hex.digit? c).bind fun d =>
    if 16 * w.toNat + d < wordBound then some (UInt64.ofNat (16 * w.toNat + d)) else none

/-- Reads digits one after another into a word. -/
def readWord? : List Char → Option UInt64
  | [] => none
  | cs => cs.foldlM pushDigit? 0

/-- The word that a big-endian numeral denotes. -/
def word (text : String) : Except DecodeError UInt64 :=
  let cs := text.toList
  let significant := cs.dropWhile (· = '0')
  if cs.isEmpty || !Hex.isHex cs then .error (.invalidHex text)
  else if wordWidth < significant.length then .error (.overflow text)
  else if significant.isEmpty then .ok 0
  else match readWord? significant with
    | some w => .ok w
    | none => .error (.invalidHex text)

/-- The bytes of a range of a text in the opposite order. -/
def reverseBytes? (text : String) (start stop : Nat) : Option String :=
  (Hex.reverseRange? text.toList start stop).map String.ofList

/-- The word that a little-endian numeral denotes. A numeral that can be turned around but not read
is reported the way it was read. -/
def reversedWord (text : String) : Except DecodeError UInt64 :=
  match reverseBytes? text 0 text.toList.length with
  | none => .error (.invalidHex text)
  | some reversed => word reversed

end ChainExplorer.Script
