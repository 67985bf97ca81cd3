import ChainExplorer.Binary64.Shortest
import ChainExplorer.Bytes.Hex
import ChainExplorer.Json.Value

/-!
# Writing JSON

The compact form: no blanks, members in the order in which the object holds them, non-ASCII
characters as they are. Control characters are always escaped, so a written value never contains a
line break, which is what lets a line feed end a frame.
-/

namespace ChainExplorer.Json

open ChainExplorer.Text

/-- How a character stands inside a string. -/
def escape (c : Char) : List Char :=
  if c = '"' then ['\\', '"']
  else if c = '\\' then ['\\', '\\']
  else if c = '\n' then ['\\', 'n']
  else if c = '\r' then ['\\', 'r']
  else if c = '\t' then ['\\', 't']
  else if c.toNat = 8 then ['\\', 'b']
  else if c.toNat = 12 then ['\\', 'f']
  else if c.toNat < 32 then
    ['\\', 'u', '0', '0', Hex.digitChar (c.toNat / 16), Hex.digitChar (c.toNat % 16)]
  else [c]

/-- A string between quotes. -/
def quote (s : String) : List Char := '"' :: (s.toList.flatMap escape ++ ['"'])

/-- An integer in base ten. -/
def renderInt (i : Int) : List Char :=
  if i < 0 then '-' :: toDigits i.natAbs else toDigits i.natAbs

mutual

/-- The compact text of a value. -/
def render : Json → List Char
  | null => ['n', 'u', 'l', 'l']
  | bool true => ['t', 'r', 'u', 'e']
  | bool false => ['f', 'a', 'l', 's', 'e']
  | int i => renderInt i
  | float x => x.text
  | string s => quote s
  | array items => '[' :: renderItems items
  | object ms => '\x7b' :: renderMembers ms

/-- The items of an array and the bracket that closes it. -/
def renderItems : List Json → List Char
  | [] => [']']
  | [v] => render v ++ [']']
  | v :: w :: vs => render v ++ ',' :: renderItems (w :: vs)

/-- The members of an object and the brace that closes it. -/
def renderMembers : List (String × Json) → List Char
  | [] => ['\x7d']
  | [(k, v)] => quote k ++ ':' :: render v ++ ['\x7d']
  | (k, v) :: m :: ms => quote k ++ ':' :: render v ++ ',' :: renderMembers (m :: ms)

end

/-- The compact text of a value. -/
def text (v : Json) : String := String.ofList v.render

end ChainExplorer.Json
