import ChainExplorer.Json.Printer

/-!
# Writing JSON for people

The same value over several lines: every item and every member on a line of its own, two spaces
deeper than the bracket it stands in. What has no items keeps to one line.
-/

namespace ChainExplorer.Json

/-- A line break and the indentation of a depth. -/
def newLine (depth : Nat) : List Char := '\n' :: List.replicate (2 * depth) ' '

mutual

/-- The text of a value over several lines, in brackets of a depth. -/
def spread (depth : Nat) : Json → List Char
  | array [] => ['[', ']']
  | array (v :: vs) => '[' :: spreadItems (depth + 1) (v :: vs) ++ newLine depth ++ [']']
  | object [] => ['\x7b', '\x7d']
  | object (m :: ms) =>
    '\x7b' :: spreadMembers (depth + 1) (m :: ms) ++ newLine depth ++ ['\x7d']
  | value => render value

/-- The items of an array, with commas between them. -/
def spreadItems (depth : Nat) : List Json → List Char
  | [] => []
  | [v] => newLine depth ++ spread depth v
  | v :: w :: vs => newLine depth ++ spread depth v ++ ',' :: spreadItems depth (w :: vs)

/-- The members of an object, with commas between them. -/
def spreadMembers (depth : Nat) : List (String × Json) → List Char
  | [] => []
  | [(k, v)] => newLine depth ++ quote k ++ ':' :: ' ' :: spread depth v
  | (k, v) :: m :: ms =>
    newLine depth ++ quote k ++ ':' :: ' ' :: spread depth v ++ ',' :: spreadMembers depth (m :: ms)

end

/-- The text of a value over several lines. -/
def pretty (v : Json) : String := String.ofList (spread 0 v)

end ChainExplorer.Json
