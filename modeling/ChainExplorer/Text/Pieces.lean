/-!
# Cutting a text at a character

`pieces` keeps everything between the occurrences of a character, also what is empty; `join` puts
pieces together again; `cutAt` looks at the first occurrence alone.
-/

namespace ChainExplorer.Text

/-- The pieces of a text between the occurrences of a character. -/
def pieces (sep : Char) : List Char → List (List Char)
  | [] => [[]]
  | c :: cs =>
    match pieces sep cs with
    | [] => [[c]]
    | p :: ps => if c = sep then [] :: p :: ps else (c :: p) :: ps

/-- The text in front of the first occurrence of a character, and the text behind it. -/
def cutAt (sep : Char) (cs : List Char) : List Char × List Char :=
  (cs.takeWhile (· ≠ sep), (cs.dropWhile (· ≠ sep)).drop 1)

/-- Pieces, joined by the character at which they were cut. -/
def join (sep : Char) : List (List Char) → List Char
  | [] => []
  | [p] => p
  | p :: ps => p ++ sep :: join sep ps

end ChainExplorer.Text
