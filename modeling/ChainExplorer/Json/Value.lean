import ChainExplorer.Binary64.Basic
import ChainExplorer.Words

/-!
# JSON values

Both servers speak JSON, and the distinction that matters to a reader of their answers is the one
between integers and other numbers: an amount, a height or an id written `1.0` is not the integer
`1`. So a number is either an integer or a binary64 value, decided by how it was written, and the
accessors below answer only for the kind they name.

The members of an object are kept in the order of their keys, one for each key; `ofMembers` brings a
list of members into that form.
-/

namespace ChainExplorer

/-- A JSON value. -/
inductive Json where
  | null
  | bool (b : Bool)
  | int (i : Int)
  | float (x : Binary64)
  | string (s : String)
  | array (items : List Json)
  | object (members : List (String × Json))
  deriving Repr, Inhabited

namespace Json

/-- Puts a member into its place; an earlier member with the same key gives way. -/
def insertMember (key : String) (value : Json) : List (String × Json) → List (String × Json)
  | [] => [(key, value)]
  | (k, v) :: ms =>
    if key < k then (key, value) :: (k, v) :: ms
    else if key = k then (key, value) :: ms
    else (k, v) :: insertMember key value ms

/-- The object of a list of members, of which a later one wins over an earlier. -/
def ofMembers (ms : List (String × Json)) : Json :=
  .object (ms.foldl (fun acc m => insertMember m.1 m.2 acc) [])

/-- The member of an object with a key; other values have none. -/
def get? (key : String) : Json → Option Json
  | object ms => (ms.find? (·.1 = key)).map (·.2)
  | _ => none

/-- The text of a string. -/
def string? : Json → Option String
  | string s => some s
  | _ => none

/-- An integer that fits an unsigned word. -/
def natural? : Json → Option Nat
  | int i => if 0 ≤ i ∧ i < wordBound then some i.toNat else none
  | _ => none

/-- An integer that fits a signed word. -/
def integer? : Json → Option Int
  | int i => if -signedBound ≤ i ∧ i < signedBound then some i else none
  | _ => none

/-- A truth value. -/
def bool? : Json → Option Bool
  | bool b => some b
  | _ => none

/-- The items of an array. -/
def array? : Json → Option (List Json)
  | array items => some items
  | _ => none

/-- Whether a value is `null`. -/
def isNull : Json → Bool
  | null => true
  | _ => false

end Json

end ChainExplorer
