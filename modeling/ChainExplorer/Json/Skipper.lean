import ChainExplorer.Json.Reader

/-!
# Passing over JSON

Whoever wants a few members of an object does not build the others. A value that nobody wants is
passed over: it has to be JSON, but nothing more is asked of it, so it may be nested to any depth,
its numbers may be of any size, and an escape in one of its strings need not stand for a character.
-/

namespace ChainExplorer.Json

open ChainExplorer.Text

/-! ## Strings and numbers -/

/-- What follows a string, from behind its opening quote. -/
def skipString : List Char → Option (List Char)
  | [] => none
  | '"' :: rest => some rest
  | '\\' :: 'u' :: a :: b :: c :: d :: rest =>
    if (fourHex? a b c d).isSome then skipString rest else none
  | '\\' :: c :: rest => if (unescape? c).isSome then skipString rest else none
  | c :: rest => if c.toNat < 32 then none else skipString rest

/-- What follows an exponent part, from behind its letter. -/
def skipExponent (cs : List Char) : Option (List Char) :=
  let unsigned := match cs with
    | '-' :: cs => cs
    | '+' :: cs => cs
    | cs => cs
  let (ds, rest) := spanDigits unsigned
  if ds.isEmpty then none else some rest

/-- What follows the fraction and the exponent of a number, where it has them. -/
def skipTail : List Char → Option (List Char)
  | '.' :: cs =>
    let (ds, rest) := spanDigits cs
    if ds.isEmpty then none
    else match rest with
      | 'e' :: rest => skipExponent rest
      | 'E' :: rest => skipExponent rest
      | rest => some rest
  | 'e' :: cs => skipExponent cs
  | 'E' :: cs => skipExponent cs
  | cs => some cs

/-- What follows a number, from behind its sign. -/
def skipMagnitude (cs : List Char) : Option (List Char) :=
  match spanDigits cs with
  | ([], _) => none
  | ('0' :: _ :: _, _) => none
  | (_, rest) => skipTail rest

/-- What follows a number. -/
def skipNumber : List Char → Option (List Char)
  | '-' :: cs => skipMagnitude cs
  | cs => skipMagnitude cs

/-! ## Values -/

mutual

/-- What follows a value. The fuel bounds the number of calls. -/
def skipValue (fuel : Nat) (cs : List Char) : Option (List Char) :=
  match fuel with
  | 0 => none
  | fuel + 1 =>
    match skipBlanks cs with
    | 'n' :: 'u' :: 'l' :: 'l' :: rest => some rest
    | 't' :: 'r' :: 'u' :: 'e' :: rest => some rest
    | 'f' :: 'a' :: 'l' :: 's' :: 'e' :: rest => some rest
    | '"' :: rest => skipString rest
    | '[' :: rest =>
      match skipBlanks rest with
      | ']' :: rest => some rest
      | rest => skipItems fuel rest
    | '\x7b' :: rest =>
      match skipBlanks rest with
      | '\x7d' :: rest => some rest
      | rest => skipMembers fuel rest
    | rest => skipNumber rest

/-- What follows an array, from one of its items on. -/
def skipItems (fuel : Nat) (cs : List Char) : Option (List Char) :=
  match fuel with
  | 0 => none
  | fuel + 1 =>
    match skipValue fuel cs with
    | none => none
    | some rest =>
      match skipBlanks rest with
      | ']' :: rest => some rest
      | ',' :: rest => skipItems fuel rest
      | _ => none

/-- What follows an object, from one of its members on. -/
def skipMembers (fuel : Nat) (cs : List Char) : Option (List Char) :=
  match fuel with
  | 0 => none
  | fuel + 1 =>
    match skipBlanks cs with
    | '"' :: rest =>
      match skipString rest with
      | none => none
      | some rest =>
        match skipBlanks rest with
        | ':' :: rest =>
          match skipValue fuel rest with
          | none => none
          | some rest =>
            match skipBlanks rest with
            | '\x7d' :: rest => some rest
            | ',' :: rest => skipMembers fuel rest
            | _ => none
        | _ => none
    | _ => none

end

/-! ## The members that are wanted -/

/-- A value if it is wanted, and what follows it. -/
def readIf (wanted : Bool) (fuel depth : Nat) (cs : List Char) :
    Option (Option Json × List Char) :=
  if wanted then (readValue fuel depth cs).map fun r => (some r.1, r.2)
  else (skipValue fuel cs).map fun rest => (none, rest)

/-- The wanted members of an object from one of its members to the closing brace, as they are
written. -/
def readWanted (wanted : String → Bool) (fuel depth : Nat) (cs : List Char)
    (acc : List (String × Json)) : Option (List (String × Json) × List Char) :=
  match fuel with
  | 0 => none
  | fuel + 1 =>
    match skipBlanks cs with
    | '"' :: rest =>
      match readString [] rest with
      | none => none
      | some (k, rest) =>
        match skipBlanks rest with
        | ':' :: rest =>
          match readIf (wanted (String.ofList k)) fuel depth rest with
          | none => none
          | some (value, rest) =>
            let acc := (value.map fun v => (String.ofList k, v)).toList ++ acc
            match skipBlanks rest with
            | '\x7d' :: rest => some (acc.reverse, rest)
            | ',' :: rest => readWanted wanted fuel depth rest acc
            | _ => none
        | _ => none
    | _ => none

/-- The wanted members of the object that a text holds, as they are written. -/
def readObject? (wanted : String → Bool) (cs : List Char) : Option (List (String × Json)) :=
  match skipBlanks cs with
  | '\x7b' :: rest =>
    match skipBlanks rest with
    | '\x7d' :: rest => if (skipBlanks rest).isEmpty then some [] else none
    | rest =>
      match readWanted wanted (fuelFor cs) (depthLimit - 1) rest [] with
      | some (ms, rest) => if (skipBlanks rest).isEmpty then some ms else none
      | none => none
  | _ => none

end ChainExplorer.Json
