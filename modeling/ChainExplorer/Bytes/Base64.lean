/-!
# Base64

The encoding of credentials: three bytes make four digits of six bits, and the last group is filled
up with equals signs. Nothing is decoded.
-/

namespace ChainExplorer.Base64

/-- The digit of a value below sixty-four. -/
def digitChar (n : Nat) : Char :=
  if n < 26 then Char.ofNat (65 + n)
  else if n < 52 then Char.ofNat (97 + (n - 26))
  else if n < 62 then Char.ofNat (48 + (n - 52))
  else if n = 62 then '+' else '/'

/-- The six bits of a number at a place, counted from the lowest. -/
def sextet (n place : Nat) : Char := digitChar (n / Nat.pow 64 place % 64)

/-- The text of a run of bytes. -/
def encode : List UInt8 → List Char
  | [] => []
  | [a] =>
    let n := a.toNat * 65536
    [sextet n 3, sextet n 2, '=', '=']
  | [a, b] =>
    let n := a.toNat * 65536 + b.toNat * 256
    [sextet n 3, sextet n 2, sextet n 1, '=']
  | a :: b :: c :: rest =>
    let n := a.toNat * 65536 + b.toNat * 256 + c.toNat
    sextet n 3 :: sextet n 2 :: sextet n 1 :: sextet n 0 :: encode rest

theorem length_encode (bytes : List UInt8) :
    (encode bytes).length = 4 * ((bytes.length + 2) / 3) := by
  induction bytes using encode.induct with
  | case1 => rfl
  | case2 a => simp [encode]
  | case3 a b => simp [encode]
  | case4 a b c rest ih => simp [encode, ih]; omega

end ChainExplorer.Base64
