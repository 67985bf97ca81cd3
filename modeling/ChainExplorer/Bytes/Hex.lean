/-!
# Hexadecimal text

Bytes written as two digits each. Reading takes digits of either case and writing uses the lower
case, so writing what was read brings a numeral into its normal form. `reversePairs` turns the
order of the bytes around on the text itself, which is how a little-endian number on a tape becomes
a numeral.
-/

namespace ChainExplorer.Hex

/-- The value of a hexadecimal digit of either case. -/
def digit? (c : Char) : Option Nat :=
  if '0' ≤ c ∧ c ≤ '9' then some (c.toNat - 48)
  else if 'a' ≤ c ∧ c ≤ 'f' then some (c.toNat - 87)
  else if 'A' ≤ c ∧ c ≤ 'F' then some (c.toNat - 55)
  else none

/-- Whether a character is a hexadecimal digit. -/
def isDigit (c : Char) : Bool := (digit? c).isSome

/-- Whether a text consists of hexadecimal digits alone. -/
def isHex (cs : List Char) : Bool := cs.all isDigit

/-- Whether a text is a run of exactly `n` hexadecimal digits. -/
def isHexOfLength (n : Nat) (cs : List Char) : Bool := cs.length == n && isHex cs

/-- The lower-case digit of a value below sixteen. -/
def digitChar (n : Nat) : Char :=
  if n % 16 < 10 then Char.ofNat (48 + n % 16) else Char.ofNat (87 + n % 16)

/-- Two lower-case digits for each byte. -/
def encode : List UInt8 → List Char
  | [] => []
  | b :: bs => digitChar (b.toNat / 16) :: digitChar (b.toNat % 16) :: encode bs

/-- The bytes of a text of digit pairs; an odd digit or another character has none. -/
def decode : List Char → Option (List UInt8)
  | [] => some []
  | [_] => none
  | a :: b :: cs =>
    match digit? a, digit? b, decode cs with
    | some x, some y, some bs => some (UInt8.ofNat (16 * x + y) :: bs)
    | _, _, _ => none

/-- The number that a run of digits denotes, the first digit weighing most. -/
def value (cs : List Char) : Nat :=
  cs.foldl (fun n c => 16 * n + (digit? c).getD 0) 0

/-- A letter digit in lower case; every other character as it is. -/
def lower (c : Char) : Char := if 'A' ≤ c ∧ c ≤ 'F' then Char.ofNat (c.toNat + 32) else c

/-- Puts the digit pairs of the second text, last pair first, in front of the first. -/
def reverseOnto : List Char → List Char → List Char
  | acc, a :: b :: cs => reverseOnto (a :: b :: acc) cs
  | acc, _ => acc

/-- The same bytes in the opposite order. -/
def reversePairs (cs : List Char) : List Char := reverseOnto [] cs

/-- The bytes of the range from `start` to before `stop` in the opposite order, where the range is
not empty, lies in an ASCII text and holds whole bytes. -/
def reverseRange? (cs : List Char) (start stop : Nat) : Option (List Char) :=
  if start < stop ∧ stop ≤ cs.length ∧ (stop - start) % 2 = 0 ∧ cs.all (·.toNat < 128) then
    some (reversePairs ((cs.drop start).take (stop - start)))
  else none

/-! ## Reading undoes writing -/

theorem digit?_digitChar {n : Nat} (h : n < 16) : digit? (digitChar n) = some n := by
  have all : ∀ d, d < 16 → digit? (digitChar d) = some d := by decide
  exact all n h

theorem decode_encode (bs : List UInt8) : decode (encode bs) = some bs := by
  induction bs with
  | nil => rfl
  | cons b bs ih =>
    have hb := b.toNat_lt
    have h : 16 * (b.toNat / 16) + b.toNat % 16 = b.toNat := by omega
    simp [encode, decode, digit?_digitChar (show b.toNat / 16 < 16 by omega),
      digit?_digitChar (show b.toNat % 16 < 16 by omega), ih, h]

theorem length_encode (bs : List UInt8) : (encode bs).length = 2 * bs.length := by
  induction bs with
  | nil => rfl
  | cons b bs ih => simp [encode, ih]; omega

theorem isDigit_digitChar (n : Nat) : isDigit (digitChar n) = true := by
  have all : ∀ d, d < 16 → isDigit (digitChar d) = true := by decide
  have h : digitChar n = digitChar (n % 16) := by simp [digitChar]
  rw [h]
  exact all _ (by omega)

theorem isHex_encode (bs : List UInt8) : isHex (encode bs) = true := by
  induction bs with
  | nil => rfl
  | cons b bs ih =>
    simp only [isHex, encode, List.all_cons, isDigit_digitChar, Bool.true_and] at ih ⊢
    exact ih

end ChainExplorer.Hex
