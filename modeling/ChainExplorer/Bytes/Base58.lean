import ChainExplorer.Bytes.Sha256

/-!
# Base58 and its checksum

Base58 writes a byte string as the base-58 numeral of the number it denotes, with one digit `1` for
each leading zero byte, which the number alone would forget. The checked form appends four bytes of
a doubled SHA-256. Both directions are stated through numbers rather than through digit-by-digit
carries: `radix` gives the shortest digits of a number in any base and `ofRadix` reads them back.
-/

namespace ChainExplorer.Base58

/-- The digits of a number in a base, the first weighing most; zero has none. -/
def radix (base : Nat) (h : 1 < base) (n : Nat) : List Nat :=
  if n = 0 then [] else radix base h (n / base) ++ [n % base]
termination_by n
decreasing_by exact Nat.div_lt_self (by omega) h

/-- The number that digits denote in a base. -/
def ofRadix (base : Nat) (ds : List Nat) : Nat := ds.foldl (fun n d => base * n + d) 0

/-- The fifty-eight digits: no zero, capital o, capital i or small l. -/
def alphabet : List Char :=
  "123456789ABCDEFGHJKLMNPQRSTUVWXYZabcdefghijkmnopqrstuvwxyz".toList

/-- The value of a Base58 digit. -/
def digit? (c : Char) : Option Nat := alphabet.findIdx? (· == c)

/-- The Base58 digit of a value below fifty-eight. -/
def digitChar (n : Nat) : Char := alphabet.getD n '1'

/-- How many elements at the front satisfy a test. -/
def leading {α : Type} (p : α → Bool) (xs : List α) : Nat := (xs.takeWhile p).length

/-- The Base58 text of a byte string. -/
def encode (bs : List UInt8) : List Char :=
  List.replicate (leading (· == 0) bs) '1'
    ++ (radix 58 (by decide) (ofRadix 256 (bs.map UInt8.toNat))).map digitChar

/-- The byte string of a Base58 text; a character that is no digit has none. -/
def decode (cs : List Char) : Option (List UInt8) :=
  (cs.mapM digit?).map fun ds =>
    List.replicate (leading (· == '1') cs) 0
      ++ (radix 256 (by decide) (ofRadix 58 ds)).map UInt8.ofNat

/-- Why a text is no checked Base58 string. -/
inductive Fault where
  | badCharacter
  | tooShort
  | badChecksum
  deriving DecidableEq, Repr

/-- The four bytes that guard a payload. -/
def checksum (payload : List UInt8) : List UInt8 := (Sha256.hashTwice payload).take 4

/-- The text of a payload and its checksum. -/
def encodeCheck (payload : List UInt8) : List Char := encode (payload ++ checksum payload)

/-- The payload of a text whose checksum is right. -/
def decodeCheck (cs : List Char) : Except Fault (List UInt8) :=
  match decode cs with
  | none => .error .badCharacter
  | some bs =>
    if bs.length < 4 then .error .tooShort
    else
      let payload := bs.take (bs.length - 4)
      if bs.drop (bs.length - 4) = checksum payload then .ok payload else .error .badChecksum

/-- The shortest digits of a number denote it. -/
theorem ofRadix_radix (base : Nat) (h : 1 < base) (n : Nat) :
    ofRadix base (radix base h n) = n := by
  induction n using Nat.strongRecOn with
  | ind n ih =>
    rw [radix]
    split
    · rename_i h0; simp [ofRadix, h0]
    · have := ih (n / base) (Nat.div_lt_self (by omega) h)
      simp only [ofRadix, List.foldl_append, List.foldl_cons, List.foldl_nil] at this ⊢
      rw [this]
      exact Nat.div_add_mod n base

theorem lt_of_mem_radix (base : Nat) (h : 1 < base) (n : Nat) {d : Nat} (hd : d ∈ radix base h n) :
    d < base := by
  induction n using Nat.strongRecOn with
  | ind n ih =>
    rw [radix] at hd
    split at hd
    · simp at hd
    · rcases List.mem_append.1 hd with hd | hd
      · exact ih _ (Nat.div_lt_self (by omega) h) hd
      · rw [List.mem_singleton.1 hd]; exact Nat.mod_lt _ (by omega)

theorem digit?_digitChar {n : Nat} (h : n < 58) : digit? (digitChar n) = some n := by
  have all : ∀ d, d < 58 → digit? (digitChar d) = some d := by decide
  exact all n h

end ChainExplorer.Base58
