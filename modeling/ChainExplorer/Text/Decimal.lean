import ChainExplorer.Words

/-!
# Decimal numerals

Reading and writing natural numbers in base ten over lists of characters. Only the ASCII digits
count: a full-width or Arabic-Indic digit is no digit here, because the amounts, ids and fee rates
that go through this module are read by byte.
-/

namespace ChainExplorer.Text

/-- The value of an ASCII digit. -/
def digit? (c : Char) : Option Nat :=
  if '0' ≤ c ∧ c ≤ '9' then some (c.toNat - 48) else none

/-- Whether a character is an ASCII digit. -/
def isDigit (c : Char) : Bool := (digit? c).isSome

/-- The number that a run of digits denotes; anything else in the run counts as zero. -/
def ofDigits (cs : List Char) : Nat :=
  cs.foldl (fun n c => 10 * n + (digit? c).getD 0) 0

/-- The longest run of digits at the front, and what follows it. -/
def spanDigits : List Char → List Char × List Char
  | [] => ([], [])
  | c :: cs => if isDigit c then ((c :: (spanDigits cs).1), (spanDigits cs).2) else ([], c :: cs)

/-- Reads a numeral: one digit or more, below `bound`. -/
def numeral? (bound : Nat) (cs : List Char) : Option Nat :=
  if !cs.isEmpty && cs.all isDigit && ofDigits cs < bound then some (ofDigits cs) else none

/-- Reads a numeral that may carry a plus sign. -/
def unsigned? (bound : Nat) : List Char → Option Nat
  | '+' :: cs => numeral? bound cs
  | cs => numeral? bound cs

/-- Reads a word. -/
def word? (cs : List Char) : Option UInt64 := (unsigned? wordBound cs).map UInt64.ofNat

/-- The digit of a value below ten. -/
def digitChar (n : Nat) : Char := Char.ofNat (48 + n % 10)

/-- The numeral of a number, without leading zeros. -/
def toDigits (n : Nat) : List Char :=
  if n < 10 then [digitChar n] else toDigits (n / 10) ++ [digitChar n]
termination_by n
decreasing_by omega

/-- The numeral of a number. -/
def decimal (n : Nat) : String := String.ofList (toDigits n)

/-- The numeral of an integer; a minus sign goes before the magnitude. -/
def signedDecimal (i : Int) : String :=
  if i < 0 then "-" ++ decimal i.natAbs else decimal i.natAbs

/-- A run of digits filled with zeros on the left to a width. -/
def padLeft (width : Nat) (cs : List Char) : List Char :=
  List.replicate (width - cs.length) '0' ++ cs

/-- A run of digits filled with zeros on the right to a width. -/
def padRight (width : Nat) (cs : List Char) : List Char :=
  cs ++ List.replicate (width - cs.length) '0'

theorem digit?_digitChar (n : Nat) : digit? (digitChar n) = some (n % 10) := by
  have h : ∀ d, d < 10 → digit? (digitChar d) = some d := by decide
  simpa [digitChar] using h (n % 10) (by omega)

theorem isDigit_of_mem_toDigits (n : Nat) {c : Char} (h : c ∈ toDigits n) : isDigit c = true := by
  induction n using Nat.strongRecOn with
  | ind n ih =>
    rw [toDigits] at h
    split at h
    · rw [List.mem_singleton.1 h, isDigit, digit?_digitChar]; rfl
    · rcases List.mem_append.1 h with h | h
      · exact ih _ (by omega) h
      · rw [List.mem_singleton.1 h, isDigit, digit?_digitChar]; rfl

/-- A numeral reads back as the number it was written from. -/
theorem ofDigits_toDigits (n : Nat) : ofDigits (toDigits n) = n := by
  induction n using Nat.strongRecOn with
  | ind n ih =>
    rw [toDigits]
    split
    · simp [ofDigits, digit?_digitChar]; omega
    · have := ih (n / 10) (by omega)
      simp only [ofDigits, List.foldl_append, List.foldl_cons, List.foldl_nil] at this ⊢
      rw [this, digit?_digitChar]
      simp only [Option.getD_some]
      omega

theorem toDigits_ne_nil (n : Nat) : toDigits n ≠ [] := by
  rw [toDigits]; split <;> simp

end ChainExplorer.Text
