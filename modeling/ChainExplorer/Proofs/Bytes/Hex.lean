import ChainExplorer.Bytes.Hex
import Mathlib.Data.Nat.Digits.Lemmas
import Mathlib.Tactic.Ring

/-!
# What hexadecimal text stands for

A text of digit pairs is read as bytes or as a number. As bytes it has one spelling up to the case of
its letters (`encode_of_decode`). As a number it weighs its first digit most; turned around pair by
pair it weighs its first pair least, so its value is the little-endian value of the bytes as they
were (`value_reversePairs`).

Both values are also said by place, each digit or byte times a power (`numeralValue_eq`,
`littleEndian_of_decode`).
-/

namespace ChainExplorer.Hex

/-! ## Digits -/

/-- The characters of hexadecimal numerals. -/
def Digit (c : Char) : Prop :=
  ('0' ≤ c ∧ c ≤ '9') ∨ ('a' ≤ c ∧ c ≤ 'f') ∨ ('A' ≤ c ∧ c ≤ 'F')

theorem isDigit_iff {c : Char} : isDigit c = true ↔ Digit c := by
  rw [isDigit, digit?, Digit]
  by_cases hdecimal : '0' ≤ c ∧ c ≤ '9'
  · simp [hdecimal]
  by_cases hsmall : 'a' ≤ c ∧ c ≤ 'f'
  · simp [hdecimal, hsmall]
  by_cases hcapital : 'A' ≤ c ∧ c ≤ 'F'
  · simp [hdecimal, hsmall, hcapital]
  · simp [hdecimal, hsmall, hcapital]

theorem isHex_iff {cs : List Char} : isHex cs = true ↔ ∀ c ∈ cs, Digit c := by
  simp only [isHex, List.all_eq_true, isDigit_iff]

theorem isHexOfLength_iff {n : Nat} {cs : List Char} :
    isHexOfLength n cs = true ↔ cs.length = n ∧ ∀ c ∈ cs, Digit c := by
  rw [isHexOfLength, Bool.and_eq_true, beq_iff_eq, isHex_iff]

theorem Digit.toNat_lt {c : Char} (h : Digit c) : c.toNat < 103 := by
  rcases h with ⟨-, hc⟩ | ⟨-, hc⟩ | ⟨-, hc⟩ <;>
    exact Nat.lt_of_le_of_lt (show c.toNat ≤ _ from hc) (by decide)

/-- A property of digits need only be checked on the characters up to `f`. -/
theorem Digit.of_forall {p : Char → Prop} {c : Char} (h : Digit c)
    (all : ∀ n, n < 103 → isDigit (Char.ofNat n) = true → p (Char.ofNat n)) : p c := by
  have hc := all c.toNat h.toNat_lt
  rw [Char.ofNat_toNat] at hc
  exact hc (isDigit_iff.2 h)

/-- A text of so many hexadecimal digits, of either case. -/
def Numeral (width : Nat) (text : String) : Prop :=
  text.toList.length = width ∧ ∀ c ∈ text.toList, Digit c

theorem Numeral.append {m n : Nat} {s t : String} (hs : Numeral m s) (ht : Numeral n t) :
    Numeral (m + n) (s ++ t) := by
  rw [Numeral, String.toList_append, List.length_append, hs.1, ht.1]
  exact ⟨rfl, List.forall_mem_append.2 ⟨hs.2, ht.2⟩⟩

/-- A digit that is written anew is in lower case. -/
theorem digit?_eq_some {c : Char} {d : Nat} (h : digit? c = some d) :
    d < 16 ∧ digitChar d = lower c := by
  have hc : Digit c := isDigit_iff.1 (by rw [isDigit, h]; rfl)
  exact hc.of_forall (p := fun c => ∀ d ∈ digit? c, d < 16 ∧ digitChar d = lower c) (by decide) d h

/-! ## The case of letters -/

/-- Only capital letters change, and to the digit that they are. -/
theorem digit?_toLower (c : Char) : digit? c.toLower = digit? c := by
  have hlow : ∀ n, n < 91 → digit? (Char.ofNat n).toLower = digit? (Char.ofNat n) := by decide
  rcases Nat.lt_or_ge c.toNat 91 with hlt | hge
  · have hc := hlow c.toNat hlt
    rwa [Char.ofNat_toNat] at hc
  · -- Behind the capital letters every character is kept.
    have hkept : c.toLower = c := by
      apply dif_neg
      rintro ⟨-, hle⟩
      exact absurd (UInt32.le_iff_toNat_le.1 hle) (Nat.not_le.2 hge)
    rw [hkept]

theorem isDigit_toLower (c : Char) : isDigit c.toLower = isDigit c := by
  rw [isDigit, isDigit, digit?_toLower]

theorem digit_toLower_iff {c : Char} : Digit c.toLower ↔ Digit c := by
  rw [← isDigit_iff, ← isDigit_iff, isDigit_toLower]

/-- Reading forgets the case of letters. -/
theorem decode_map_toLower (cs : List Char) : decode (cs.map Char.toLower) = decode cs := by
  fun_induction decode cs with
  | case1 => rfl
  | case2 => rfl
  | case3 a b cs x y rest hrest hx hy ih =>
    simp only [List.map_cons, decode, digit?_toLower, hx, hy, ih, hrest]
  | case4 a b cs hnone ih =>
    simp only [List.map_cons, decode, digit?_toLower, ih]

/-! ## Bytes -/

/-- **Bytes that are written anew are the text they were read from, in lower case.** -/
theorem encode_of_decode {cs : List Char} {bs : List UInt8} (h : decode cs = some bs) :
    encode bs = cs.map lower := by
  fun_induction decode cs generalizing bs with
  | case1 =>
    obtain rfl := Option.some.inj h
    rfl
  | case2 => cases h
  | case3 a b cs x y rest hrest hx hy ih =>
    obtain rfl := Option.some.inj h
    obtain ⟨hx16, hxa⟩ := digit?_eq_some hx
    obtain ⟨hy16, hyb⟩ := digit?_eq_some hy
    have hbyte : (UInt8.ofNat (16 * x + y)).toNat = 16 * x + y :=
      UInt8.toNat_ofNat_of_lt (show 16 * x + y < 256 by omega)
    have hhigh : (16 * x + y) / 16 = x := by omega
    have hlow : (16 * x + y) % 16 = y := by omega
    rw [encode, hbyte, hhigh, hlow, hxa, hyb, ih hrest]
    rfl
  | case4 => cases h

theorem digit_of_decode {cs : List Char} {bs : List UInt8} (h : decode cs = some bs) :
    ∀ c ∈ cs, Digit c := by
  fun_induction decode cs generalizing bs with
  | case1 => exact List.forall_mem_nil _
  | case2 => cases h
  | case3 a b cs x y rest hrest hb ha ih =>
    have digit : ∀ {c d}, digit? c = some d → Digit c := fun hd => by
      rw [← isDigit_iff, isDigit, hd]
      rfl
    exact List.forall_mem_cons.2 ⟨digit ha, List.forall_mem_cons.2 ⟨digit hb, ih hrest⟩⟩
  | case4 => cases h

theorem exists_decode {n : Nat} {cs : List Char} (hlength : cs.length = 2 * n)
    (hhex : ∀ c ∈ cs, Digit c) : ∃ bs, decode cs = some bs ∧ bs.length = n := by
  induction n generalizing cs with
  | zero =>
    obtain rfl := List.eq_nil_of_length_eq_zero hlength
    exact ⟨[], rfl, rfl⟩
  | succ n ih =>
    match cs, hlength with
    | a :: b :: cs, hlength =>
      simp only [List.forall_mem_cons] at hhex
      obtain ⟨x, hx⟩ := Option.isSome_iff_exists.1 (isDigit_iff.2 hhex.1)
      obtain ⟨y, hy⟩ := Option.isSome_iff_exists.1 (isDigit_iff.2 hhex.2.1)
      obtain ⟨bs, hbs, hcount⟩ := ih (by simpa [Nat.mul_add] using hlength) hhex.2.2
      refine ⟨UInt8.ofNat (16 * x + y) :: bs, ?_, congrArg (· + 1) hcount⟩
      rw [decode, hx, hy, hbs]

theorem length_of_decode {cs : List Char} {bs : List UInt8} (h : decode cs = some bs) :
    cs.length = 2 * bs.length := by
  rw [← length_encode, encode_of_decode h, List.length_map]

theorem numeral_encode (bs : List UInt8) :
    Numeral (2 * bs.length) (String.ofList (encode bs)) := by
  rw [Numeral, String.toList_ofList]
  exact ⟨length_encode bs, isHex_iff.1 (isHex_encode bs)⟩

/-! ## Numbers -/

/-- The value of a digit; other characters count as zero. -/
def weight (c : Char) : Nat := (digit? c).getD 0

theorem weight_lt (c : Char) : weight c < 16 := by
  rw [weight]
  cases hd : digit? c with
  | none => decide
  | some d => exact (digit?_eq_some hd).1

/-- The number of a text whose first pair of digits weighs least. -/
def littleEndian : List Char → Nat
  | a :: b :: cs => 16 * weight a + weight b + 256 * littleEndian cs
  | _ => 0

theorem littleEndian_lt (cs : List Char) : littleEndian cs < 16 ^ cs.length := by
  fun_induction littleEndian cs with
  | case1 a b cs ih =>
    have ha := weight_lt a
    have hb := weight_lt b
    have hpower : 16 ^ (a :: b :: cs).length = 256 * 16 ^ cs.length := by
      rw [List.length_cons, List.length_cons, Nat.pow_succ, Nat.pow_succ]
      omega
    omega
  | case2 cs => exact Nat.pow_pos (by decide)

theorem foldl_weight (start : Nat) (cs : List Char) :
    cs.foldl (fun n c => 16 * n + weight c) start = start * 16 ^ cs.length + value cs := by
  induction cs generalizing start with
  | nil => simp [value]
  | cons c cs ih =>
    have hvalue : value (c :: cs) = (16 * 0 + weight c) * 16 ^ cs.length + value cs := ih _
    rw [List.foldl_cons, ih, hvalue, List.length_cons]
    ring

theorem value_cons (c : Char) (cs : List Char) :
    value (c :: cs) = weight c * 16 ^ cs.length + value cs := by
  have h : value (c :: cs) = (16 * 0 + weight c) * 16 ^ cs.length + value cs := foldl_weight _ cs
  rwa [Nat.mul_zero, Nat.zero_add] at h

/-- Each pair that is moved weighs as much as what is already in front of it. -/
theorem value_reverseOnto (acc cs : List Char) :
    value (reverseOnto acc cs) = littleEndian cs * 16 ^ acc.length + value acc := by
  fun_induction reverseOnto acc cs with
  | case1 acc a b cs ih =>
    rw [ih, littleEndian, value_cons, value_cons, List.length_cons, List.length_cons, Nat.pow_succ,
      Nat.pow_succ]
    ring
  | case2 cs acc hshort =>
    have hzero : littleEndian cs = 0 := by
      rw [littleEndian]
      exact hshort
    rw [hzero, Nat.zero_mul, Nat.zero_add]

/-- **A text that is turned around has its little-endian value.** -/
theorem value_reversePairs (cs : List Char) : value (reversePairs cs) = littleEndian cs := by
  rw [reversePairs, value_reverseOnto]
  simp [value]

/-- Turning whole bytes around only moves the digits. -/
theorem perm_reverseOnto (acc : List Char) {cs : List Char} (h : cs.length % 2 = 0) :
    (reverseOnto acc cs).Perm (acc ++ cs) := by
  fun_induction reverseOnto acc cs with
  | case1 acc a b cs ih =>
    have hrest : cs.length % 2 = 0 := by
      rw [List.length_cons, List.length_cons] at h
      omega
    have hfront : ([a, b] ++ acc).Perm (acc ++ [a, b]) := List.perm_append_comm
    rw [List.append_cons acc a, List.append_cons (acc ++ [a]) b, List.append_assoc acc]
    exact (ih hrest).trans (hfront.append_right cs)
  | case2 cs acc hshort =>
    match cs, hshort, h with
    | [], _, _ => rw [List.append_nil]
    | [c], _, h => cases h
    | a :: b :: cs, hshort, _ => exact absurd rfl (hshort a b cs)

/-! ## Zeros in front -/

theorem value_lt (cs : List Char) : value cs < 16 ^ cs.length := by
  induction cs with
  | nil => decide
  | cons c cs ih =>
    have hc : weight c * 16 ^ cs.length ≤ 15 * 16 ^ cs.length :=
      Nat.mul_le_mul_right _ (Nat.le_of_lt_succ (weight_lt c))
    rw [value_cons, List.length_cons, Nat.pow_succ]
    omega

theorem value_dropWhile (cs : List Char) : value (cs.dropWhile (· = '0')) = value cs := by
  induction cs with
  | nil => rfl
  | cons c cs ih =>
    by_cases hc : c = '0'
    · have hzero : weight '0' = 0 := rfl
      rw [List.dropWhile_cons_of_pos (by simpa using hc), ih, hc, value_cons, hzero, Nat.zero_mul,
        Nat.zero_add]
    · rw [List.dropWhile_cons_of_neg (by simpa using hc)]

theorem value_zeros (zeros : Nat) (cs : List Char) :
    value (List.replicate zeros '0' ++ cs) = value cs := by
  rw [← value_dropWhile, List.dropWhile_append_of_pos, value_dropWhile]
  simp

theorem weight_pos {c : Char} (h : Digit c) (hc : c ≠ '0') : 0 < weight c :=
  h.of_forall (p := fun c => c ≠ '0' → 0 < weight c) (by decide) hc

/-- A numeral without zeros in front is as large as its length says. -/
theorem le_value {c : Char} {cs : List Char} (h : Digit c) (hc : c ≠ '0') :
    16 ^ cs.length ≤ value (c :: cs) := by
  have hmany : 1 * 16 ^ cs.length ≤ weight c * 16 ^ cs.length :=
    Nat.mul_le_mul_right _ (weight_pos h hc)
  rw [value_cons]
  omega

/-! ## Bytes as numbers -/

theorem littleEndian_encode_cons (b : UInt8) (bs : List UInt8) :
    littleEndian (encode (b :: bs)) = b.toNat + 256 * littleEndian (encode bs) := by
  have hb := b.toNat_lt
  rw [encode, littleEndian, weight, weight, digit?_digitChar (by omega), digit?_digitChar (by omega)]
  simp only [Option.getD_some]
  omega

/-- The bytes of a number, the lowest first, denote as much of it as they hold. -/
theorem littleEndian_encode_range (n value : Nat) :
    littleEndian (encode ((List.range n).map fun i => UInt8.ofNat (value / 256 ^ i)))
      = value % 256 ^ n := by
  induction n generalizing value with
  | zero => exact (Nat.mod_one value).symm
  | succ n ih =>
    have hshift : (fun i => UInt8.ofNat (value / 256 ^ i)) ∘ Nat.succ
        = fun i => UInt8.ofNat (value / 256 / 256 ^ i) := by
      funext i
      rw [Function.comp_apply, Nat.div_div_eq_div_mul, Nat.pow_succ']
    rw [List.range_succ_eq_map, List.map_cons, List.map_map, hshift, littleEndian_encode_cons, ih,
      Nat.pow_zero, Nat.div_one, Nat.pow_succ', Nat.mod_mul]
    rfl

/-! ## Positional values -/

/-- The number of a big-endian numeral: each digit times the power of sixteen of its place. -/
def numeralValue (cs : List Char) : Nat :=
  ((cs.reverse.map weight).mapIdx fun i digit => digit * 16 ^ i).sum

/-- The number of some bytes, the first weighing least: each byte times the power of 256 of its
place. -/
def bytesValue (bs : List UInt8) : Nat :=
  ((bs.map UInt8.toNat).mapIdx fun i byte => byte * 256 ^ i).sum

theorem numeralValue_eq (cs : List Char) : numeralValue cs = value cs := by
  rw [numeralValue, ← Nat.ofDigits_eq_sum_mapIdx]
  induction cs with
  | nil => rfl
  | cons c cs ih =>
    rw [List.reverse_cons, List.map_append, Nat.ofDigits_append, ih, value_cons, List.map_singleton,
      Nat.ofDigits_singleton, List.length_map, List.length_reverse, Nat.add_comm, Nat.mul_comm]

theorem bytesValue_cons (b : UInt8) (bs : List UInt8) :
    bytesValue (b :: bs) = b.toNat + 256 * bytesValue bs := by
  rw [bytesValue, bytesValue, ← Nat.ofDigits_eq_sum_mapIdx, ← Nat.ofDigits_eq_sum_mapIdx,
    List.map_cons, Nat.ofDigits_cons]

theorem bytesValue_zeros (bs : List UInt8) (zeros : Nat) :
    bytesValue (bs ++ List.replicate zeros 0) = bytesValue bs := by
  induction bs with
  | nil =>
    induction zeros with
    | zero => rfl
    | succ zeros ih =>
      rw [List.nil_append] at ih ⊢
      rw [List.replicate_succ, bytesValue_cons, ih]
      rfl
  | cons b bs ih => rw [List.cons_append, bytesValue_cons, ih, bytesValue_cons]

/-- The number of digit pairs is that of the bytes that they spell. -/
theorem littleEndian_of_decode {cs : List Char} {bs : List UInt8} (h : decode cs = some bs) :
    littleEndian cs = bytesValue bs := by
  fun_induction decode cs generalizing bs with
  | case1 =>
    cases h
    rfl
  | case2 => cases h
  | case3 a b cs x y rest hrest hb ha ih =>
    obtain rfl := Option.some.inj h
    have hx := (digit?_eq_some ha).1
    have hy := (digit?_eq_some hb).1
    have hbyte : (UInt8.ofNat (16 * x + y)).toNat = 16 * x + y :=
      UInt8.toNat_ofNat_of_lt (show 16 * x + y < 256 by omega)
    rw [littleEndian, weight, weight, ha, hb, bytesValue_cons, hbyte, ih hrest]
    rfl
  | case4 => cases h

end ChainExplorer.Hex
