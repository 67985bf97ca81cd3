import ChainExplorer.Proofs.Binary64.Rounding
import ChainExplorer.Proofs.Json.Written
import ChainExplorer.Proofs.Text.Numeral

/-!
# Decimals that are read as numbers

A decimal without a sign and an exponent is read in two stages. Its digits go into a word for as
long as they fit (`Scaled.whole`, `Scaled.fraction`), and what has come of that is made a binary64
value in two roundings, that of the digits and that of their quotient by a power of ten
(`value?_of_places`). So all digits of a decimal count if they fit a word together, and of any other
decimal nearly a word full does.
-/

namespace ChainExplorer.Json

open ChainExplorer.Text ChainExplorer.Binary64

/-! ## Digits that fit -/

namespace Scaled

/-- What is in the word is too great for another digit, or nearly so. -/
def Full (s : Scaled) : Prop := wordBound ≤ 10 * s.significand + 9

theorem fraction_of_lt {ds : List Char} {s : Scaled}
    (h : s.significand * 10 ^ ds.length + ofDigits ds < wordBound) :
    s.fraction ds = ⟨s.significand * 10 ^ ds.length + ofDigits ds, s.exponent - ds.length⟩ := by
  induction ds generalizing s with
  | nil => simp [fraction, ofDigits]
  | cons c ds ih =>
    rw [← foldl_digits, List.foldl_cons] at h ⊢
    have hnext := Nat.lt_of_le_of_lt (le_foldl_digits ds _) h
    rw [foldl_digits] at h ⊢
    simp only [fraction, if_pos hnext]
    rw [ih h]
    simp only [List.length_cons, Scaled.mk.injEq, true_and]
    omega

/-- Some digits behind the point are taken in: all of them, or as many as a word has room for. -/
theorem exists_fraction_eq (s : Scaled) (ds : List Char) :
    ∃ taken rest, ds = taken ++ rest ∧
      s.fraction ds
        = ⟨s.significand * 10 ^ taken.length + ofDigits taken, s.exponent - taken.length⟩ ∧
      (rest = [] ∨ (s.fraction ds).Full) := by
  induction ds generalizing s with
  | nil => exact ⟨[], [], rfl, by simp [fraction, ofDigits], .inl rfl⟩
  | cons c ds ih =>
    by_cases hnext : 10 * s.significand + (digit? c).getD 0 < wordBound
    · obtain ⟨taken, rest, rfl, heq, hrest⟩ :=
        ih ⟨10 * s.significand + (digit? c).getD 0, s.exponent - 1⟩
      have hstep : s.fraction (c :: (taken ++ rest)) = fraction
          ⟨10 * s.significand + (digit? c).getD 0, s.exponent - 1⟩ (taken ++ rest) := by
        simp only [fraction, if_pos hnext]
      rw [hstep]
      refine ⟨c :: taken, rest, rfl, ?_, hrest⟩
      rw [heq, ← foldl_digits, ← foldl_digits, List.foldl_cons]
      simp only [List.length_cons, Scaled.mk.injEq, true_and]
      omega
    · have hstop : s.fraction (c :: ds) = s := by
        simp only [fraction, if_neg hnext]
      refine ⟨[], c :: ds, rfl, ?_, .inr ?_⟩
      · rw [hstop]
        simp [ofDigits]
      · rw [hstop, Full]
        have := digit?_getD_lt c
        omega

theorem fraction_lt {s : Scaled} (hs : s.significand < wordBound) (ds : List Char) :
    (s.fraction ds).significand < wordBound := by
  induction ds generalizing s with
  | nil => exact hs
  | cons c ds ih =>
    simp only [fraction]
    split
    · rename_i hnext
      exact ih hnext
    · exact hs

theorem whole_lt {s : Scaled} (hs : s.significand < wordBound) (ds : List Char) :
    (s.whole ds).significand < wordBound := by
  induction ds generalizing s with
  | nil => exact hs
  | cons c ds ih =>
    simp only [whole]
    split
    · rename_i hnext
      exact ih hnext
    · exact hs

/-- A whole part with too many digits fills a word, and leaves at least one power of ten over. -/
theorem whole_of_ge {ds : List Char} {s : Scaled} (hs : s.significand < wordBound)
    (h : wordBound ≤ s.significand * 10 ^ ds.length + ofDigits ds) :
    (s.whole ds).Full ∧ s.exponent < (s.whole ds).exponent := by
  induction ds generalizing s with
  | nil =>
    simp only [List.length_nil, Nat.pow_zero, Nat.mul_one, ofDigits, List.foldl_nil] at h
    omega
  | cons c ds ih =>
    rw [← foldl_digits, List.foldl_cons, foldl_digits] at h
    simp only [whole]
    split
    · rename_i hnext
      exact ih hnext h
    · have := digit?_getD_lt c
      simp only [Full]
      omega

end Scaled

/-! ## From digits to a value -/

theorem negative_tenPow (k : ℕ) : (tenPow k).negative = false := by
  have houtcome := nearest_one_outcome false (Nat.pow 10 k)
  rw [tenPow]
  generalize nearest false (Nat.pow 10 k) 1 = power at houtcome
  cases power with
  | none => rfl
  | some x => exact houtcome.1

theorem size_tenPow {k : ℕ} (hk : k ≤ 15) : (tenPow k).size = 10 ^ k := by
  have hle : Nat.pow 10 k ≤ Nat.pow 10 15 := Nat.pow_le_pow_right (by decide) hk
  have hword : ((Nat.pow 10 k : ℕ) : ℚ) ≤ wordBound := by
    exact_mod_cast hle.trans (by decide)
  obtain ⟨x, hx, -, hrounds, -⟩ := (nearest_one_outcome false _).exists_word hword
  have hten : tenPow k = x := congrArg (Option.getD · (zero false)) hx
  rw [hten, hrounds.eq_of_natCast (hle.trans_lt (by decide))]
  exact Nat.cast_pow 10 k

/-- No power of ten that a value is multiplied by is less than one. -/
theorem one_le_size_tenPow {k : ℕ} (hk : k ≤ 308) : 1 ≤ (tenPow k).size := by
  have hall : ∀ k, k < 309 →
      leadingDigit ≤ (tenPow k).significand ∧ -52 ≤ (tenPow k).exponent := by
    decide +kernel
  obtain ⟨hsignificand, hexponent⟩ := hall k (Nat.lt_succ_of_le hk)
  have hcast : (leadingDigit : ℚ) ≤ (tenPow k).significand := by exact_mod_cast hsignificand
  calc (1 : ℚ) = leadingDigit * 2 ^ (-52 : ℤ) := by norm_num [leadingDigit]
    _ ≤ (tenPow k).size :=
      mul_le_mul hcast (two_zpow_le hexponent) (two_zpow_pos _).le (Nat.cast_nonneg _)

variable {s : Scaled}

/-- The digits of a scaled decimal are a value before they are scaled. -/
theorem nearest_significand (hs : s.significand < wordBound) :
    ∃ y, nearest false s.significand 1 = some y ∧ y.negative = false ∧
      Rounds s.significand y.size ∧ y.size ≤ wordBound := by
  have hword : (s.significand : ℚ) ≤ wordBound := by exact_mod_cast hs.le
  exact (nearest_one_outcome false _).exists_word hword

/-- A quotient by one of the powers of ten that are values themselves. -/
theorem div?_tenPow_outcome (y : Binary64) {k : ℕ} (hk : k ≤ 15) :
    Outcome y.negative (y.size / 10 ^ k) (y.div? (tenPow k)) := by
  have hten := size_tenPow hk
  have hne : (tenPow k).significand ≠ 0 := by
    intro hzero
    rw [size, hzero, Nat.cast_zero, zero_mul] at hten
    exact pow_ne_zero k (by norm_num) hten.symm
  have hquotient := y.div?_outcome hne
  rwa [hten, negative_tenPow, Bool.bne_false] at hquotient

/-- **A word with a few places has a value**, rounded twice. -/
theorem value?_of_places (hs : s.significand < wordBound) {k : ℕ} (hk : k ≤ 15)
    (hexponent : s.exponent = -k) :
    ∃ x a, s.value? false = some x ∧ x.negative = false ∧ Rounds s.significand a ∧
      Rounds (a / 10 ^ k) x.size := by
  obtain ⟨y, hy, hnegative, hrounds, hle⟩ := nearest_significand hs
  by_cases hzero : s.significand = 0
  · refine ⟨y, y.size, ?_, hnegative, hrounds, ?_⟩
    · rw [Scaled.value?, hy]
      simp only [if_pos hzero]
    · rw [hzero, Nat.cast_zero] at hrounds
      rw [hrounds.eq_zero, zero_div]
      exact hrounds.eq_zero ▸ hrounds.self
  · have houtcome : Outcome false (y.size / 10 ^ k) (s.value? false) := by
      rw [Scaled.value?, hy, hexponent]
      simp only [if_neg hzero, if_neg (show ¬ (308 : ℤ) < -(k : ℤ) by omega)]
      split
      · obtain rfl : k = 0 := by omega
        have hproduct := y.mul?_outcome (tenPow 0)
        rwa [size_tenPow hk, hnegative, negative_tenPow, pow_zero, mul_one,
          ← div_one y.size] at hproduct
      · have hstays : sink 2 y (-(k : ℤ)) = (y, -(k : ℤ)) := if_neg (by omega)
        rw [hstays]
        simp only [if_neg (show ¬ -(k : ℤ) < -308 by omega), Int.neg_neg, Int.toNat_natCast]
        exact hnegative ▸ div?_tenPow_outcome y hk
    have hquotient : y.size / 10 ^ k ≤ wordBound :=
      (div_le_self y.size_nonneg (one_le_pow₀ (by norm_num))).trans hle
    obtain ⟨x, hx, hsign, hsize, -⟩ := houtcome.exists_word hquotient
    exact ⟨x, y.size, hx, hsign, hrounds, hsize⟩

/-- A value with powers of ten to spare is at least what its digits are. -/
theorem le_of_value? (hs : s.significand < wordBound) (hexponent : 0 ≤ s.exponent) {x : Binary64}
    (h : s.value? false = some x) :
    ∃ a q, Rounds s.significand a ∧ a ≤ q ∧ Rounds q x.size := by
  obtain ⟨y, hy, -, hrounds, -⟩ := nearest_significand hs
  rw [Scaled.value?, hy] at h
  simp only at h
  split at h
  · obtain rfl := Option.some.inj h
    exact ⟨y.size, y.size, hrounds, le_rfl, hrounds.self⟩
  split at h
  · cases h
  · rename_i hsmall
    have hproduct := y.mul?_outcome (tenPow s.exponent.toNat)
    rw [h] at hproduct
    refine ⟨y.size, _, hrounds, ?_, hproduct.2⟩
    exact le_mul_of_one_le_right y.size_nonneg (one_le_size_tenPow (by omega))

/-! ## Texts -/

theorem read?_of_readMagnitude {c : Char} (hc : isDigit c = true) {tail : List Char}
    {result : Option Json}
    (h : readMagnitude false (c :: tail) = result.map fun v => (v, [])) :
    read? (c :: tail) = result := by
  rw [read?, fuelFor, readValue_of_begins (.inr hc), readNumber_of_digit hc, h]
  cases result <;> rfl

theorem Whole.exists_cons {ds : List Char} (hw : Whole ds) :
    ∃ c tail, ds = c :: tail ∧ isDigit c = true := by
  obtain ⟨c, tail, rfl⟩ := List.exists_cons_of_ne_nil hw.ne_nil
  exact ⟨c, tail, rfl, hw.digits c List.mem_cons_self⟩

/-- A run of digits is read as a whole number. -/
theorem read?_whole {ws : List Char} (hw : Whole ws) :
    read? ws = wholeNumber false (Scaled.whole ⟨0, 0⟩ ws) := by
  have hparted : Parted [] := fun c hc => by cases hc
  have hread : readMagnitude false (ws ++ []) = _ := readMagnitude_append hw hparted.head
  rw [readTail_of_parted hparted, List.append_nil] at hread
  obtain ⟨c, tail, rfl, hc⟩ := hw.exists_cons
  exact read?_of_readMagnitude hc hread

/-- Digits behind a point are read into what the ones before it have come to. -/
theorem read?_fraction {ws ds : List Char} (hw : Whole ws) (hne : ds ≠ [])
    (hd : ∀ c ∈ ds, isDigit c = true) :
    read? (ws ++ '.' :: ds)
      = (((Scaled.whole ⟨0, 0⟩ ws).fraction ds).value? false).map float := by
  have hread : readMagnitude false (ws ++ '.' :: ds) = _ :=
    readMagnitude_append hw (by simp [isDigit, digit?])
  have hspan : spanDigits (ds ++ []) = (ds, []) := spanDigits_append hd (by simp)
  rw [List.append_nil] at hspan
  rw [readTail, hspan] at hread
  simp only [List.isEmpty_eq_false_iff.2 hne, Bool.false_eq_true, if_false] at hread
  obtain ⟨c, tail, rfl, hc⟩ := hw.exists_cons
  refine read?_of_readMagnitude hc ?_
  rw [Option.map_map]
  exact hread

end ChainExplorer.Json
