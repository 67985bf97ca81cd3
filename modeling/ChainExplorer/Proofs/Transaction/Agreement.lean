import ChainExplorer.Proofs.Json.Scaled
import ChainExplorer.Proofs.Transaction.Amount
import Mathlib.Tactic.IntervalCases

/-!
# An amount as a number and as a string

An amount may stand in a transaction as a number or as a string of the same characters. The string
is read exactly. The number is to be rounded to the nearest base unit, which for six places is the
same, but it is rounded three times on its way: its digits become a value, a power of ten divides
this, and a million multiplies it (`ReadAs`). What comes out grows with the digits, so a few computed
values settle what happens at the ends, and the error of three roundings settles the rest.

Up to a little over `2 ^ 32` coins that error is less than half a base unit, and the number and the
string are the same amount. Further up they are the same exactly where the roundings end at the
amount that is written, and where both are refused (`same_amount_iff`). The first number that misses
has one base unit too many (`number_exceeds_string`).
-/

namespace ChainExplorer.Amount

open ChainExplorer.Text ChainExplorer.Binary64

/-! ## Three roundings -/

/-- What so many of the `k`-th places of a coin come to if they are read as a number of coins: they
are rounded as they are, then as coins, and then as base units. -/
def ReadAs (n k units : ℕ) : Prop :=
  ∃ a f p, Rounds n a ∧ Rounds (a / 10 ^ k) f ∧ Rounds (f * 10 ^ 6) p ∧ units = ⌊p + 1 / 2⌋₊

namespace ReadAs

variable {n n' k units units' : ℕ}

theorem mono (h : ReadAs n k units) (h' : ReadAs n' k units') (hn : n ≤ n') : units ≤ units' := by
  obtain ⟨a, f, p, ha, hf, hp, rfl⟩ := h
  obtain ⟨a', f', p', ha', hf', hp', rfl⟩ := h'
  have haa : a ≤ a' := ha.mono ha' (by exact_mod_cast hn)
  have hff : f ≤ f' := hf.mono hf' (div_le_div_of_nonneg_right haa (by positivity))
  have hpp : p ≤ p' := hp.mono hp' (mul_le_mul_of_nonneg_right hff (by positivity))
  exact Nat.floor_le_floor (by linarith)

theorem unique (h : ReadAs n k units) (h' : ReadAs n k units') : units = units' :=
  le_antisymm (h.mono h' le_rfl) (h'.mono h le_rfl)

/-- The three roundings as they are computed. -/
def compute (n k : ℕ) : Option ℕ := do
  let a ← nearest false n 1
  let f ← a.div? (Json.tenPow k)
  let p ← f.mul? coinValue
  return p.roundMagnitude

theorem of_compute (hk : k ≤ 15) (h : compute n k = some units) : ReadAs n k units := by
  simp only [compute, Option.bind_eq_bind, Option.bind_eq_some_iff, Option.pure_def,
    Option.some.injEq] at h
  obtain ⟨a, ha, f, hf, p, hp, rfl⟩ := h
  have hdigits := nearest_one_outcome false n
  have hcoins := Json.div?_tenPow_outcome a hk
  have hunits := f.mul?_outcome coinValue
  rw [ha] at hdigits
  rw [hf] at hcoins
  rw [hp, size_coinValue] at hunits
  exact ⟨a.size, f.size, p.size, hdigits.2, hcoins.2, hunits.2, roundMagnitude_eq p⟩

/-- Where the digits are few enough not to be rounded, zeros behind them make no difference. -/
theorem pad (h : ReadAs n k units) (hk : k ≤ 6) (hn : n * 10 ^ (6 - k) < 2 * leadingDigit) :
    ReadAs (n * 10 ^ (6 - k)) 6 units := by
  obtain ⟨a, f, p, ha, hf, hp, hunits⟩ := h
  have hshort : n < 2 * leadingDigit :=
    lt_of_le_of_lt (Nat.le_mul_of_pos_right n (Nat.pow_pos (by decide))) hn
  obtain ⟨b, hb⟩ := exists_rounds (Nat.cast_nonneg (n * 10 ^ (6 - k)))
  refine ⟨b, f, p, hb, ?_, hp, hunits⟩
  have hsplit : (10 : ℚ) ^ 6 = 10 ^ (6 - k) * 10 ^ k := by
    rw [← pow_add, Nat.sub_add_cancel hk]
  rw [ha.eq_of_natCast hshort] at hf
  rw [hb.eq_of_natCast hn, hsplit]
  push_cast
  rwa [mul_comm, mul_div_mul_left _ _ (by positivity)]

/-- Below `2 ^ 32` coins the roundings do not add up to half a base unit. -/
theorem eq_of_coins_lt (h : ReadAs n 6 units) (hn : n < 2 ^ 32 * 10 ^ 6) : units = n := by
  obtain ⟨a, f, p, ha, hf, hp, rfl⟩ := h
  have hlt : (n : ℚ) < 2 ^ 32 * 10 ^ 6 := by exact_mod_cast hn
  have hsignificand : n < 2 * leadingDigit := hn.trans (by norm_num [leadingDigit])
  rw [ha.eq_of_natCast hsignificand] at hf
  have hcoins : |f - n / 10 ^ 6| ≤ 2 ^ (-21 : ℤ) / 2 := by
    apply hf.near (by decide)
    norm_num
    linarith
  have hunits : |p - f * 10 ^ 6| ≤ 2 ^ (-1 : ℤ) / 2 := by
    apply hp.near (by decide)
    have := (abs_le.1 hcoins).2
    norm_num at this ⊢
    linarith
  have hnear : |p - n| < 1 / 2 := by
    rw [abs_lt]
    rw [abs_le] at hcoins hunits
    norm_num at hcoins hunits
    constructor <;> linarith
  rw [abs_lt] at hnear
  rw [Nat.floor_eq_iff (by linarith [hp.nonneg])]
  constructor <;> linarith

/-- The least amount in base units that a number may miss. -/
def exactBound : ℕ := 4294967296000011

theorem eq_of_lt (h : ReadAs n k units) (hk : k ≤ 6) (hn : n * 10 ^ (6 - k) < exactBound) :
    units = n * 10 ^ (6 - k) := by
  have hpad := h.pad hk (hn.trans (by decide))
  generalize n * 10 ^ (6 - k) = m at *
  rcases Nat.lt_or_ge m (2 ^ 32 * 10 ^ 6) with hlt | hge
  · exact hpad.eq_of_coins_lt hlt
  · -- The few beyond are exact as well, which only the computation shows.
    have hall : ∀ i, i < 11 →
        compute (4294967296000000 + i) 6 = some (4294967296000000 + i) := by
      decide +kernel
    obtain ⟨i, rfl⟩ : ∃ i, m = 4294967296000000 + i := ⟨m - 4294967296000000, by omega⟩
    exact hpad.unique (of_compute (by decide) (hall i (by unfold exactBound at hn; omega)))

/-- Three roundings are off by four parts in `2 ^ 53` at most, and then by half a base unit. -/
theorem near (h : ReadAs n k units) (hn : 2 * 10 ^ k ≤ n) :
    |(units : ℚ) - n / 10 ^ k * 10 ^ 6| ≤ (n : ℚ) / 10 ^ k * 10 ^ 6 / 2 ^ 51 + 1 / 2 := by
  obtain ⟨a, f, p, ha, hf, hp, rfl⟩ := h
  have htiny : (2 : ℚ) ^ (minExponent + 52) ≤ 1 := by
    rw [← zpow_zero (2 : ℚ)]
    exact two_zpow_le (by decide)
  have hten : (0 : ℚ) < 10 ^ k := by positivity
  have hone : (1 : ℚ) ≤ 10 ^ k := one_le_pow₀ (by norm_num)
  have hcoins : 2 ≤ (n : ℚ) / 10 ^ k := by
    rw [le_div_iff₀ hten]
    exact_mod_cast hn
  have hsplit : (n : ℚ) = n / 10 ^ k * 10 ^ k := (div_mul_cancel₀ _ hten.ne').symm
  have hdigits : |a / 10 ^ k - n / 10 ^ k| ≤ n / 10 ^ k / 2 ^ 53 := by
    have hn1 : (1 : ℚ) ≤ n := by
      rw [hsplit]
      nlinarith
    have := ha.relative (htiny.trans hn1)
    rw [← sub_div, abs_div, abs_of_pos hten, div_right_comm]
    exact div_le_div_of_nonneg_right this hten.le
  generalize (n : ℚ) / 10 ^ k = q at *
  generalize a / 10 ^ k = a' at *
  rw [abs_le] at hdigits
  have hquotient := hf.relative (htiny.trans (by linarith))
  rw [abs_le] at hquotient
  have hproduct := hp.relative (htiny.trans (by linarith))
  rw [abs_le] at hproduct
  have hfloor := Nat.floor_le (show 0 ≤ p + 1 / 2 by linarith [hp.nonneg])
  have hceil := Nat.lt_floor_add_one (p + 1 / 2)
  rw [abs_le]
  constructor <;> linarith

/-- What fits a word of base units comes to the bound of words at most. -/
theorem le_wordBound (h : ReadAs n k units) (hk : k ≤ 6) (hn : n * 10 ^ (6 - k) < wordBound) :
    units ≤ wordBound := by
  have hall : ∀ k, k < 7 →
      (compute ((wordBound - 1) / 10 ^ (6 - k)) k).any (· ≤ wordBound) = true := by
    decide +kernel
  obtain ⟨most, hcompute, hmost⟩ := Option.any_eq_true _ _ |>.1 (hall k (Nat.lt_succ_of_le hk))
  have hle : n ≤ (wordBound - 1) / 10 ^ (6 - k) := by
    rw [Nat.le_div_iff_mul_le (Nat.pow_pos (by decide))]
    exact Nat.le_sub_one_of_lt hn
  exact (h.mono (of_compute (by omega) hcompute) hle).trans (of_decide_eq_true hmost)

/-- The least digits that come to more than the bound of words, by the number of places. -/
def leastOver : ℕ → ℕ
  | 0 => 18446744073710
  | 1 => 184467440737096
  | 2 => 1844674407370956
  | 3 => 18446744073709555
  | 4 => 184467440737095536
  | _ => 1844674407370955393

theorem leastOver_lt (k : ℕ) : leastOver k < wordBound := by
  unfold leastOver
  split <;> decide

/-- Up to there, what does not fit a word of base units comes to exactly one more than a word. -/
theorem eq_wordBound (h : ReadAs n k units) (hleast : 2 ≤ k) (hk : k ≤ 5)
    (hword : wordBound / 10 ^ (6 - k) ≤ n) (hn : n < leastOver k) : units = wordBound := by
  have hall : ∀ k, k < 6 → 2 ≤ k →
      compute (wordBound / 10 ^ (6 - k)) k = some wordBound ∧
      compute (leastOver k - 1) k = some wordBound := by
    decide +kernel
  obtain ⟨hlower, hupper⟩ := hall k (Nat.lt_succ_of_le hk) hleast
  have hge := (of_compute (by omega) hlower).mono h hword
  have hle := h.mono (of_compute (by omega) hupper) (Nat.le_sub_one_of_lt hn)
  exact le_antisymm hle hge

theorem wordBound_lt (h : ReadAs n k units) (hk : k ≤ 5) (hn : leastOver k ≤ n) :
    wordBound < units := by
  have hall : ∀ k, k < 6 → (compute (leastOver k) k).any (wordBound < ·) = true := by
    decide +kernel
  obtain ⟨least, hcompute, hleast⟩ := Option.any_eq_true _ _ |>.1 (hall k (Nat.lt_succ_of_le hk))
  exact (of_decide_eq_true hleast).trans_le ((of_compute (by omega) hcompute).mono h hn)

end ReadAs

/-! ## Literals -/

/-- A decimal as it may stand for a number: no superfluous zeros in front, and a digit behind the
point if there is one. -/
structure Figure.Literal (f : Figure) (text : String) : Prop where
  spells : f.Spells text
  whole : Json.Whole f.whole
  fraction : f.fraction ≠ some []

/-- The base units of a text that stands as a number. -/
def asNumber (text : String) : Option UInt64 :=
  (Json.parse? text).bind fun number => (ofJson number).toOption

/-- The base units of a text that stands as a string. -/
def asString (text : String) : Option UInt64 := (ofJson (.string text)).toOption

/-- The digits of a literal as a reader of numbers takes them in. -/
def Figure.scaled (f : Figure) : Json.Scaled :=
  (Json.Scaled.whole ⟨0, 0⟩ f.whole).fraction f.decimals

namespace Figure

variable {f : Figure} {text : String}

theorem Valid.fraction_digits (h : f.Valid) {ds : List Char} (hds : f.fraction = some ds) :
    ∀ c ∈ ds, Text.isDigit c = true := by
  intro c hc
  refine h.isDigit c (List.mem_append_right _ ?_)
  rwa [decimals, hds]

theorem Literal.parse?_eq (h : f.Literal text) :
    Json.parse? text = if f.fraction = none then Json.wholeNumber false f.scaled
      else (f.scaled.value? false).map .float := by
  obtain ⟨⟨hvalid, htext⟩, hwhole, hfraction⟩ := h
  rw [Json.parse?, htext, chars, scaled, decimals]
  cases hds : f.fraction with
  | none => exact Json.read?_whole hwhole
  | some ds =>
    have hne : ds ≠ [] := by
      rintro rfl
      exact hfraction hds
    exact Json.read?_fraction hwhole hne (hvalid.fraction_digits hds)

theorem scaled_lt (f : Figure) : f.scaled.significand < wordBound :=
  Json.Scaled.fraction_lt (Json.Scaled.whole_lt (by decide) _) _

/-- Digits that fit a word together are all taken in. -/
theorem scaled_of_lt (h : ofDigits f.digits < wordBound) :
    f.scaled = ⟨ofDigits f.digits, -f.decimals.length⟩ := by
  rw [digits, ofDigits_append] at h
  have hfront : ofDigits f.whole < wordBound := by
    refine lt_of_le_of_lt ?_ h
    have : 1 ≤ 10 ^ f.decimals.length := Nat.one_le_pow _ _ (by decide)
    nlinarith
  have hwhole : Json.Scaled.whole ⟨0, 0⟩ f.whole = ⟨ofDigits f.whole, 0⟩ :=
    Json.Scaled.whole_of_lt hfront
  rw [scaled, hwhole, Json.Scaled.fraction_of_lt h, digits, ofDigits_append, Int.zero_sub]

/-- **A number of a few places is read**, and rounded from the digits that are taken in. -/
theorem Literal.exists_value (h : f.Literal text) {k : ℕ} (hk : k ≤ 15)
    (hexponent : f.scaled.exponent = -k) :
    ∃ number x a, Json.parse? text = some number ∧ Says number x ∧ x.negative = false ∧
      Rounds f.scaled.significand a ∧ Rounds (a / 10 ^ k) x.size := by
  obtain ⟨x, a, hx, hnegative, ha, hsize⟩ := Json.value?_of_places f.scaled_lt hk hexponent
  rw [h.parse?_eq, Json.wholeNumber, hx]
  simp only [Option.map_some, Bool.not_false, if_true]
  split
  · split
    · exact ⟨_, x, a, rfl, .inl rfl, hnegative, ha, hsize⟩
    · rename_i hzero
      obtain rfl : k = 0 := by
        rw [not_not] at hzero
        omega
      obtain ⟨hsign, hrounds⟩ := rounds_ofInt f.scaled_lt
      refine ⟨_, _, _, rfl, .inr ⟨_, rfl, rfl⟩, hsign, hrounds, ?_⟩
      rw [pow_zero, div_one]
      exact hrounds.self
  · exact ⟨_, x, a, rfl, .inl rfl, hnegative, ha, hsize⟩

/-- A number with more digits than a word holds is read as something, if at all, that is at least
what the first of them are. -/
theorem Literal.le_value (h : f.Literal text) (hexponent : 0 < f.scaled.exponent) {number : Json}
    (hparse : Json.parse? text = some number) :
    ∃ x a q, Says number x ∧ Rounds f.scaled.significand a ∧ a ≤ q ∧ Rounds q x.size := by
  rw [h.parse?_eq, Json.wholeNumber, if_pos hexponent.ne', ite_self] at hparse
  obtain ⟨x, hx, rfl⟩ := Option.map_eq_some_iff.1 hparse
  obtain ⟨a, q, ha, hle, hq⟩ := Json.le_of_value? f.scaled_lt hexponent.le hx
  exact ⟨x, a, q, .inl rfl, ha, hle, hq⟩

/-- The least amount in base units that is too much for a number, by the number of places. Of six
places the last one is not taken in. -/
def refusedFrom (k : ℕ) : ℕ := ReadAs.leastOver k * 10 ^ (6 - min k 5)

theorem wordBound_lt_refusedFrom {k : ℕ} (hk : k ≤ 6) : wordBound < refusedFrom k := by
  have hall : ∀ k, k < 7 → wordBound < refusedFrom k := by decide
  exact hall k (Nat.lt_succ_of_le hk)

/-- If the digits taken in are not all, they fill a word; either way those of too great an amount
are too many. -/
theorem leastOver_le_of_taken {n t : ℕ} {rest : List Char} (hn : n < wordBound)
    (hshort : t + rest.length ≤ 6) (hrest : rest = [] ∨ wordBound ≤ 10 * n + 9)
    (hover : refusedFrom (t + rest.length)
      ≤ (n * 10 ^ rest.length + ofDigits rest) * 10 ^ (6 - (t + rest.length))) :
    t ≤ 5 ∧ ReadAs.leastOver t ≤ n := by
  by_cases hall : rest = []
  · simp only [hall, List.length_nil, Nat.pow_zero, Nat.mul_one, Nat.add_zero, ofDigits,
      List.foldl_nil] at hshort hover
    rcases Nat.lt_or_ge 5 t with hsix | ht
    · obtain rfl : t = 6 := by omega
      exact absurd (hover.trans_lt (by simpa using hn)) (by decide)
    · rw [refusedFrom, Nat.min_eq_left ht] at hover
      exact ⟨ht, Nat.le_of_mul_le_mul_right hover (Nat.pow_pos (by decide))⟩
  · have hfull := hrest.resolve_left hall
    have hone : 0 < rest.length := List.length_pos_iff.2 hall
    have ht : t ≤ 5 := by omega
    refine ⟨ht, ?_⟩
    simp only [wordBound] at hfull
    rcases ht.eq_or_lt with rfl | hlt
    · have hlength : rest.length = 1 := by omega
      have hlast := ofDigits_lt rest
      have htable : refusedFrom 6 = 18446744073709553930 := rfl
      rw [hlength] at hlast hover
      rw [htable] at hover
      simp only [ReadAs.leastOver]
      omega
    · interval_cases t <;> simp only [ReadAs.leastOver] <;> omega

/-- Of six places that are too many for a word by a little, five are taken in. -/
theorem five_taken {n t : ℕ} {rest : List Char} (hn : n < wordBound) (hsix : t + rest.length = 6)
    (hrest : rest = [] ∨ wordBound ≤ 10 * n + 9)
    (hge : wordBound ≤ n * 10 ^ rest.length + ofDigits rest)
    (hlt : n * 10 ^ rest.length + ofDigits rest < refusedFrom 6) :
    t = 5 ∧ wordBound / 10 ≤ n ∧ n < ReadAs.leastOver 5 := by
  have htable : refusedFrom 6 = 18446744073709553930 := rfl
  rw [htable] at hlt
  have hsome : rest ≠ [] := by
    rintro rfl
    simp [ofDigits] at hge
    omega
  have hfull := hrest.resolve_left hsome
  have hone : rest.length = 1 := by
    have hpos : 0 < rest.length := List.length_pos_iff.2 hsome
    by_contra hmore
    have hhundred : 10 ^ 2 ≤ 10 ^ rest.length := Nat.pow_le_pow_right (by decide) (by omega)
    have := Nat.mul_le_mul_left n hhundred
    simp only [wordBound] at hfull
    omega
  rw [hone] at hlt
  simp only [wordBound, ReadAs.leastOver] at hfull ⊢
  omega

/-- The digits that are taken in of too great an amount are too many. -/
theorem Valid.leastOver_le (h : f.Valid) (hover : refusedFrom f.decimals.length ≤ f.units) :
    ∃ k ≤ 5, ReadAs.leastOver k ≤ f.scaled.significand ∧
      (f.scaled.exponent = -k ∨ k = 0 ∧ 0 < f.scaled.exponent) := by
  have hfit := f.scaled_lt
  by_cases hfront : ofDigits f.whole < wordBound
  · have hwhole : Json.Scaled.whole ⟨0, 0⟩ f.whole = ⟨ofDigits f.whole, 0⟩ :=
      Json.Scaled.whole_of_lt hfront
    rw [scaled, hwhole] at hfit ⊢
    obtain ⟨taken, rest, hdecimals, heq, hrest⟩ :=
      Json.Scaled.exists_fraction_eq ⟨ofDigits f.whole, 0⟩ f.decimals
    have hshort := h.short
    rw [units, digits, hdecimals, ← List.append_assoc, ofDigits_append, ofDigits_append] at hover
    rw [hdecimals, List.length_append] at hshort
    rw [List.length_append] at hover
    rw [Json.Scaled.Full, heq] at hrest
    rw [heq] at hfit ⊢
    obtain ⟨hk, hle⟩ := leastOver_le_of_taken hfit hshort hrest hover
    exact ⟨taken.length, hk, hle, .inl (Int.zero_sub _)⟩
  · -- More digits than a word holds before the point: one at most is taken in behind it.
    rw [← Nat.zero_add (ofDigits f.whole), ← Nat.zero_mul (10 ^ f.whole.length), not_lt] at hfront
    obtain ⟨hfull, hpositive⟩ := Json.Scaled.whole_of_ge (s := ⟨0, 0⟩) (by decide) hfront
    obtain ⟨taken, rest, -, heq, -⟩ := Json.Scaled.exists_fraction_eq
      (Json.Scaled.whole ⟨0, 0⟩ f.whole) f.decimals
    rw [scaled, heq] at hfit ⊢
    generalize Json.Scaled.whole ⟨0, 0⟩ f.whole = s at *
    have hone : taken.length ≤ 1 := by
      by_contra htwo
      have hhundred : 10 ^ 2 ≤ 10 ^ taken.length := Nat.pow_le_pow_right (by decide) (by omega)
      have := Nat.mul_le_mul_left s.significand hhundred
      simp only [Json.Scaled.Full, wordBound] at hfull hfit
      omega
    have hpos : 0 < 10 ^ taken.length := Nat.pow_pos (by decide)
    have hle := Nat.le_mul_of_pos_right s.significand hpos
    refine ⟨0, by decide, ?_, ?_⟩
    · simp only [Json.Scaled.Full, wordBound, ReadAs.leastOver] at hfull ⊢
      omega
    · by_cases hzero : s.exponent = taken.length
      · exact .inl (by rw [hzero, Int.sub_self, Nat.cast_zero, Int.neg_zero])
      · exact .inr ⟨rfl, by simp only at hpositive ⊢; omega⟩

/-- The digits that are taken in of what is too much for a word, but not yet for a number. -/
theorem Valid.taken_between (h : f.Valid) (hge : wordBound ≤ f.units)
    (hlt : f.units < refusedFrom f.decimals.length) :
    ∃ k ≤ 5, 2 ≤ k ∧ wordBound / 10 ^ (6 - k) ≤ f.scaled.significand ∧
      f.scaled.significand < ReadAs.leastOver k ∧ f.scaled.exponent = -k := by
  have hshort : f.decimals.length ≤ 6 := h.short
  rcases Nat.lt_or_ge 5 f.decimals.length with hsix | hfive
  · have hsix : f.decimals.length = 6 := by omega
    rw [hsix] at hlt
    rw [units, places, hsix, Nat.sub_self, Nat.pow_zero, Nat.mul_one] at hge hlt
    have hfront : ofDigits f.whole < wordBound := by
      rw [digits, ofDigits_append, hsix] at hlt
      have htable : refusedFrom 6 = 18446744073709553930 := rfl
      simp only [htable, wordBound] at hlt ⊢
      omega
    have hfit := f.scaled_lt
    have hwhole : Json.Scaled.whole ⟨0, 0⟩ f.whole = ⟨ofDigits f.whole, 0⟩ :=
      Json.Scaled.whole_of_lt hfront
    rw [scaled, hwhole] at hfit ⊢
    obtain ⟨taken, rest, hdecimals, heq, hrest⟩ :=
      Json.Scaled.exists_fraction_eq ⟨ofDigits f.whole, 0⟩ f.decimals
    rw [digits, hdecimals, ← List.append_assoc, ofDigits_append, ofDigits_append] at hge hlt
    rw [hdecimals, List.length_append] at hsix
    rw [Json.Scaled.Full, heq] at hrest
    rw [heq] at hfit ⊢
    obtain ⟨hfive, hlower, hupper⟩ := five_taken hfit hsix hrest hge hlt
    exact ⟨5, le_rfl, by decide, hlower, hupper, by simp [hfive]⟩
  · have hpos : 0 < 10 ^ (6 - f.decimals.length) := Nat.pow_pos (by decide)
    rw [units, places] at hge hlt
    rw [refusedFrom, Nat.min_eq_left hfive] at hlt
    have hdigits := Nat.lt_of_mul_lt_mul_right hlt
    have hfit : ofDigits f.digits < wordBound := hdigits.trans (ReadAs.leastOver_lt _)
    rw [scaled_of_lt hfit]
    refine ⟨_, hfive, ?_, ?_, hdigits, rfl⟩
    · by_contra hfew
      generalize f.decimals.length = k at *
      generalize ofDigits f.digits = n at *
      interval_cases k <;> simp only [ReadAs.leastOver, wordBound] at * <;> omega
    · exact Nat.div_le_of_le_mul (Nat.mul_comm _ _ ▸ hge)

end Figure

/-- A number is as many base units as the three roundings say, and a word full if they say one
more. -/
theorem asNumber_of_rounds {text : String} {number : Json} {x : Binary64} {n k : ℕ} {a : ℚ}
    (hparse : Json.parse? text = some number) (hsaid : Says number x)
    (hnegative : x.negative = false) (ha : Rounds n a) (hx : Rounds (a / 10 ^ k) x.size) :
    ∃ units, ReadAs n k units ∧ (units ≤ wordBound →
      ∃ v, asNumber text = some v ∧ v.toNat = min units (wordBound - 1)) := by
  obtain ⟨p, hp⟩ := exists_rounds_product x
  refine ⟨_, ⟨a, x.size, p, ha, hx, hp, rfl⟩, fun hle => ?_⟩
  have hlt : min ⌊p + 1 / 2⌋₊ (wordBound - 1) < wordBound :=
    lt_of_le_of_lt (Nat.min_le_right _ _) (by decide)
  have hok : ofJson number = .ok (UInt64.ofNat (min ⌊p + 1 / 2⌋₊ (wordBound - 1))) := by
    rw [hsaid.ofJson_eq, ofNumber_eq_ok hp]
    refine ⟨fun hneg => absurd hneg (by simp [hnegative]), hle, UInt64.toNat_ofNat_of_lt' hlt⟩
  refine ⟨_, ?_, UInt64.toNat_ofNat_of_lt' hlt⟩
  rw [asNumber, hparse, Option.bind_some, hok]
  rfl

/-- No number of too great a value is an amount. -/
theorem ofJson_ne_ok_of_le {number : Json} {x : Binary64} {n k : ℕ} {a q : ℚ} (hk : k ≤ 5)
    (hn : ReadAs.leastOver k ≤ n) (hsaid : Says number x) (ha : Rounds n a)
    (hq : a / 10 ^ k ≤ q) (hx : Rounds q x.size) (v : UInt64) : ofJson number ≠ .ok v := by
  have hcoins : 0 ≤ a / 10 ^ k := div_nonneg ha.nonneg (by positivity)
  obtain ⟨f, hf⟩ := exists_rounds hcoins
  obtain ⟨p, hp⟩ := exists_rounds (mul_nonneg hf.nonneg (show (0 : ℚ) ≤ 10 ^ 6 by norm_num))
  obtain ⟨p', hp'⟩ := exists_rounds_product x
  have hover := ReadAs.wordBound_lt ⟨a, f, p, ha, hf, hp, rfl⟩ hk hn
  have hle : p ≤ p' :=
    hp.mono hp' (mul_le_mul_of_nonneg_right (hf.mono hx hq) (by norm_num))
  have hfloor : ⌊p + 1 / 2⌋₊ ≤ ⌊p' + 1 / 2⌋₊ := Nat.floor_le_floor (by linarith)
  rw [hsaid.ofJson_eq, Ne, ofNumber_eq_ok hp']
  rintro ⟨-, hfits, -⟩
  omega

/-! ## One text read both ways -/

section Agreement

variable {f : Figure} {text : String}

theorem asString_of_lt (h : f.Literal text) (hlt : f.units < wordBound) :
    asString text = some (UInt64.ofNat f.units) := by
  have hread : ofDecimal? text.toList = some (UInt64.ofNat f.units) :=
    ofDecimal?_eq_some.2 ⟨f, h.spells.1, h.spells.2, UInt64.toNat_ofNat_of_lt' hlt⟩
  rw [asString, ofJson_string_eq_ok.2 hread]
  rfl

theorem asString_of_ge (h : f.Literal text) (hge : wordBound ≤ f.units) :
    asString text = none := by
  rw [asString]
  cases hread : ofJson (.string text) with
  | error fault => rfl
  | ok v =>
    obtain ⟨f', hvalid, hchars, hunits⟩ := ofDecimal?_eq_some.1 (ofJson_string_eq_ok.1 hread)
    have hsame : f'.units = f.units := by
      refine Figure.units_eq_of_chars hvalid h.spells.1 ?_
      rw [← hchars, h.spells.2]
    have hlt : v.toNat < wordBound := v.toNat_lt
    omega

theorem asNumber_of_lt (h : f.Literal text) (hlt : f.units < wordBound) :
    ∃ units v, ReadAs (ofDigits f.digits) f.decimals.length units ∧
      asNumber text = some v ∧ v.toNat = min units (wordBound - 1) := by
  have hfit : ofDigits f.digits < wordBound :=
    lt_of_le_of_lt (Nat.le_mul_of_pos_right _ (Nat.pow_pos (by decide))) hlt
  have hshort : f.decimals.length ≤ 6 := h.spells.1.short
  have hscaled := Figure.scaled_of_lt hfit
  obtain ⟨number, x, a, hparse, hsaid, hnegative, ha, hx⟩ :=
    h.exists_value (k := f.decimals.length) (by omega) (by rw [hscaled])
  rw [hscaled] at ha
  obtain ⟨units, hread, hnumber⟩ := asNumber_of_rounds hparse hsaid hnegative ha hx
  obtain ⟨v, hv, hunits⟩ := hnumber (hread.le_wordBound hshort hlt)
  exact ⟨units, v, hread, hv, hunits⟩

/-- What is too much for a word, but not yet for a number, is the largest word as a number. -/
theorem asNumber_of_between (h : f.Literal text) (hge : wordBound ≤ f.units)
    (hlt : f.units < Figure.refusedFrom f.decimals.length) :
    asNumber text = some 18446744073709551615 := by
  obtain ⟨k, hk, htwo, hlower, hupper, hexponent⟩ := h.spells.1.taken_between hge hlt
  obtain ⟨number, x, a, hparse, hsaid, hnegative, ha, hx⟩ :=
    h.exists_value (k := k) (by omega) hexponent
  obtain ⟨units, hread, hnumber⟩ := asNumber_of_rounds hparse hsaid hnegative ha hx
  obtain rfl : units = wordBound := hread.eq_wordBound htwo hk hlower hupper
  obtain ⟨v, hv, hunits⟩ := hnumber le_rfl
  rw [hv, Option.some.injEq, ← UInt64.toNat_inj, hunits]
  rfl

theorem asNumber_of_ge (h : f.Literal text)
    (hover : Figure.refusedFrom f.decimals.length ≤ f.units) : asNumber text = none := by
  rw [asNumber]
  cases hparse : Json.parse? text with
  | none => rfl
  | some number =>
    obtain ⟨k, hk, hdigits, hexponent⟩ := h.spells.1.leastOver_le hover
    have hrefused : ∀ v, ofJson number ≠ .ok v := by
      rcases hexponent with hplaces | ⟨rfl, hpositive⟩
      · obtain ⟨number', x, a, hparse', hsaid, -, ha, hx⟩ :=
          h.exists_value (by omega) hplaces
        obtain rfl := Option.some.inj (hparse.symm.trans hparse')
        exact ofJson_ne_ok_of_le hk hdigits hsaid ha le_rfl hx
      · obtain ⟨x, a, q, hsaid, ha, hle, hq⟩ := h.le_value hpositive hparse
        refine ofJson_ne_ok_of_le hk hdigits hsaid ha ?_ hq
        rwa [pow_zero, div_one]
    rw [Option.bind_some]
    cases hread : ofJson number with
    | error fault => rfl
    | ok v => exact absurd hread (hrefused v)

/-- As a number, what fits a word misses by four parts in `2 ^ 53` and half a base unit at most. -/
theorem ReadAs.near_units {units : ℕ} (hf : f.Valid)
    (h : ReadAs (ofDigits f.digits) f.decimals.length units) (hlt : f.units < wordBound) :
    |((min units (wordBound - 1) : ℕ) : ℚ) - f.units| ≤ f.units / 2 ^ 51 + 1 / 2 := by
  have hshort : f.decimals.length ≤ 6 := hf.short
  have hnear : |(units : ℚ) - f.units| ≤ f.units / 2 ^ 51 + 1 / 2 := by
    by_cases hsmall : f.units < ReadAs.exactBound
    · obtain rfl : units = f.units := h.eq_of_lt hshort hsmall
      rw [sub_self, abs_zero]
      positivity
    · have hvalue : (f.units : ℚ) = ofDigits f.digits / 10 ^ f.decimals.length * 10 ^ 6 :=
        hf.units_eq
      have hlarge : 2 * 10 ^ f.decimals.length ≤ ofDigits f.digits := by
        simp only [Figure.units, places, ReadAs.exactBound] at hsmall
        generalize f.decimals.length = k at hshort hsmall ⊢
        interval_cases k <;> omega
      rw [hvalue]
      exact h.near hlarge
  -- What is cut off beyond a word only brings it nearer.
  refine le_trans ?_ hnear
  rcases Nat.le_total units (wordBound - 1) with hle | hge
  · rw [Nat.min_eq_left hle]
  · have hfits : (f.units : ℚ) ≤ (wordBound - 1 : ℕ) := by
      exact_mod_cast Nat.le_sub_one_of_lt hlt
    have hmore : ((wordBound - 1 : ℕ) : ℚ) ≤ units := by exact_mod_cast hge
    rw [Nat.min_eq_right hge, abs_of_nonneg (by linarith), abs_of_nonneg (by linarith)]
    linarith

/-- The three roundings of a decimal end at the base units that are written. -/
def Figure.Lands (f : Figure) : Prop :=
  ∃ units, ReadAs (ofDigits f.digits) f.decimals.length units ∧
    min units (wordBound - 1) = f.units

theorem asNumber_eq_asString_of_lt (h : f.Literal text) (hlt : f.units < wordBound) :
    asNumber text = asString text ↔ f.Lands := by
  obtain ⟨units, v, hread, hnumber, hv⟩ := asNumber_of_lt h hlt
  rw [hnumber, asString_of_lt h hlt, Option.some.injEq, ← UInt64.toNat_inj, hv,
    UInt64.toNat_ofNat_of_lt' hlt]
  constructor
  · intro heq
    exact ⟨units, hread, heq⟩
  · rintro ⟨units', hread', heq⟩
    rwa [hread.unique hread']

theorem asNumber_eq_asString_of_ge (h : f.Literal text) (hge : wordBound ≤ f.units) :
    asNumber text = asString text ↔ Figure.refusedFrom f.decimals.length ≤ f.units := by
  rw [asString_of_ge h hge]
  constructor
  · intro hnone
    by_contra hlt
    rw [asNumber_of_between h hge (Nat.lt_of_not_le hlt)] at hnone
    cases hnone
  · exact asNumber_of_ge h

/-- **A number and a string of the same characters are the same amount exactly** where the amount
fits a word and the three roundings of the number end at it, and where it is too much for both; up
to a little over `2 ^ 32` coins they always are. The string is the amount that is written, or is
refused if no word holds it. The number is what the roundings end at, at most the largest word,
which misses by four parts in `2 ^ 53` and half a base unit at most; and from the bound of words on
it is the largest word for a little longer before it is refused as well. -/
theorem same_amount_iff (h : f.Literal text) :
    (asNumber text = asString text ↔
      f.units < wordBound ∧ f.Lands ∨ Figure.refusedFrom f.decimals.length ≤ f.units) ∧
    (f.units < ReadAs.exactBound →
      ∃ v, asNumber text = some v ∧ asString text = some v ∧ v.toNat = f.units) ∧
    (f.units < wordBound →
      (∃ v, asString text = some v ∧ v.toNat = f.units) ∧
      ∃ units v, ReadAs (ofDigits f.digits) f.decimals.length units ∧ asNumber text = some v ∧
        v.toNat = min units (wordBound - 1) ∧
        |(v.toNat : ℚ) - f.units| ≤ f.units / 2 ^ 51 + 1 / 2) ∧
    (wordBound ≤ f.units → asString text = none ∧ asNumber text =
      if f.units < Figure.refusedFrom f.decimals.length then some 18446744073709551615
      else none) := by
  have hshort : f.decimals.length ≤ 6 := h.spells.1.short
  have hrefused := Figure.wordBound_lt_refusedFrom hshort
  refine ⟨?_, fun hlt => ?_, fun hlt => ⟨?_, ?_⟩, fun hge => ⟨asString_of_ge h hge, ?_⟩⟩
  · rcases Nat.lt_or_ge f.units wordBound with hlt | hge
    · rw [asNumber_eq_asString_of_lt h hlt]
      simp only [hlt, true_and, Nat.not_le.2 (hlt.trans hrefused), or_false]
    · rw [asNumber_eq_asString_of_ge h hge]
      simp only [Nat.not_lt.2 hge, false_and, false_or]
  · have hword : f.units < wordBound := hlt.trans (by decide)
    obtain ⟨units, v, hread, hnumber, hv⟩ := asNumber_of_lt h hword
    obtain rfl : units = f.units := hread.eq_of_lt hshort hlt
    rw [Nat.min_eq_left (Nat.le_sub_one_of_lt hword)] at hv
    refine ⟨v, hnumber, ?_, hv⟩
    rw [asString_of_lt h hword, ← hv, UInt64.ofNat_toNat]
  · exact ⟨_, asString_of_lt h hlt, UInt64.toNat_ofNat_of_lt' hlt⟩
  · obtain ⟨units, v, hread, hnumber, hv⟩ := asNumber_of_lt h hlt
    refine ⟨units, v, hread, hnumber, hv, ?_⟩
    rw [hv]
    exact hread.near_units h.spells.1 hlt
  · split
    · rename_i hlt
      exact asNumber_of_between h hge hlt
    · rename_i hover
      exact asNumber_of_ge h (Nat.le_of_not_lt hover)

/-- The first decimal that is not the same amount as a number. -/
def parting : Figure := ⟨"4294967296".toList, some "000011".toList⟩

theorem literal_parting : parting.Literal "4294967296.000011" := by
  refine ⟨⟨⟨by decide, List.all_eq_true.1 rfl, by decide⟩, rfl⟩, ?_, by decide⟩
  exact .of_head (by decide) (List.all_eq_true.1 rfl) (by decide)

/-- Half a coin. -/
def half : Figure := ⟨['0'], some ['5']⟩

/-- A little more than a word of base units holds. -/
def brimming : Figure := ⟨"18446744073709".toList, some "552".toList⟩

/-- More coins than a word of base units holds. -/
def beyond : Figure := ⟨"18446744073710".toList, none⟩

theorem literal_half : half.Literal "0.5" := by
  refine ⟨⟨⟨by decide, List.all_eq_true.1 rfl, by decide⟩, rfl⟩, ⟨by decide,
    List.all_eq_true.1 rfl, fun rest h => (List.cons.inj h).2.symm⟩, by decide⟩

theorem literal_beyond : beyond.Literal "18446744073710" := by
  refine ⟨⟨⟨by decide, List.all_eq_true.1 rfl, by decide⟩, rfl⟩, ?_, by decide⟩
  exact .of_head (by decide) (List.all_eq_true.1 rfl) (by decide)

theorem literal_brimming : brimming.Literal "18446744073709.552" := by
  refine ⟨⟨⟨by decide, List.all_eq_true.1 rfl, by decide⟩, rfl⟩, ?_, by decide⟩
  exact .of_head (by decide) (List.all_eq_true.1 rfl) (by decide)

theorem same_amount_iff_literals :
    (half.Literal "0.5" ∧ half.units < ReadAs.exactBound ∧
      ∃ v, asNumber "0.5" = some v ∧ asString "0.5" = some v ∧ v.toNat = half.units) ∧
    (parting.Literal "4294967296.000011" ∧ parting.units = ReadAs.exactBound ∧
      parting.units < wordBound ∧ ¬ parting.Lands ∧
      (∃ v, asString "4294967296.000011" = some v ∧ v.toNat = parting.units) ∧
      ∃ v, asNumber "4294967296.000011" = some v ∧
        |(v.toNat : ℚ) - parting.units| ≤ parting.units / 2 ^ 51 + 1 / 2) ∧
    (brimming.Literal "18446744073709.552" ∧ wordBound ≤ brimming.units ∧
      asString "18446744073709.552" = none ∧
      asNumber "18446744073709.552" = some 18446744073709551615) ∧
    beyond.Literal "18446744073710" ∧ Figure.refusedFrom 0 ≤ beyond.units ∧
      asNumber "18446744073710" = asString "18446744073710" := by
  obtain ⟨-, hexact, -⟩ := same_amount_iff literal_half
  obtain ⟨hparts, -, hword, -⟩ := same_amount_iff literal_parting
  obtain ⟨-, -, -, hover⟩ := same_amount_iff literal_brimming
  obtain ⟨hboth, -⟩ := same_amount_iff literal_beyond
  have hfits : parting.units < wordBound := by decide
  have hmisses : ¬ parting.Lands := by
    intro hlands
    have heq := hparts.2 (.inl ⟨hfits, hlands⟩)
    cases heq
  obtain ⟨hwritten, _, v, -, hnumber, -, hnear⟩ := hword hfits
  have hgreat : Figure.refusedFrom 0 ≤ beyond.units := by decide
  exact ⟨⟨literal_half, by decide, hexact (by decide)⟩,
    ⟨literal_parting, rfl, hfits, hmisses, hwritten, v, hnumber, hnear⟩,
    ⟨literal_brimming, by decide, hover (by decide)⟩,
    literal_beyond, hgreat, hboth.2 (.inr hgreat)⟩

/-- There the number is one base unit more than the string. -/
theorem number_exceeds_string :
    parting.Literal "4294967296.000011" ∧ asString "4294967296.000011" = some 4294967296000011 ∧
      asNumber "4294967296.000011" = some 4294967296000012 :=
  ⟨literal_parting, rfl, rfl⟩

end Agreement

end ChainExplorer.Amount
