import ChainExplorer.Binary64.Basic
import Mathlib.Algebra.Order.Field.Power
import Mathlib.Algebra.Order.Floor.Semifield
import Mathlib.Data.Rat.Floor
import Mathlib.Tactic.FieldSimp
import Mathlib.Tactic.Linarith
import Mathlib.Tactic.NormNum
import Mathlib.Tactic.Positivity

/-!
# Rounding to binary64

`Rounds q r` says what rounding does to an exact quotient `q ≥ 0` without saying how: at the scale
of `q` there are fifty-three binary digits, or fewer below the least normal value, `r` is a whole
number of units of that scale, and none is nearer; of two equally near ones it is the even one. So
stated, rounding depends on the quotient alone, keeps the order (`Rounds.mono`), leaves alone what
has few enough digits (`Rounds.eq_of_dyadic`) and is off by half a unit at most (`Rounds.near`).

`nearest` rounds in this sense, and refuses exactly what would come out at `2 ^ 1024` or more
(`nearest_outcome`, `Outcome.exists_value`). Everything proved of amounts as numbers goes through
these and never through a significand.
-/

namespace ChainExplorer.Binary64

/-! ## Exact values -/

/-- The magnitude of a value. -/
def size (x : Binary64) : ℚ := x.significand * 2 ^ x.exponent

/-- The value with its sign. The two zeros have one value. -/
def value (x : Binary64) : ℚ := if x.negative then -x.size else x.size

theorem two_zpow (e : ℤ) :
    (2 : ℚ) ^ e = (Nat.pow 2 e.toNat : ℕ) / (Nat.pow 2 (-e).toNat : ℕ) := by
  obtain ⟨n, rfl | rfl⟩ := e.eq_nat_or_neg
  · simp
  · simp

theorem two_zpow_pos (e : ℤ) : (0 : ℚ) < 2 ^ e := zpow_pos (by norm_num) e

theorem two_zpow_add (e k : ℤ) : (2 : ℚ) ^ (e + k) = 2 ^ e * 2 ^ k :=
  zpow_add₀ (by norm_num) e k

theorem two_zpow_le {e k : ℤ} (h : e ≤ k) : (2 : ℚ) ^ e ≤ 2 ^ k :=
  zpow_le_zpow_right₀ (by norm_num) h

theorem lt_of_two_zpow_lt {e k : ℤ} (h : (2 : ℚ) ^ e < 2 ^ k) : e < k :=
  (zpow_lt_zpow_iff_right₀ (by norm_num)).1 h

theorem leadingDigit_eq : (leadingDigit : ℚ) = 2 ^ (52 : ℤ) := by
  norm_num [leadingDigit]

theorem two_mul_leadingDigit_eq : ((2 * leadingDigit : ℕ) : ℚ) = 2 ^ (53 : ℤ) := by
  norm_num [leadingDigit]

theorem size_nonneg (x : Binary64) : 0 ≤ x.size :=
  mul_nonneg (Nat.cast_nonneg _) (two_zpow_pos _).le

theorem magnitude_div (x : Binary64) : (x.magnitude.1 : ℚ) / x.magnitude.2 = x.size := by
  simp only [magnitude, size, Nat.cast_mul]
  rw [two_zpow, mul_div_assoc]

theorem magnitude_snd_ne_zero (x : Binary64) : x.magnitude.2 ≠ 0 :=
  Nat.pos_iff_ne_zero.1 (Nat.pow_pos (by decide))

/-! ## A half goes to the even number -/

/-- The whole number nearest to a quotient, and of two equally near ones the even one. -/
structure HalfEven (q : ℚ) (n : ℕ) : Prop where
  near : |(n : ℚ) - q| ≤ 1 / 2
  even : |(n : ℚ) - q| = 1 / 2 → Even n

theorem HalfEven.mono {q q' : ℚ} {n n' : ℕ} (h : HalfEven q n) (h' : HalfEven q' n')
    (hq : q ≤ q') : n ≤ n' := by
  by_contra hlt
  have hsucc : (n' : ℚ) + 1 ≤ n := by exact_mod_cast not_le.1 hlt
  obtain ⟨-, hupper⟩ := abs_le.1 h.near
  obtain ⟨hlower, -⟩ := abs_le.1 h'.near
  -- Only a tie on both sides is left, between two neighbours that would both be even.
  have hn : (n : ℚ) - q = 1 / 2 := by linarith
  have hn' : (n' : ℚ) - q' = -(1 / 2) := by linarith
  have heven : Even n := h.even (by rw [hn]; norm_num)
  have heven' : Even n' := h'.even (by rw [hn']; norm_num)
  have hnext : n = n' + 1 := by
    have : (n : ℚ) = n' + 1 := by linarith
    exact_mod_cast this
  rw [hnext, Nat.even_add_one] at heven
  exact heven heven'

theorem HalfEven.of_natCast {n m : ℕ} (h : HalfEven n m) : m = n := by
  obtain ⟨hlower, hupper⟩ := abs_le.1 h.near
  have hle : (m : ℚ) < n + 1 := by linarith
  have hge : (n : ℚ) < m + 1 := by linarith
  have hle' : m < n + 1 := by exact_mod_cast hle
  have hge' : n < m + 1 := by exact_mod_cast hge
  omega

theorem HalfEven.le {q : ℚ} {n k : ℕ} (h : HalfEven q n) (hq : q ≤ k) : n ≤ k := by
  obtain ⟨-, hupper⟩ := abs_le.1 h.near
  have : (n : ℚ) < k + 1 := by linarith
  have hlt : n < k + 1 := by exact_mod_cast this
  omega

theorem HalfEven.ge {q : ℚ} {n k : ℕ} (h : HalfEven q n) (hq : (k : ℚ) ≤ q) : k ≤ n := by
  obtain ⟨hlower, -⟩ := abs_le.1 h.near
  have : (k : ℚ) < n + 1 := by linarith
  have hlt : k < n + 1 := by exact_mod_cast this
  omega

theorem halfEven_up {k : ℕ} {t : ℚ} (ht : t < 1) (hhalf : 1 / 2 ≤ t)
    (hodd : t = 1 / 2 → k % 2 = 1) : HalfEven (k + t) (k + 1) := by
  constructor
  · push_cast
    rw [abs_le]
    constructor <;> linarith
  · intro htie
    push_cast at htie
    rw [abs_of_nonneg (by linarith)] at htie
    rw [Nat.even_add_one, Nat.not_even_iff]
    exact hodd (by linarith)

theorem halfEven_down {k : ℕ} {t : ℚ} (ht : 0 ≤ t) (hhalf : t ≤ 1 / 2)
    (heven : t = 1 / 2 → k % 2 = 0) : HalfEven (k + t) k := by
  constructor
  · rw [abs_le]
    constructor <;> linarith
  · intro htie
    rw [abs_of_nonpos (by linarith)] at htie
    rw [Nat.even_iff]
    exact heven (by linarith)

theorem halfEven_roundHalfEven (num : ℕ) {den : ℕ} (hden : 0 < den) :
    HalfEven ((num : ℚ) / den) (roundHalfEven num den) := by
  have hpos : (0 : ℚ) < den := by exact_mod_cast hden
  have hrest := Nat.mod_lt num hden
  have hsplit : (num : ℚ) / den = (num / den : ℕ) + (num % den : ℕ) / (den : ℚ) := by
    have hcast : (den : ℚ) * (num / den : ℕ) + (num % den : ℕ) = num := by
      exact_mod_cast Nat.div_add_mod num den
    field_simp
    linarith
  rw [hsplit]
  unfold roundHalfEven
  simp only
  generalize num % den = rest at *
  -- What is left behind the quotient, against a half.
  have hge : (1 : ℚ) / 2 ≤ rest / den ↔ den ≤ 2 * rest := by
    rw [div_le_div_iff₀ (by norm_num) hpos, one_mul, mul_comm]
    exact_mod_cast Iff.rfl
  have hle : (rest : ℚ) / den ≤ 1 / 2 ↔ 2 * rest ≤ den := by
    rw [div_le_div_iff₀ hpos (by norm_num), one_mul, mul_comm]
    exact_mod_cast Iff.rfl
  split
  · rename_i hup
    refine halfEven_up ?_ (hge.2 (by omega)) fun htie => ?_
    · rw [div_lt_one hpos]
      exact_mod_cast hrest
    · have := hle.1 htie.le
      omega
  · rename_i hdown
    refine halfEven_down (by positivity) (hle.2 (by omega)) fun htie => ?_
    have := hge.1 htie.ge
    omega

/-! ## Scales -/

/-- The exponent at which a quotient has fifty-three binary digits before the point, or the least
one where it has fewer than that. -/
structure Scale (q : ℚ) (e : ℤ) : Prop where
  least : minExponent ≤ e
  below : q < 2 ^ (e + 53)
  reaches : e = minExponent ∨ 2 ^ (e + 52) ≤ q

theorem Scale.le_of_lt {q : ℚ} {e k : ℤ} (h : Scale q e) (hk : minExponent ≤ k)
    (hq : q < 2 ^ (k + 53)) : e ≤ k := by
  rcases h.reaches with rfl | hreaches
  · exact hk
  · have := lt_of_two_zpow_lt (lt_of_le_of_lt hreaches hq)
    omega

theorem Scale.mono {q q' : ℚ} {e e' : ℤ} (h : Scale q e) (h' : Scale q' e') (hq : q ≤ q') :
    e ≤ e' :=
  h.le_of_lt h'.least (lt_of_le_of_lt hq h'.below)

/-- At its scale a quotient rounds to fifty-three digits at most, or to one more unit. -/
theorem Scale.significand_le {q : ℚ} {e : ℤ} {n : ℕ} (h : Scale q e) (hn : HalfEven (q / 2 ^ e) n) :
    n ≤ 2 * leadingDigit := by
  apply hn.le
  rw [two_mul_leadingDigit_eq, div_le_iff₀ (two_zpow_pos e), ← two_zpow_add, add_comm]
  exact h.below.le

theorem Scale.le_significand {q : ℚ} {e : ℤ} {n : ℕ} (h : Scale q e) (hn : HalfEven (q / 2 ^ e) n)
    (hmin : e ≠ minExponent) : leadingDigit ≤ n := by
  apply hn.ge
  rw [leadingDigit_eq, le_div_iff₀ (two_zpow_pos e), ← two_zpow_add, add_comm]
  exact h.reaches.resolve_left hmin

theorem scale_max {q : ℚ} {e : ℤ} (hreaches : 2 ^ (e + 52) ≤ q) (hbelow : q < 2 ^ (e + 53)) :
    Scale q (max minExponent e) := by
  refine ⟨le_max_left _ _, hbelow.trans_le (two_zpow_le (by omega)), ?_⟩
  rcases le_total e minExponent with hmin | hmin
  · exact .inl (max_eq_left hmin)
  · rw [max_eq_right hmin]
    exact .inr hreaches

theorem scaleDown_div (num den : ℕ) (e : ℤ) :
    ((scaleDown num den e).1 : ℚ) / (scaleDown num den e).2 = num / den / 2 ^ e := by
  simp only [scaleDown, Nat.cast_mul]
  rw [two_zpow e, div_div_eq_mul_div, div_mul_eq_mul_div, div_div]

theorem scaleDown_snd_pos {den : ℕ} (num : ℕ) (e : ℤ) (h : 0 < den) :
    0 < (scaleDown num den e).2 := Nat.mul_pos h (Nat.pow_pos (by decide))

/-- A number lies between the power of two of its logarithm and the next. -/
theorem log2_bounds {n : ℕ} (h : n ≠ 0) :
    (2 : ℚ) ^ (n.log2 : ℤ) ≤ n ∧ (n : ℚ) < 2 ^ ((n.log2 : ℤ) + 1) := by
  constructor
  · rw [zpow_natCast]
    exact_mod_cast Nat.log2_self_le h
  · have : (n.log2 : ℤ) + 1 = ((n.log2 + 1 : ℕ) : ℤ) := by push_cast; rfl
    rw [this, zpow_natCast]
    exact_mod_cast Nat.lt_log2_self

/-- The logarithms of a fraction leave its quotient two powers of two. -/
theorem log2_quotient {num den : ℕ} (hnum : num ≠ 0) (hden : den ≠ 0) :
    (2 : ℚ) ^ ((num.log2 : ℤ) - den.log2 - 1) ≤ num / den ∧
      (num : ℚ) / den < 2 ^ ((num.log2 : ℤ) - den.log2 + 1) := by
  obtain ⟨hnumLow, hnumHigh⟩ := log2_bounds hnum
  obtain ⟨hdenLow, hdenHigh⟩ := log2_bounds hden
  have hpos : (0 : ℚ) < den := by exact_mod_cast Nat.pos_of_ne_zero hden
  constructor
  · rw [le_div_iff₀ hpos]
    calc (2 : ℚ) ^ ((num.log2 : ℤ) - den.log2 - 1) * den
        ≤ 2 ^ ((num.log2 : ℤ) - den.log2 - 1) * 2 ^ ((den.log2 : ℤ) + 1) :=
          mul_le_mul_of_nonneg_left hdenHigh.le (two_zpow_pos _).le
      _ = 2 ^ (num.log2 : ℤ) := by rw [← two_zpow_add]; congr 1; omega
      _ ≤ num := hnumLow
  · rw [div_lt_iff₀ hpos]
    calc (num : ℚ) < 2 ^ ((num.log2 : ℤ) + 1) := hnumHigh
      _ = 2 ^ ((num.log2 : ℤ) - den.log2 + 1) * 2 ^ (den.log2 : ℤ) := by
          rw [← two_zpow_add]; congr 1; omega
      _ ≤ 2 ^ ((num.log2 : ℤ) - den.log2 + 1) * den :=
          mul_le_mul_of_nonneg_left hdenLow (two_zpow_pos _).le

/-- Whether there are fewer than fifty-three digits before the point. -/
theorem scaleDown_lt_iff (num : ℕ) {den : ℕ} (hden : den ≠ 0) (e : ℤ) :
    (scaleDown num den e).1 / (scaleDown num den e).2 < leadingDigit ↔
      (num : ℚ) / den < 2 ^ (e + 52) := by
  have hsnd := scaleDown_snd_pos num e (Nat.pos_of_ne_zero hden)
  rw [Nat.div_lt_iff_lt_mul hsnd, ← @Nat.cast_lt ℚ, Nat.cast_mul,
    ← div_lt_iff₀ (by exact_mod_cast hsnd), scaleDown_div, div_lt_iff₀ (two_zpow_pos e),
    leadingDigit_eq, ← two_zpow_add, add_comm]

theorem scale_exponentOf {num den : ℕ} (hnum : num ≠ 0) (hden : den ≠ 0) :
    Scale ((num : ℚ) / den) (exponentOf num den) := by
  obtain ⟨hlow, hhigh⟩ := log2_quotient hnum hden
  unfold exponentOf
  simp only
  split
  · rename_i hfew
    rw [scaleDown_lt_iff num hden] at hfew
    apply scale_max
    · refine (two_zpow_le ?_).trans hlow
      omega
    · refine hfew.trans_le (two_zpow_le ?_)
      omega
  · rename_i hmany
    rw [scaleDown_lt_iff num hden, not_lt] at hmany
    apply scale_max hmany
    refine hhigh.trans_le (two_zpow_le ?_)
    omega

/-! ## Rounding -/

/-- The quotient rounded to the digits of its scale, as if there were no greatest value. -/
def Rounds (q r : ℚ) : Prop :=
  ∃ (e : ℤ) (n : ℕ), Scale q e ∧ HalfEven (q / 2 ^ e) n ∧ r = n * 2 ^ e

namespace Rounds

variable {q q' r r' : ℚ}

/-- What is greater does not round to less. -/
theorem mono (h : Rounds q r) (h' : Rounds q' r') (hq : q ≤ q') : r ≤ r' := by
  obtain ⟨e, n, hscale, hn, rfl⟩ := h
  obtain ⟨e', n', hscale', hn', rfl⟩ := h'
  rcases (hscale.mono hscale' hq).eq_or_lt with rfl | hlt
  · have hquot : q / 2 ^ e ≤ q' / 2 ^ e := div_le_div_of_nonneg_right hq (two_zpow_pos e).le
    have hle : (n : ℚ) ≤ n' := by exact_mod_cast hn.mono hn' hquot
    exact mul_le_mul_of_nonneg_right hle (two_zpow_pos e).le
  · -- The power of two between the scales separates the results.
    have hmin : e' ≠ minExponent := by
      have := hscale.least
      omega
    have hn : (n : ℚ) ≤ 2 ^ (53 : ℤ) := by
      rw [← two_mul_leadingDigit_eq]
      exact_mod_cast hscale.significand_le hn
    have hn' : (2 : ℚ) ^ (52 : ℤ) ≤ n' := by
      rw [← leadingDigit_eq]
      exact_mod_cast hscale'.le_significand hn' hmin
    calc (n : ℚ) * 2 ^ e ≤ 2 ^ (53 : ℤ) * 2 ^ e :=
          mul_le_mul_of_nonneg_right hn (two_zpow_pos e).le
      _ = 2 ^ (53 + e) := (two_zpow_add 53 e).symm
      _ ≤ 2 ^ (52 + e') := two_zpow_le (by omega)
      _ = 2 ^ (52 : ℤ) * 2 ^ e' := two_zpow_add 52 e'
      _ ≤ n' * 2 ^ e' := mul_le_mul_of_nonneg_right hn' (two_zpow_pos e').le

theorem unique (h : Rounds q r) (h' : Rounds q r') : r = r' :=
  le_antisymm (h.mono h' le_rfl) (h'.mono h le_rfl)

theorem nonneg (h : Rounds q r) : 0 ≤ r := by
  obtain ⟨e, n, -, -, rfl⟩ := h
  exact mul_nonneg (Nat.cast_nonneg n) (two_zpow_pos e).le

/-- A value that fifty-three binary digits hold is kept. -/
theorem eq_of_dyadic {n : ℕ} {k : ℤ} (hn : n < 2 * leadingDigit) (hk : minExponent ≤ k)
    (h : Rounds (n * 2 ^ k) r) : r = n * 2 ^ k := by
  obtain ⟨e, m, hscale, hm, rfl⟩ := h
  have he : e ≤ k := by
    apply hscale.le_of_lt hk
    have hcast : (n : ℚ) < 2 ^ (53 : ℤ) := by
      rw [← two_mul_leadingDigit_eq]
      exact_mod_cast hn
    rw [add_comm, two_zpow_add]
    exact mul_lt_mul_of_pos_right hcast (two_zpow_pos k)
  obtain ⟨d, rfl⟩ : ∃ d : ℕ, k = e + d := ⟨(k - e).toNat, by omega⟩
  have hquot : (n : ℚ) * 2 ^ (e + (d : ℤ)) / 2 ^ e = ((n * 2 ^ d : ℕ) : ℚ) := by
    have := (two_zpow_pos e).ne'
    rw [two_zpow_add, zpow_natCast]
    push_cast
    field_simp
  rw [hquot] at hm
  rw [hm.of_natCast, two_zpow_add, zpow_natCast]
  push_cast
  ring

theorem eq_of_natCast {n : ℕ} (hn : n < 2 * leadingDigit) (h : Rounds n r) : r = n := by
  rw [← mul_one (n : ℚ), ← zpow_zero (2 : ℚ)] at h ⊢
  exact h.eq_of_dyadic hn (by decide)

/-- What has been rounded is kept. -/
theorem self (h : Rounds q r) : Rounds r r := by
  obtain ⟨e, n, hscale, hn, rfl⟩ := h
  have hexact : ∀ {k : ℤ} {m : ℕ}, HalfEven ((m : ℚ) * 2 ^ k / 2 ^ k) m := by
    intro k m
    rw [mul_div_cancel_right₀ _ (two_zpow_pos k).ne']
    constructor <;> norm_num
  rcases (hscale.significand_le hn).eq_or_lt with rfl | hlt
  · -- One unit more than the digits hold is a power of two, and has the next scale.
    have hpower : ((2 * leadingDigit : ℕ) : ℚ) * 2 ^ e = leadingDigit * 2 ^ (e + 1) := by
      rw [two_zpow_add]
      push_cast
      ring
    rw [hpower]
    have hsize : (leadingDigit : ℚ) * 2 ^ (e + 1) = 2 ^ (e + 1 + 52) := by
      rw [leadingDigit_eq, ← two_zpow_add, add_comm]
    refine ⟨e + 1, leadingDigit, ⟨?_, ?_, .inr hsize.ge⟩, hexact, rfl⟩
    · have := hscale.least
      omega
    · rw [hsize]
      exact zpow_lt_zpow_right₀ (by norm_num) (by omega)
  · refine ⟨e, n, ⟨hscale.least, ?_, ?_⟩, hexact, rfl⟩
    · have hcast : (n : ℚ) < 2 ^ (53 : ℤ) := by
        rw [← two_mul_leadingDigit_eq]
        exact_mod_cast hlt
      rw [add_comm, two_zpow_add]
      exact mul_lt_mul_of_pos_right hcast (two_zpow_pos e)
    · by_cases hmin : e = minExponent
      · exact .inl hmin
      · have hcast : (2 : ℚ) ^ (52 : ℤ) ≤ n := by
          rw [← leadingDigit_eq]
          exact_mod_cast hscale.le_significand hn hmin
        rw [add_comm, two_zpow_add]
        exact .inr (mul_le_mul_of_nonneg_right hcast (two_zpow_pos e).le)

theorem eq_zero (h : Rounds 0 r) : r = 0 := by
  rw [← Nat.cast_zero] at h ⊢
  exact h.eq_of_natCast (by decide)

/-- Rounding is off by half a unit of any scale that the quotient fits. -/
theorem near {k : ℤ} (h : Rounds q r) (hk : minExponent ≤ k) (hq : q < 2 ^ (k + 53)) :
    |r - q| ≤ 2 ^ k / 2 := by
  obtain ⟨e, n, hscale, hn, rfl⟩ := h
  have hpos := two_zpow_pos e
  have hsplit : (n : ℚ) * 2 ^ e - q = (n - q / 2 ^ e) * 2 ^ e := by
    field_simp
  rw [hsplit, abs_mul, abs_of_pos hpos]
  calc |(n : ℚ) - q / 2 ^ e| * 2 ^ e ≤ 1 / 2 * 2 ^ e :=
        mul_le_mul_of_nonneg_right hn.near hpos.le
    _ = 2 ^ e / 2 := by ring
    _ ≤ 2 ^ k / 2 := by
        have := two_zpow_le (hscale.le_of_lt hk hq)
        linarith

/-- A quotient that is not too small for its digits is off by one part in `2 ^ 53`. -/
theorem relative (h : Rounds q r) (hq : 2 ^ (minExponent + 52) ≤ q) : |r - q| ≤ q / 2 ^ 53 := by
  obtain ⟨e, n, hscale, hn, hr⟩ := id h
  have hreaches : 2 ^ (e + 52) ≤ q := by
    rcases hscale.reaches with rfl | hreaches
    · exact hq
    · exact hreaches
  refine (h.near hscale.least hscale.below).trans ?_
  rw [two_zpow_add] at hreaches
  rw [le_div_iff₀ (by norm_num)]
  norm_num at hreaches ⊢
  linarith

end Rounds

/-! ## What `nearest` does -/

section Nearest

variable {num den : ℕ} {negative : Bool}

/-- Some value comes out, which counts if its exponent is not too great. -/
theorem nearest_eq (negative : Bool) (num : ℕ) (hden : den ≠ 0) :
    ∃ x : Binary64, x.negative = negative ∧ Rounds (num / den) x.size ∧
      (x.exponent ≠ minExponent → leadingDigit ≤ x.significand) ∧
      nearest negative num den = if x.exponent ≤ maxExponent then some x else none := by
  by_cases hnum : num = 0
  · refine ⟨zero negative, rfl, ⟨minExponent, 0, ?_, ?_, ?_⟩, fun h => absurd rfl h, ?_⟩
    · refine ⟨le_rfl, ?_, .inl rfl⟩
      rw [hnum, Nat.cast_zero, zero_div]
      exact two_zpow_pos _
    · rw [hnum]
      constructor <;> norm_num
    · simp [zero, size]
    · rw [nearest, if_pos (.inl hnum)]
      rfl
  · have hscale := scale_exponentOf hnum hden
    have hround := halfEven_roundHalfEven (scaleDown num den (exponentOf num den)).1
      (scaleDown_snd_pos num (exponentOf num den) (Nat.pos_of_ne_zero hden))
    rw [scaleDown_div] at hround
    have hge := hscale.le_significand hround
    rw [nearest, if_neg (by simp [hnum, hden])]
    simp only
    generalize exponentOf num den = e at *
    generalize roundHalfEven _ _ = n at *
    split
    · -- One unit more than the digits hold is the least value of the next scale.
      rename_i hfull
      refine ⟨⟨negative, leadingDigit, e + 1⟩, rfl, ⟨e, n, hscale, hround, ?_⟩,
        fun _ => Nat.le_refl _, rfl⟩
      rw [size, hfull, two_zpow_add]
      push_cast
      ring
    · rename_i hfull
      exact ⟨⟨negative, n, e⟩, rfl, ⟨e, n, hscale, hround, rfl⟩, hge, rfl⟩

/-- A rounded quotient with its sign; nothing where it is too great for any value. -/
def Outcome (negative : Bool) (q : ℚ) : Option Binary64 → Prop
  | some x => x.negative = negative ∧ Rounds q x.size
  | none => ∃ r, Rounds q r ∧ 2 ^ 1024 ≤ r

theorem nearest_outcome (negative : Bool) (num : ℕ) (hden : den ≠ 0) :
    Outcome negative (num / den) (nearest negative num den) := by
  obtain ⟨x, hnegative, hrounds, hleading, heq⟩ := nearest_eq negative num hden
  rw [heq]
  split
  · exact ⟨hnegative, hrounds⟩
  · rename_i hgreat
    refine ⟨x.size, hrounds, ?_⟩
    have hsignificand : ((leadingDigit : ℕ) : ℚ) ≤ x.significand := by
      have hne : x.exponent ≠ minExponent := by
        intro hmin
        rw [hmin] at hgreat
        exact hgreat (by decide)
      exact_mod_cast hleading hne
    have hexponent : (2 : ℚ) ^ (972 : ℤ) ≤ 2 ^ x.exponent := by
      apply two_zpow_le
      have : maxExponent = 971 := rfl
      omega
    calc (2 : ℚ) ^ 1024 = (leadingDigit : ℕ) * 2 ^ (972 : ℤ) := by
          rw [leadingDigit_eq, ← two_zpow_add]
          rfl
      _ ≤ x.significand * 2 ^ x.exponent :=
          mul_le_mul hsignificand hexponent (two_zpow_pos _).le (Nat.cast_nonneg _)

theorem exists_rounds {q : ℚ} (hq : 0 ≤ q) : ∃ r, Rounds q r := by
  obtain ⟨x, -, hrounds, -⟩ := nearest_eq false q.num.toNat q.den_nz
  have hnum : ((q.num.toNat : ℕ) : ℚ) = q.num := by
    exact_mod_cast Int.toNat_of_nonneg (Rat.num_nonneg.2 hq)
  rw [hnum, Rat.num_div_den] at hrounds
  exact ⟨x.size, hrounds⟩

theorem nearest_one_outcome (negative : Bool) (n : ℕ) :
    Outcome negative n (nearest negative n 1) := by
  have h := nearest_outcome negative n Nat.one_ne_zero
  rwa [Nat.cast_one, div_one] at h

/-- What does not round to too much has a value. -/
theorem Outcome.exists_value {q r : ℚ} {result : Option Binary64} (h : Outcome negative q result)
    (hr : Rounds q r) (hlt : r < 2 ^ 1024) :
    ∃ x, result = some x ∧ x.negative = negative ∧ x.size = r := by
  cases result with
  | none =>
    obtain ⟨r', hr', hle⟩ := h
    exact absurd hlt (not_lt.2 (hr.unique hr' ▸ hle))
  | some x => exact ⟨x, rfl, h.1, h.2.unique hr⟩

theorem Outcome.exists_rounded {q : ℚ} {result : Option Binary64} (h : Outcome negative q result) :
    ∃ r, Rounds q r := by
  cases result with
  | none =>
    obtain ⟨r, hr, -⟩ := h
    exact ⟨r, hr⟩
  | some x => exact ⟨x.size, h.2⟩

/-- What is no more than a word can hold has a value, and this is no more than the word's bound. -/
theorem Outcome.exists_word {q : ℚ} {result : Option Binary64} (h : Outcome negative q result)
    (hq : q ≤ wordBound) :
    ∃ x, result = some x ∧ x.negative = negative ∧ Rounds q x.size ∧ x.size ≤ wordBound := by
  obtain ⟨r, hr⟩ := h.exists_rounded
  have hle : r ≤ wordBound := by
    obtain ⟨b, hb⟩ := exists_rounds (Nat.cast_nonneg wordBound)
    have hdyadic : (wordBound : ℚ) = (1 : ℕ) * 2 ^ (64 : ℤ) := by norm_num [wordBound]
    have hkept : b = wordBound := by
      rw [hdyadic] at hb ⊢
      exact hb.eq_of_dyadic (by decide) (by decide)
    exact hkept ▸ hr.mono hb hq
  have htop : (wordBound : ℚ) < 2 ^ 1024 := by
    have hword : (wordBound : ℚ) = 2 ^ 64 := by norm_num [wordBound]
    rw [hword]
    exact pow_lt_pow_right₀ (by norm_num) (by norm_num)
  obtain ⟨x, hx, hnegative, rfl⟩ := h.exists_value hr (hle.trans_lt htop)
  exact ⟨x, hx, hnegative, hr, hle⟩

end Nearest

/-! ## Products, quotients and whole numbers -/

theorem mul?_outcome (x y : Binary64) :
    Outcome (x.negative != y.negative) (x.size * y.size) (x.mul? y) := by
  have hden := Nat.mul_ne_zero x.magnitude_snd_ne_zero y.magnitude_snd_ne_zero
  have h := nearest_outcome (x.negative != y.negative) (x.magnitude.1 * y.magnitude.1) hden
  rw [Nat.cast_mul, Nat.cast_mul, mul_div_mul_comm, magnitude_div, magnitude_div] at h
  exact h

theorem div?_outcome (x : Binary64) {y : Binary64} (hy : y.significand ≠ 0) :
    Outcome (x.negative != y.negative) (x.size / y.size) (x.div? y) := by
  have hmagnitude : y.magnitude.1 ≠ 0 := Nat.mul_ne_zero hy (Nat.pos_iff_ne_zero.1
    (Nat.pow_pos (by decide)))
  have hden := Nat.mul_ne_zero x.magnitude_snd_ne_zero hmagnitude
  have h := nearest_outcome (x.negative != y.negative) (x.magnitude.1 * y.magnitude.2) hden
  rw [Nat.cast_mul, Nat.cast_mul, ← div_div_div_eq, magnitude_div, magnitude_div] at h
  exact h

theorem rounds_ofInt {n : ℕ} (hn : n < wordBound) :
    (ofInt n).negative = false ∧ Rounds n (ofInt n).size := by
  have hle : (n : ℚ) ≤ wordBound := by exact_mod_cast hn.le
  obtain ⟨x, hx, hnegative, hrounds, -⟩ := (nearest_one_outcome false n).exists_word hle
  have hsign : decide ((n : ℤ) < 0) = false := decide_eq_false (by omega)
  rw [ofInt, hsign, Int.natAbs_natCast, hx]
  exact ⟨hnegative, hrounds⟩

/-- The whole number nearest to a magnitude, a half away from zero. -/
theorem roundMagnitude_eq (x : Binary64) : x.roundMagnitude = ⌊x.size + 1 / 2⌋₊ := by
  have hpos : (0 : ℚ) < x.magnitude.2 := by
    exact_mod_cast Nat.pos_of_ne_zero x.magnitude_snd_ne_zero
  have hquot : x.size + 1 / 2
      = ((2 * x.magnitude.1 + x.magnitude.2 : ℕ) : ℚ) / (2 * x.magnitude.2 : ℕ) := by
    rw [← magnitude_div]
    push_cast
    field_simp
  rw [hquot, Nat.floor_div_eq_div]
  rfl

end ChainExplorer.Binary64
