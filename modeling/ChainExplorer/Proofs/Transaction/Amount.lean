import ChainExplorer.Json.Reader
import ChainExplorer.Proofs.Binary64.Rounding
import ChainExplorer.Proofs.Text.Numeral
import ChainExplorer.Transaction.Amount

/-!
# What an amount comes to

A string of coins is read as the decimal that it spells, so it is worth a million times that and
nothing else (`string_amounts_exact`). A number of coins has been through binary64 before it is
read. It comes to the product with a million in binary64, rounded to a whole number, and the range
of that is checked behind the rounding and against a bound that is one too great. So the two ends
leak by one step each: what is negative and rounds to zero passes, and what comes to exactly one
more than the largest word passes as the largest (`number_amount_exact_unless_at_edge`).
-/

namespace ChainExplorer.Amount

open ChainExplorer.Text ChainExplorer.Binary64

/-! ## Decimals -/

/-- A decimal as it is written: digits, and further ones behind a point if it has one. -/
structure Figure where
  whole : List Char
  fraction : Option (List Char)

namespace Figure

/-- The digits behind the point. -/
def decimals (f : Figure) : List Char := f.fraction.getD []

/-- The digits alone. -/
def digits (f : Figure) : List Char := f.whole ++ f.decimals

def chars (f : Figure) : List Char :=
  match f.fraction with
  | none => f.whole
  | some ds => f.whole ++ '.' :: ds

/-- The number that is written. -/
def value (f : Figure) : ℚ := ofDigits f.digits / 10 ^ f.decimals.length

/-- One digit or more, and at most six behind the point. -/
structure Valid (f : Figure) : Prop where
  ne_nil : f.whole ≠ []
  isDigit : ∀ c ∈ f.digits, isDigit c = true
  short : f.decimals.length ≤ places

/-- A text that is such a decimal. -/
def Spells (f : Figure) (text : String) : Prop := f.Valid ∧ text.toList = f.chars

/-- The base units of that many coins. -/
def units (f : Figure) : ℕ := ofDigits f.digits * 10 ^ (places - f.decimals.length)

variable {f : Figure}

theorem Valid.units_eq (h : f.Valid) : (f.units : ℚ) = f.value * 10 ^ 6 := by
  have hsplit : (10 : ℚ) ^ 6 = 10 ^ (places - f.decimals.length) * 10 ^ f.decimals.length := by
    rw [← pow_add, Nat.sub_add_cancel h.short, places]
  have hpos : (10 : ℚ) ^ f.decimals.length ≠ 0 := pow_ne_zero _ (by norm_num)
  rw [units, value, hsplit]
  push_cast
  field_simp

theorem units_eq_of_parts (h : f.Valid) : f.units
    = ofDigits f.whole * coin + ofDigits f.decimals * 10 ^ (places - f.decimals.length) := by
  have hsplit : coin = 10 ^ f.decimals.length * 10 ^ (places - f.decimals.length) := by
    rw [← Nat.pow_add, Nat.add_sub_cancel' h.short]
    rfl
  rw [units, digits, ofDigits_append, hsplit, Nat.add_mul, Nat.mul_assoc]

theorem splitPoint_chars (h : ∀ c ∈ f.whole, Text.isDigit c = true) :
    splitPoint f.chars = (f.whole, f.decimals) := by
  have hpoint : ∀ c ∈ f.whole, decide (c ≠ '.') = true := by
    intro c hc
    rw [decide_eq_true_iff]
    rintro rfl
    exact absurd (h '.' hc) (by decide)
  have htake : ∀ rest : List Char, (f.whole ++ rest).takeWhile (· ≠ '.')
      = f.whole ++ rest.takeWhile (· ≠ '.') := fun _ => List.takeWhile_append_of_pos hpoint
  have hdrop : ∀ rest : List Char, (f.whole ++ rest).dropWhile (· ≠ '.')
      = rest.dropWhile (· ≠ '.') := fun _ => List.dropWhile_append_of_pos hpoint
  unfold splitPoint chars decimals
  cases f.fraction with
  | none =>
    have htake := htake []
    have hdrop := hdrop []
    rw [List.append_nil] at htake hdrop
    simp only [htake, hdrop, List.takeWhile_nil, List.dropWhile_nil, List.append_nil,
      List.drop_nil, Option.getD_none]
  | some ds =>
    simp only [htake, hdrop]
    simp

/-- Two decimals that are written alike are the same amount. -/
theorem units_eq_of_chars {g : Figure} (hf : f.Valid) (hg : g.Valid) (h : f.chars = g.chars) :
    f.units = g.units := by
  have hsplit := splitPoint_chars fun c hc => hf.isDigit c (List.mem_append_left _ hc)
  rw [h, splitPoint_chars fun c hc => hg.isDigit c (List.mem_append_left _ hc)] at hsplit
  obtain ⟨hwhole, hdecimals⟩ := Prod.mk.inj hsplit
  rw [units, units, digits, digits, hwhole, hdecimals]

/-- Every text is cut into such parts, whatever they are. -/
theorem exists_chars (cs : List Char) :
    ∃ f : Figure, f.chars = cs ∧ splitPoint cs = (f.whole, f.decimals) := by
  have happend := List.takeWhile_append_dropWhile (p := (· ≠ '.')) (l := cs)
  cases hrest : cs.dropWhile (· ≠ '.') with
  | nil =>
    rw [hrest, List.append_nil] at happend
    refine ⟨⟨cs, none⟩, rfl, ?_⟩
    simp only [splitPoint, hrest, happend, decimals, List.drop_nil, Option.getD_none]
  | cons c ds =>
    have hhead := List.head?_dropWhile_not (· ≠ '.') cs
    rw [hrest] at hhead happend
    obtain rfl : c = '.' := by simpa using hhead
    refine ⟨⟨cs.takeWhile (· ≠ '.'), some ds⟩, happend, ?_⟩
    simp only [splitPoint, hrest, decimals, List.drop_one, List.tail_cons, Option.getD_some]

end Figure

/-! ## Strings -/

/-- What is no decimal of coins is stopped before anything is read. -/
theorem valid_of_ofDecimal? {f : Figure} (hsplit : splitPoint f.chars = (f.whole, f.decimals))
    {v : UInt64} (h : ofDecimal? f.chars = some v) : f.Valid := by
  rw [ofDecimal?, hsplit] at h
  simp only at h
  split at h
  · cases h
  · rename_i hvalid
    simp only [Bool.or_eq_true, not_or, Bool.not_eq_true, Bool.not_eq_false',
      List.isEmpty_eq_false_iff, decide_eq_false_iff_not, not_lt, List.all_eq_true] at hvalid
    obtain ⟨⟨⟨hne, hshort⟩, hwhole⟩, hdecimals⟩ := hvalid
    refine ⟨hne, fun c hc => ?_, hshort⟩
    rcases List.mem_append.1 hc with hc | hc
    · exact hwhole c hc
    · exact hdecimals c hc

theorem fractionUnits?_eq_some {ds : List Char} (h : ∀ c ∈ ds, isDigit c = true) {v : UInt64} :
    fractionUnits? ds = some v ↔ v.toNat = ofDigits ds * 10 ^ (places - ds.length) := by
  rw [fractionUnits?]
  split
  · rename_i hempty
    rw [List.isEmpty_iff.1 hempty, Option.some.injEq, ← UInt64.toNat_inj, eq_comm]
    rfl
  · rename_i hsome
    have hne : padRight places ds ≠ [] :=
      List.append_ne_nil_of_left_ne_nil (mt List.isEmpty_iff.2 hsome) _
    rw [word?_eq_some, spells_digits hne (isDigit_of_mem_padRight h), ofDigits_padRight]

/-- **The steps come to one sum and one bound.** The coins in front of the point and the filled up
fraction behind it are words of their own, their product and their sum are checked, and all of it
goes through exactly if the whole fits a word. -/
theorem ofDecimal?_chars {f : Figure} (h : f.Valid) {v : UInt64} :
    ofDecimal? f.chars = some v ↔ v.toNat = f.units := by
  have hwhole : ∀ c ∈ f.whole, isDigit c = true :=
    fun c hc => h.isDigit c (List.mem_append_left _ hc)
  have hdecimals : ∀ c ∈ f.decimals, isDigit c = true :=
    fun c hc => h.isDigit c (List.mem_append_right _ hc)
  have hcoin : (UInt64.ofNat coin).toNat = coin := rfl
  rw [ofDecimal?, Figure.splitPoint_chars hwhole, Figure.units_eq_of_parts h]
  simp only [List.isEmpty_eq_false_iff.2 h.ne_nil, Nat.not_lt.2 h.short, List.all_eq_true.2 hwhole,
    List.all_eq_true.2 hdecimals, decide_false, Bool.not_true, Bool.or_self, Bool.false_eq_true,
    if_false, Option.bind_eq_bind, Option.bind_eq_some_iff, word?_eq_some,
    spells_digits h.ne_nil hwhole, fractionUnits?_eq_some hdecimals, checkedMul_eq_some,
    checkedAdd_eq_some, hcoin]
  constructor
  · rintro ⟨coins, hcoins, rest, hrest, units, hunits, hsum⟩
    rw [← hsum, ← hunits, hcoins, hrest]
  · intro hv
    -- Each part is below the whole, and this one is a word.
    have hlt : v.toNat < wordBound := v.toNat_lt
    rw [hv] at hlt
    have hword : ∀ n, n ≤ ofDigits f.whole * coin
        + ofDigits f.decimals * 10 ^ (places - f.decimals.length) →
          (UInt64.ofNat n).toNat = n :=
      fun n hn => UInt64.toNat_ofNat_of_lt' (hn.trans_lt hlt)
    have hfront : ofDigits f.whole ≤ ofDigits f.whole * coin :=
      Nat.le_mul_of_pos_right _ (by decide)
    have hcoins := hword _ (hfront.trans (Nat.le_add_right _ _))
    have hunits := hword _ (Nat.le_add_right _ _)
    have hrest := hword _ (Nat.le_add_left _ _)
    refine ⟨_, hcoins, _, hrest, UInt64.ofNat (ofDigits f.whole * coin), ?_, ?_⟩
    · rw [hcoins]
      exact hunits.symm
    · rw [hunits, hrest, hv]

/-- **A decimal is read if it spells an amount that fits a word**, and as that amount. -/
theorem ofDecimal?_eq_some {cs : List Char} {v : UInt64} :
    ofDecimal? cs = some v ↔ ∃ f : Figure, f.Valid ∧ cs = f.chars ∧ v.toNat = f.units := by
  constructor
  · intro h
    obtain ⟨f, rfl, hsplit⟩ := Figure.exists_chars cs
    have hf := valid_of_ofDecimal? hsplit h
    exact ⟨f, hf, rfl, (ofDecimal?_chars hf).1 h⟩
  · rintro ⟨f, hf, rfl, hv⟩
    exact (ofDecimal?_chars hf).2 hv

theorem ofJson_string_eq_ok {text : String} {v : UInt64} :
    ofJson (.string text) = .ok v ↔ ofDecimal? text.toList = some v := by
  rw [ofJson]
  cases ofDecimal? text.toList with
  | none => exact iff_of_false (by intro h; cases h) (by intro h; cases h)
  | some units => rw [Except.ok.injEq, Option.some.injEq]

/-- An amount with all six places. -/
def written (v : UInt64) : String :=
  String.ofList (toDigits (v.toNat / coin) ++ '.' :: padLeft places (toDigits (v.toNat % coin)))

theorem ofDecimal?_written (v : UInt64) : ofDecimal? (written v).toList = some v := by
  have hrest : v.toNat % coin < 10 ^ places := Nat.mod_lt _ (by decide)
  have hlength : (padLeft places (toDigits (v.toNat % coin))).length = places := by
    have hle := length_toDigits_le (by decide) hrest
    rw [padLeft, List.length_append, List.length_replicate, Nat.sub_add_cancel hle]
  refine ofDecimal?_eq_some.2 ⟨⟨toDigits (v.toNat / coin),
    some (padLeft places (toDigits (v.toNat % coin)))⟩, ⟨toDigits_ne_nil _, ?_, hlength.le⟩, ?_, ?_⟩
  · intro c hc
    simp only [Figure.digits, Figure.decimals, Option.getD_some, padLeft, List.mem_append] at hc
    rcases hc with hc | hc | hc
    · exact isDigit_of_mem_toDigits _ hc
    · rw [List.eq_of_mem_replicate hc]
      decide
    · exact isDigit_of_mem_toDigits _ hc
  · rw [written, String.toList_ofList]
    rfl
  · simp only [Figure.units, Figure.digits, Figure.decimals, Option.getD_some, hlength]
    rw [ofDigits_append, hlength, ofDigits_toDigits, ofDigits_padLeft, ofDigits_toDigits,
      Nat.sub_self, Nat.pow_zero, Nat.mul_one]
    exact (Nat.div_add_mod' _ coin).symm

/-- **A string is worth what it spells.** It is read if and only if it is a decimal of coins, with a
digit or more, at most six places and nothing else, whose base units fit a word, and it is read as
exactly these: zeros in front make no difference. And every amount is read back from the text with
six places. -/
theorem string_amounts_exact :
    (∀ text : String, (∃ v, ofJson (.string text) = .ok v) ↔
      ∃ f : Figure, f.Spells text ∧ f.value * 10 ^ 6 < wordBound) ∧
    (∀ (text : String) (v : UInt64), ofJson (.string text) = .ok v ↔
      ∃ f : Figure, f.Spells text ∧ (v.toNat : ℚ) = f.value * 10 ^ 6) ∧
    ∀ v : UInt64, ofJson (.string (written v)) = .ok v := by
  have hiff : ∀ (text : String) (v : UInt64), ofJson (.string text) = .ok v ↔
      ∃ f : Figure, f.Spells text ∧ (v.toNat : ℚ) = f.value * 10 ^ 6 := by
    intro text v
    rw [ofJson_string_eq_ok, ofDecimal?_eq_some]
    constructor
    · rintro ⟨f, hf, htext, hv⟩
      refine ⟨f, ⟨hf, htext⟩, ?_⟩
      rw [hv, hf.units_eq]
    · rintro ⟨f, ⟨hf, htext⟩, hv⟩
      refine ⟨f, hf, htext, ?_⟩
      rw [← hf.units_eq] at hv
      exact_mod_cast hv
  refine ⟨fun text => ⟨?_, ?_⟩, hiff, fun v => ofJson_string_eq_ok.2 (ofDecimal?_written v)⟩
  · rintro ⟨v, hv⟩
    obtain ⟨f, hf, hunits⟩ := (hiff text v).1 hv
    have hlt : v.toNat < wordBound := v.toNat_lt
    refine ⟨f, hf, hunits ▸ ?_⟩
    exact_mod_cast hlt
  · rintro ⟨f, hf, hlt⟩
    rw [← hf.1.units_eq] at hlt
    have hbound : f.units < wordBound := by exact_mod_cast hlt
    refine ⟨UInt64.ofNat f.units, (hiff _ _).2 ⟨f, hf, ?_⟩⟩
    rw [UInt64.toNat_ofNat_of_lt' hbound, hf.1.units_eq]

/-! ## Numbers -/

theorem coinValue_eq : coinValue = ⟨false, 8589934592000000, -33⟩ := by
  decide +kernel

theorem size_coinValue : coinValue.size = 10 ^ 6 := by
  rw [coinValue_eq, size]
  norm_num

/-- What a number of coins is read as, from the exact product with a million. -/
theorem ofNumber_eq_ok {x : Binary64} {r : ℚ} (hr : Rounds (x.size * 10 ^ 6) r) {v : UInt64} :
    ofNumber x = .ok v ↔ (x.negative = true → ⌊r + 1 / 2⌋₊ = 0) ∧ ⌊r + 1 / 2⌋₊ ≤ wordBound ∧
      v.toNat = min ⌊r + 1 / 2⌋₊ (wordBound - 1) := by
  have hproduct := x.mul?_outcome coinValue
  rw [size_coinValue] at hproduct
  rw [ofNumber]
  generalize x.mul? coinValue = product at *
  cases product with
  | none =>
    obtain ⟨r', hr', hgreat⟩ := hproduct
    obtain rfl := hr.unique hr'
    refine iff_of_false (by intro h; cases h) ?_
    rintro ⟨-, hle, -⟩
    have hlt : r < wordBound + 1 := by
      have := Nat.lt_floor_add_one (r + 1 / 2)
      have : ((⌊r + 1 / 2⌋₊ : ℕ) : ℚ) ≤ wordBound := by exact_mod_cast hle
      linarith
    have hword : (wordBound : ℚ) + 1 ≤ 2 ^ 65 := by norm_num [wordBound]
    have hpow : (2 : ℚ) ^ 65 ≤ 2 ^ 1024 := pow_le_pow_right₀ (by norm_num) (by norm_num)
    exact lt_irrefl _ (hgreat.trans_lt (hlt.trans_le (hword.trans hpow)))
  | some p =>
    obtain ⟨hnegative, hrounds⟩ := hproduct
    obtain rfl := hr.unique hrounds
    have hsign : p.negative = x.negative := by
      rw [hnegative, coinValue_eq]
      cases x.negative <;> rfl
    simp only [ofProduct, roundMagnitude_eq, hsign]
    split
    · rename_i hout
      refine iff_of_false (by intro h; cases h) ?_
      rintro ⟨hzero, hle, -⟩
      rcases hout with ⟨hneg, hne⟩ | hlt
      · exact hne (hzero hneg)
      · omega
    · rename_i hin
      rw [not_or, not_and_not_right, not_lt] at hin
      have hlt : min ⌊p.size + 1 / 2⌋₊ (wordBound - 1) < wordBound :=
        lt_of_le_of_lt (Nat.min_le_right _ _) (by decide)
      rw [Except.ok.injEq, ← UInt64.toNat_inj, UInt64.toNat_ofNat_of_lt' hlt]
      constructor
      · intro hv
        exact ⟨hin.1, hin.2, hv.symm⟩
      · intro hv
        exact hv.2.2.symm

/-- The number of coins that a JSON number says; an integer is brought into binary64 first. -/
def Says (number : Json) (x : Binary64) : Prop :=
  number = .float x ∨ ∃ i : ℤ, number = .int i ∧ x = .ofInt i

theorem Says.ofJson_eq {number : Json} {x : Binary64} (h : Says number x) :
    ofJson number = ofNumber x := by
  rcases h with rfl | ⟨i, rfl, rfl⟩ <;> rfl

/-- The base units that a number of coins comes to: the binary64 product with a million, rounded to
a whole number, a half away from zero. -/
def ComesTo (x : Binary64) (y : ℤ) : Prop :=
  ∃ r, Rounds (x.size * 10 ^ 6) r ∧ y = if x.negative then -⌊r + 1 / 2⌋ else ⌊r + 1 / 2⌋

theorem exists_rounds_product (x : Binary64) : ∃ r, Rounds (x.size * 10 ^ 6) r :=
  exists_rounds (mul_nonneg x.size_nonneg (by norm_num))

theorem comesTo_of_mul? {x p : Binary64} (h : x.mul? coinValue = some p) :
    ComesTo x (if x.negative then -(p.roundMagnitude : ℤ) else p.roundMagnitude) := by
  have hproduct := x.mul?_outcome coinValue
  rw [size_coinValue, h] at hproduct
  refine ⟨p.size, hproduct.2, ?_⟩
  rw [roundMagnitude_eq, Int.natCast_floor_eq_floor (by linarith [p.size_nonneg])]

/-- **A number is worth what it comes to, except at the two edges of a word.** Where it is not
negative and what it comes to fits a word, it is read as that. Otherwise it is refused, unless it is
negative and comes to zero, or comes to exactly one more than the largest word, which is what it is
read as then. -/
theorem number_amount_exact_unless_at_edge {number : Json} {x : Binary64} (h : Says number x) :
    ∃ y, ComesTo x y ∧ (∀ other, ComesTo x other → other = y) ∧
      ∀ v : UInt64, ofJson number = .ok v ↔
        0 ≤ x.value ∧ y < wordBound ∧ (v.toNat : ℤ) = y ∨
        x.value < 0 ∧ y = 0 ∧ v.toNat = 0 ∨
        y = wordBound ∧ v.toNat = wordBound - 1 := by
  obtain ⟨r, hr⟩ := exists_rounds_product x
  have hfloor : ⌊r + 1 / 2⌋ = (⌊r + 1 / 2⌋₊ : ℤ) :=
    (Int.natCast_floor_eq_floor (by linarith [hr.nonneg])).symm
  refine ⟨_, ⟨r, hr, rfl⟩, ?_, fun v => ?_⟩
  · rintro other ⟨r', hr', rfl⟩
    rw [hr.unique hr']
  · rw [h.ofJson_eq, ofNumber_eq_ok hr, hfloor]
    generalize hunits : ⌊r + 1 / 2⌋₊ = units
    have hword : 0 < wordBound := by decide
    cases hx : x.negative with
    | false =>
      have hvalue : x.value = x.size := by rw [value, hx]; rfl
      simp only [hvalue, x.size_nonneg, not_lt.2 x.size_nonneg, Bool.false_eq_true, if_false,
        false_imp_iff, true_and, false_and, false_or]
      omega
    | true =>
      have hvalue : x.value = -x.size := by rw [value, hx]; rfl
      simp only [hvalue, Left.nonneg_neg_iff, Left.neg_neg_iff, if_true, true_imp_iff]
      rcases x.size_nonneg.eq_or_lt with hsize | hsize
      · -- A negative number that is zero comes to zero.
        have hzero : units = 0 := by
          rw [← hsize, zero_mul] at hr
          rw [← hunits, hr.eq_zero]
          norm_num
        simp only [← hsize, hzero, le_refl, lt_self_iff_false, true_and, false_and, false_or]
        omega
      · simp only [hsize, not_le.2 hsize, false_and, true_and, false_or]
        omega

/-- The greatest number of coins that comes to a word. -/
def brink : Binary64 := ⟨false, 4722366482869644, -8⟩

theorem number_amount_exact_unless_at_edge_brink :
    Json.parse? "18446744073709.5479" = some (.float brink) ∧ ComesTo brink 18446744073709547520 ∧
      ofJson (.float brink) = .ok 18446744073709547520 := by
  have hcomes : ComesTo brink 18446744073709547520 :=
    comesTo_of_mul? (p := ⟨false, 9007199254740990, 11⟩) (by decide +kernel)
  have hsaid : Says (.float brink) brink := .inl rfl
  obtain ⟨y, -, hunique, hiff⟩ := number_amount_exact_unless_at_edge hsaid
  refine ⟨rfl, hcomes, (hiff _).2 (.inl ⟨?_, ?_, ?_⟩)⟩
  · exact brink.size_nonneg
  · rw [← hunique _ hcomes]
    decide
  · rw [← hunique _ hcomes]
    rfl

/-- The next greater number of coins. -/
def brim : Binary64 := ⟨false, 4722366482869645, -8⟩

/-- A tenth of a base unit below zero. -/
def speck : Binary64 := ⟨true, 7555786372591432, -76⟩

/-- One more than the largest word is read as the largest, and less than nothing as nothing. -/
theorem edges_are_clamped :
    (Json.parse? "18446744073709.551616" = some (.float brim) ∧ ComesTo brim wordBound ∧
      ofJson (.float brim) = .ok 18446744073709551615) ∧
    Json.parse? "-0.0000001" = some (.float speck) ∧ speck.value < 0 ∧
      ofJson (.float speck) = .ok 0 := by
  refine ⟨⟨rfl, comesTo_of_mul? (p := ⟨false, 4503599627370496, 12⟩) (by decide +kernel), rfl⟩,
    rfl, ?_, rfl⟩
  have hnegative : speck.negative = true := rfl
  rw [value, if_pos hnegative, Left.neg_neg_iff]
  exact mul_pos (by norm_num [speck]) (two_zpow_pos _)

end ChainExplorer.Amount
