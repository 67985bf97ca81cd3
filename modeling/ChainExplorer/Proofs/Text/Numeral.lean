import ChainExplorer.Text.Decimal
import Mathlib.Algebra.Group.Nat.Defs

/-!
# What a numeral says

A numeral is read if it says a number below the bound of the reader. Zeros in front make no
difference, and where a sign is allowed it is a plus sign or none. A run of digits says the same as
its front and its back do, the front shifted by as many places as the back has.
-/

namespace ChainExplorer.Text

/-! ## Runs of digits -/

theorem digit?_getD_lt (c : Char) : (digit? c).getD 0 < 10 := by
  unfold digit?
  split
  · rename_i h
    have hnine : c.toNat ≤ 57 := h.2
    show c.toNat - 48 < 10
    omega
  · show 0 < 10
    decide

theorem foldl_digits (n : Nat) (cs : List Char) :
    cs.foldl (fun n c => 10 * n + (digit? c).getD 0) n = n * 10 ^ cs.length + ofDigits cs := by
  induction cs generalizing n with
  | nil => simp [ofDigits]
  | cons c cs ih =>
    -- Both runs begin with `c`, the one behind `n` and the one behind nothing.
    have hown : ofDigits (c :: cs) = (digit? c).getD 0 * 10 ^ cs.length + ofDigits cs := by
      rw [ofDigits, List.foldl_cons, ih, Nat.mul_zero, Nat.zero_add]
    rw [List.foldl_cons, ih, hown, List.length_cons, Nat.pow_succ, Nat.add_mul,
      Nat.mul_comm 10 n, Nat.mul_assoc, Nat.mul_comm 10, Nat.add_assoc]

theorem ofDigits_cons (c : Char) (cs : List Char) :
    ofDigits (c :: cs) = (digit? c).getD 0 * 10 ^ cs.length + ofDigits cs := by
  rw [ofDigits, List.foldl_cons, foldl_digits, Nat.mul_zero, Nat.zero_add]

theorem ofDigits_append (cs ds : List Char) :
    ofDigits (cs ++ ds) = ofDigits cs * 10 ^ ds.length + ofDigits ds := by
  rw [← foldl_digits, ofDigits, List.foldl_append, ← ofDigits]

theorem ofDigits_lt (cs : List Char) : ofDigits cs < 10 ^ cs.length := by
  induction cs with
  | nil => decide
  | cons c cs ih =>
    have hdigit : (digit? c).getD 0 * 10 ^ cs.length ≤ 9 * 10 ^ cs.length :=
      Nat.mul_le_mul_right _ (Nat.le_of_lt_succ (digit?_getD_lt c))
    rw [ofDigits_cons, List.length_cons, Nat.pow_succ]
    omega

theorem ofDigits_zeros (n : Nat) : ofDigits (List.replicate n '0') = 0 := by
  induction n with
  | zero => rfl
  | succ n ih =>
    rw [List.replicate_succ, ofDigits_cons, ih]
    simp [digit?]

/-- Zeros in front of a run of digits add nothing. -/
theorem ofDigits_padLeft (width : Nat) (cs : List Char) :
    ofDigits (padLeft width cs) = ofDigits cs := by
  rw [padLeft, ofDigits_append, ofDigits_zeros, Nat.zero_mul, Nat.zero_add]

/-- Zeros behind a run of digits shift it. -/
theorem ofDigits_padRight (width : Nat) (cs : List Char) :
    ofDigits (padRight width cs) = ofDigits cs * 10 ^ (width - cs.length) := by
  rw [padRight, ofDigits_append, ofDigits_zeros, List.length_replicate, Nat.add_zero]

theorem isDigit_of_mem_padRight {width : Nat} {cs : List Char}
    (h : ∀ c ∈ cs, isDigit c = true) : ∀ c ∈ padRight width cs, isDigit c = true := by
  intro c hc
  rw [padRight, List.mem_append] at hc
  rcases hc with hc | hc
  · exact h c hc
  · rw [List.eq_of_mem_replicate hc]
    rfl

theorem length_toDigits_le {n k : Nat} (hk : 0 < k) (hn : n < 10 ^ k) :
    (toDigits n).length ≤ k := by
  induction k generalizing n with
  | zero => omega
  | succ k ih =>
    rw [toDigits]
    split
    · simp
    · rename_i hmore
      rw [Nat.pow_succ] at hn
      have hk : 0 < k := by
        rcases Nat.eq_zero_or_pos k with rfl | hk
        · omega
        · exact hk
      have hfront := ih hk (n := n / 10) (by omega)
      simpa using hfront

/-! ## Numerals -/

/-- A text that says a number in decimal digits, which a plus sign may precede. -/
def Spells (cs : List Char) (n : Nat) : Prop :=
  ∃ digits, (cs = digits ∨ cs = '+' :: digits) ∧
    digits ≠ [] ∧ (∀ c ∈ digits, isDigit c = true) ∧ ofDigits digits = n

theorem numeral?_eq_some {bound n : Nat} {cs : List Char} : numeral? bound cs = some n ↔
    cs ≠ [] ∧ (∀ c ∈ cs, isDigit c = true) ∧ ofDigits cs = n ∧ n < bound := by
  rw [numeral?]
  constructor
  · intro h
    split at h
    · rename_i hread
      obtain rfl := Option.some.inj h
      simpa [and_assoc] using hread
    · cases h
  · rintro ⟨hne, hdigits, rfl, hbound⟩
    exact if_pos (by simpa [hne, hbound] using hdigits)

theorem unsigned?_eq_some {bound n : Nat} {cs : List Char} :
    unsigned? bound cs = some n ↔ Spells cs n ∧ n < bound := by
  constructor
  · intro h
    rw [unsigned?.eq_def] at h
    split at h
    · rename_i digits
      obtain ⟨hne, hdigits, hvalue, hbound⟩ := numeral?_eq_some.1 h
      exact ⟨⟨digits, .inr rfl, hne, hdigits, hvalue⟩, hbound⟩
    · obtain ⟨hne, hdigits, hvalue, hbound⟩ := numeral?_eq_some.1 h
      exact ⟨⟨cs, .inl rfl, hne, hdigits, hvalue⟩, hbound⟩
  · rintro ⟨⟨digits, rfl | rfl, hne, hdigits, hvalue⟩, hbound⟩
    · rw [unsigned?.eq_def]
      split
      · -- a plus sign is no digit
        have hplus := hdigits '+' List.mem_cons_self
        cases hplus
      · exact numeral?_eq_some.2 ⟨hne, hdigits, hvalue, hbound⟩
    · exact numeral?_eq_some.2 ⟨hne, hdigits, hvalue, hbound⟩

theorem word?_eq_some {cs : List Char} {v : UInt64} : word? cs = some v ↔ Spells cs v.toNat := by
  rw [word?, Option.map_eq_some_iff]
  constructor
  · intro h
    obtain ⟨n, hread, rfl⟩ := h
    obtain ⟨hspells, hlt⟩ := unsigned?_eq_some.1 hread
    rwa [UInt64.toNat_ofNat_of_lt' hlt]
  · intro h
    exact ⟨_, unsigned?_eq_some.2 ⟨h, v.toNat_lt⟩, UInt64.ofNat_toNat⟩

/-- What a run of digits says is one number. -/
theorem spells_digits {cs : List Char} (hne : cs ≠ []) (h : ∀ c ∈ cs, isDigit c = true) {n : Nat} :
    Spells cs n ↔ n = ofDigits cs := by
  constructor
  · rintro ⟨digits, rfl | rfl, -, -, hvalue⟩
    · exact hvalue.symm
    · -- a plus sign is no digit
      have hplus := h '+' List.mem_cons_self
      cases hplus
  · rintro rfl
    exact ⟨cs, .inl rfl, hne, h, rfl⟩

end ChainExplorer.Text
