import ChainExplorer.Json.Printer
import ChainExplorer.Json.Skipper

/-!
# Numbers as they are written

Integers and binary64 values are written by different rules, positional or with an exponent, and all
of it has to be a number to a reader of JSON: a whole part without superfluous zeros, at least one
digit behind the point, at least one in the exponent. The form is checked part by part, and the one
thing to know about the value is that only zero is written with a leading zero.
-/

namespace ChainExplorer

open ChainExplorer.Text

/-! ## Runs of digits -/

namespace Text

theorem spanDigits_append {ds rest : List Char} (hd : ∀ c ∈ ds, isDigit c = true)
    (hr : ∀ c ∈ rest.head?, isDigit c = false) : spanDigits (ds ++ rest) = (ds, rest) := by
  induction ds with
  | nil =>
    cases rest with
    | nil => rfl
    | cons c rest => simp [spanDigits, hr c rfl]
  | cons c ds ih =>
    obtain ⟨hc, hds⟩ := List.forall_mem_cons.1 hd
    rw [List.cons_append, spanDigits, if_pos hc, ih hds]

/-- The numeral of a number other than zero begins with another digit than zero. -/
theorem head?_toDigits_ne {n : Nat} (hn : n ≠ 0) : (toDigits n).head? ≠ some '0' := by
  induction n using Nat.strongRecOn with
  | ind n ih =>
    rw [toDigits]
    split
    · rename_i hlt
      have hdigits : ∀ d, d < 10 → d ≠ 0 → [digitChar d].head? ≠ some '0' := by decide
      exact hdigits n hlt hn
    · obtain ⟨c, cs, hcs⟩ := List.exists_cons_of_ne_nil (toDigits_ne_nil (n / 10))
      have hhead := ih (n / 10) (by omega) (by omega)
      rw [hcs] at hhead ⊢
      exact hhead

end Text

/-! ## The parts of a number -/

namespace Json

/-- The whole part of a number: a zero only begins it where it stands alone. -/
structure Whole (ds : List Char) : Prop where
  ne_nil : ds ≠ []
  digits : ∀ c ∈ ds, isDigit c = true
  lean : ∀ rest, ds = '0' :: rest → rest = []

/-- What may stand behind a number without becoming part of it. -/
def Parted (rest : List Char) : Prop :=
  ∀ c ∈ rest.head?, isDigit c = false ∧ c ≠ '.' ∧ c ≠ 'e' ∧ c ≠ 'E'

theorem Whole.of_head {ds : List Char} (hne : ds ≠ []) (hd : ∀ c ∈ ds, isDigit c = true)
    (hh : ds.head? ≠ some '0') : Whole ds := by
  refine ⟨hne, hd, ?_⟩
  rintro rest rfl
  exact absurd rfl hh

theorem whole_toDigits (n : Nat) : Whole (toDigits n) := by
  by_cases hn : n = 0
  · subst hn
    have hzero : toDigits 0 = ['0'] := by
      rw [toDigits]
      rfl
    rw [hzero]
    exact ⟨List.cons_ne_nil _ _, List.all_eq_true.1 rfl, fun rest h => (List.cons.inj h).2.symm⟩
  · exact .of_head (toDigits_ne_nil n) (fun c hc => isDigit_of_mem_toDigits n hc)
      (head?_toDigits_ne hn)

theorem skipMagnitude_append {ds rest : List Char} (hw : Whole ds)
    (hr : ∀ c ∈ rest.head?, isDigit c = false) : skipMagnitude (ds ++ rest) = skipTail rest := by
  rw [skipMagnitude, spanDigits_append hw.digits hr]
  split
  · rename_i heq
    exact absurd (Prod.mk.inj heq).1 hw.ne_nil
  · rename_i heq
    exact absurd (hw.lean _ (Prod.mk.inj heq).1) (List.cons_ne_nil _ _)
  · rename_i heq
    rw [(Prod.mk.inj heq).2]

theorem skipTail_of_parted {rest : List Char} (hr : Parted rest) : skipTail rest = some rest := by
  unfold skipTail
  split
  · exact absurd rfl (hr '.' rfl).2.1
  · exact absurd rfl (hr 'e' rfl).2.2.1
  · exact absurd rfl (hr 'E' rfl).2.2.2
  · rfl

theorem Parted.head {rest : List Char} (hr : Parted rest) :
    ∀ c ∈ rest.head?, isDigit c = false := fun c hc => (hr c hc).1

/-- A fraction at the end of a number. -/
theorem skipTail_fraction {ds rest : List Char} (hne : ds ≠ []) (hd : ∀ c ∈ ds, isDigit c = true)
    (hr : Parted rest) : skipTail ('.' :: (ds ++ rest)) = some rest := by
  rw [skipTail, spanDigits_append hd hr.head]
  simp only [List.isEmpty_eq_false_iff.2 hne, Bool.false_eq_true, if_false]
  split
  · exact absurd rfl (hr 'e' rfl).2.2.1
  · exact absurd rfl (hr 'E' rfl).2.2.2
  · rfl

/-- A fraction in front of an exponent. -/
theorem skipTail_fraction_exponent {ds rest : List Char} (hne : ds ≠ [])
    (hd : ∀ c ∈ ds, isDigit c = true) :
    skipTail ('.' :: (ds ++ 'e' :: rest)) = skipExponent rest := by
  rw [skipTail, spanDigits_append hd (by simp [isDigit, digit?])]
  simp only [List.isEmpty_eq_false_iff.2 hne, Bool.false_eq_true, if_false]

theorem skipExponent_append {negative : Bool} {ds rest : List Char} (hne : ds ≠ [])
    (hd : ∀ c ∈ ds, isDigit c = true) (hr : Parted rest) :
    skipExponent ((if negative then '-' else '+') :: (ds ++ rest)) = some rest := by
  cases negative <;>
    simp [skipExponent, spanDigits_append hd hr.head, hne]

/-- A number without a sign is a number. -/
theorem skipNumber_of_magnitude {cs rest : List Char} (h : skipMagnitude cs = some rest) :
    skipNumber cs = some rest := by
  unfold skipNumber
  split
  · simp [skipMagnitude, spanDigits, isDigit, digit?] at h
  · exact h

theorem skipNumber_signed {cs rest : List Char} {negative : Bool}
    (h : skipMagnitude cs = some rest) :
    skipNumber ((if negative then ['-'] else []) ++ cs) = some rest := by
  cases negative with
  | false => exact skipNumber_of_magnitude h
  | true => exact h

/-! ## Integers -/

theorem skipNumber_renderInt (i : Int) {rest : List Char} (hr : Parted rest) :
    skipNumber (renderInt i ++ rest) = some rest := by
  have hmagnitude : skipMagnitude (toDigits i.natAbs ++ rest) = some rest := by
    rw [skipMagnitude_append (whole_toDigits _) hr.head, skipTail_of_parted hr]
  rw [renderInt]
  split
  · exact hmagnitude
  · exact skipNumber_of_magnitude hmagnitude

end Json

/-! ## Binary64 values -/

namespace Binary64

open Json

section Render

variable {d : Decimal} {rest : List Char}

theorem skipMagnitude_fraction {ws ds : List Char} (hw : Whole ws) (hne : ds ≠ [])
    (hd : ∀ c ∈ ds, isDigit c = true) (hr : Parted rest) :
    skipMagnitude (ws ++ '.' :: (ds ++ rest)) = some rest := by
  rw [skipMagnitude_append hw (by simp [isDigit, digit?]), skipTail_fraction hne hd hr]

theorem whole_zeros (hd : d.digits = 0 → d.exponent = 0) :
    Whole (toDigits d.digits ++ List.replicate d.exponent.toNat '0') := by
  by_cases hz : d.digits = 0
  · rw [hd hz, Int.toNat_zero, List.replicate_zero, List.append_nil]
    exact whole_toDigits _
  · obtain ⟨c, cs, hcs⟩ := List.exists_cons_of_ne_nil (toDigits_ne_nil d.digits)
    have hhead := head?_toDigits_ne hz
    refine .of_head (by simp [hcs]) (fun x hx => ?_) (by rwa [hcs] at hhead ⊢)
    rcases List.mem_append.1 hx with hx | hx
    · exact isDigit_of_mem_toDigits _ hx
    · rw [List.eq_of_mem_replicate hx]
      decide

/-- A proper front of the digits is a whole part, because only zero begins with a zero. -/
theorem whole_take {n : Nat} (hd : d.digits ≠ 0) (hn : n ≠ 0) :
    Whole ((toDigits d.digits).take n) := by
  obtain ⟨c, cs, hcs⟩ := List.exists_cons_of_ne_nil (toDigits_ne_nil d.digits)
  obtain ⟨n, rfl⟩ := Nat.exists_eq_succ_of_ne_zero hn
  have hhead := head?_toDigits_ne hd
  rw [hcs] at hhead
  refine .of_head (by simp [hcs]) (fun x hx => ?_) (by rwa [hcs])
  exact isDigit_of_mem_toDigits _ (List.mem_of_mem_take hx)

/-- A number with the point among its digits. -/
theorem skipMagnitude_split {n : Nat} (hd : d.digits ≠ 0) (hn : n ≠ 0)
    (hlt : n < (toDigits d.digits).length) (hr : Parted rest) :
    skipMagnitude ((toDigits d.digits).take n ++ '.' :: ((toDigits d.digits).drop n ++ rest))
      = some rest := by
  refine skipMagnitude_fraction (whole_take hd hn) ?_ (fun c hc => ?_) hr
  · rw [Ne, List.drop_eq_nil_iff]
    omega
  · exact isDigit_of_mem_toDigits _ (List.mem_of_mem_drop hc)

/-- A number with its digits behind the point. -/
theorem skipMagnitude_small (zeros : Nat) (hr : Parted rest) :
    skipMagnitude ('0' :: '.' :: (List.replicate zeros '0' ++ toDigits d.digits ++ rest))
      = some rest := by
  have hzero : Whole ['0'] :=
    ⟨List.cons_ne_nil _ _, List.all_eq_true.1 rfl, fun _ h => (List.cons.inj h).2.symm⟩
  refine skipMagnitude_fraction hzero (by simp [toDigits_ne_nil]) (fun c hc => ?_) hr
  rcases List.mem_append.1 hc with hc | hc
  · rw [List.eq_of_mem_replicate hc]
    decide
  · exact isDigit_of_mem_toDigits _ hc

/-- A number with an exponent: one digit, and the others behind the point if there are any. -/
theorem skipMagnitude_exponent (negative : Bool) (n : Nat) (hr : Parted rest) :
    skipMagnitude ((toDigits d.digits).take 1 ++ ((if (toDigits d.digits).length = 1 then []
      else '.' :: (toDigits d.digits).drop 1) ++ 'e' :: (if negative then '-' else '+') ::
        (toDigits n ++ rest))) = some rest := by
  have hexponent : skipExponent ((if negative then '-' else '+') :: (toDigits n ++ rest))
      = some rest :=
    skipExponent_append (toDigits_ne_nil n) (fun c hc => isDigit_of_mem_toDigits n hc) hr
  have hletter : ∀ cs : List Char, ∀ c ∈ ('e' :: cs).head?, isDigit c = false := by
    simp [isDigit, digit?]
  split
  · rename_i hone
    rw [List.take_of_length_le (Nat.le_of_eq hone), List.nil_append,
      skipMagnitude_append (whole_toDigits _) (hletter _)]
    exact hexponent
  · rename_i hmore
    have hlength := List.length_pos_iff.2 (toDigits_ne_nil d.digits)
    have hd : d.digits ≠ 0 := by
      intro hz
      rw [hz, toDigits, if_pos (by decide)] at hmore
      exact hmore rfl
    rw [skipMagnitude_append (whole_take hd Nat.one_ne_zero) (by simp [isDigit, digit?]),
      List.cons_append, skipTail_fraction_exponent]
    · exact hexponent
    · rw [Ne, List.drop_eq_nil_iff]
      omega
    · exact fun c hc => isDigit_of_mem_toDigits _ (List.mem_of_mem_drop hc)

/-- Every layout of a decimal is a number, provided that zero has no exponent. -/
theorem skipMagnitude_render (layout : Layout) (hd : d.digits = 0 → d.exponent = 0)
    (hr : Parted rest) : skipMagnitude (layout.render d ++ rest) = some rest := by
  simp only [Layout.render]
  split
  · split
    · -- A whole number: zeros up to the point, and one behind it.
      have hpoint : ∀ c ∈ ['0'], isDigit c = true := List.all_eq_true.1 rfl
      have h := skipMagnitude_fraction (whole_zeros hd) (List.cons_ne_nil _ _) hpoint hr
      simpa using h
    · have hne : d.digits ≠ 0 := by
        intro hz
        have := hd hz
        omega
      split
      · rw [List.append_assoc, List.cons_append]
        exact skipMagnitude_split hne (Nat.succ_ne_zero _) (by omega) hr
      · simpa using skipMagnitude_small _ hr
  · have h := skipMagnitude_exponent (d := d)
      (decide (d.exponent + (toDigits d.digits).length - 1 < 0))
      (d.exponent + (toDigits d.digits).length - 1).natAbs hr
    simpa using h

end Render

/-! ## The shortest decimal of a value -/

theorem digits_trim_ne {d : Decimal} (hd : d.digits ≠ 0) : d.trim.digits ≠ 0 := by
  fun_induction Decimal.trim d with
  | case1 d h ih => exact ih (by simp only; omega)
  | case2 d h => exact hd

theorem ne_zero_of_holds {i : Interval} {p k : Int} {point : Nat} (hlow : 0 < i.low)
    (h : i.holds p k point = true) : point ≠ 0 := by
  rintro rfl
  have hpos : 0 < (onGrid i.low p k).1 :=
    Nat.mul_pos (Nat.mul_pos hlow (Nat.pow_pos (by decide))) (Nat.pow_pos (by decide))
  simp only [Interval.holds, Nat.zero_mul] at h
  split at h
  · simp only [Bool.and_eq_true, decide_eq_true_eq] at h
    omega
  · simp only [Bool.and_eq_true, decide_eq_true_eq] at h
    omega

theorem holds_of_pick {i : Interval} {p k : Int} {point : Nat} (h : i.pick p k = some point) :
    i.holds p k point = true := by
  unfold Interval.pick at h
  extract_lets mid below twice nearer farther at h
  split at h
  · rename_i hn
    rwa [← Option.some.inj h]
  · split at h
    · rename_i hf
      rwa [← Option.some.inj h]
    · cases h

theorem ne_zero_of_search {i : Interval} {p first : Int} {fuel count : Nat} {d : Decimal}
    (hlow : 0 < i.low) (h : search i p first fuel count = some d) : d.digits ≠ 0 := by
  induction fuel generalizing count with
  | zero => cases h
  | succ fuel ih =>
    simp only [search] at h
    split at h
    · rename_i digits hpick
      obtain rfl := Option.some.inj h
      exact ne_zero_of_holds hlow (holds_of_pick hpick)
    · exact ih h

/-- Only zero has the digit zero, and it has no exponent. -/
theorem exponent_of_shortest (x : Binary64) : x.shortest.digits = 0 → x.shortest.exponent = 0 := by
  unfold shortest
  split
  · intro _
    rfl
  · rename_i hs
    intro hz
    refine absurd hz (digits_trim_ne ?_)
    have hlow : 0 < x.interval.low := by
      simp only [interval]
      split <;> omega
    cases hsearch : search x.interval (x.exponent - 2) x.decimalExponent 17 1 with
    | none => exact hs
    | some d => exact ne_zero_of_search hlow hsearch

/-- **A binary64 value is written as a number.** -/
theorem skipNumber_text (x : Binary64) {rest : List Char} (hr : Parted rest) :
    skipNumber (x.text ++ rest) = some rest := by
  rw [text, List.append_assoc]
  exact skipNumber_signed (skipMagnitude_render plain (exponent_of_shortest x) hr)

end Binary64

end ChainExplorer
