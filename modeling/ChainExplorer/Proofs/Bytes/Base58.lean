import ChainExplorer.Bytes.Base58
import Mathlib.Data.List.GetD
import Mathlib.Data.List.TakeWhile
import Mathlib.Data.Nat.Digits.Lemmas

/-!
# Base58 has one spelling for each byte string

A byte string and its Base58 text are both numerals: a run of leading zeros, then the shortest
digits of a number. To change the base of such a numeral is to keep the zeros and to spell the number
anew (`rebase`), and changing it back gives the same numeral (`rebase_rebase`), as a number has only
one shortest spelling in each base. Encoding and decoding are the two changes between 256 and 58, so
they undo each other in both directions: no two texts stand for the same bytes
(`decode_eq_some_iff`), and none that is checked for the same payload (`decodeCheck_eq_ok_iff`).
-/

namespace ChainExplorer.Base58

/-! ## Numerals -/

/-- The shortest digits of a number are those of the library, which has them the other way round. -/
theorem radix_eq_digits {base : Nat} (h : 1 < base) (n : Nat) :
    radix base h n = (Nat.digits base n).reverse := by
  induction n using Nat.strongRecOn with
  | ind n ih =>
    rw [radix]
    split
    · rename_i hzero
      rw [hzero, Nat.digits_zero, List.reverse_nil]
    · rename_i hpos
      rw [ih (n / base) (Nat.div_lt_self (by omega) h),
        Nat.digits_def' h (Nat.pos_of_ne_zero hpos), List.reverse_cons]

theorem ofRadix_eq_ofDigits (base : Nat) (ds : List Nat) :
    ofRadix base ds = Nat.ofDigits base ds.reverse := by
  rw [Nat.ofDigits_eq_foldr, List.foldr_reverse, ofRadix]
  congr 1
  funext n d
  exact Nat.add_comm _ _

/-- Zeros in front of a numeral do not count. -/
theorem ofRadix_replicate_append (base count : Nat) (ds : List Nat) :
    ofRadix base (List.replicate count 0 ++ ds) = ofRadix base ds := by
  rw [ofRadix_eq_ofDigits, List.reverse_append, List.reverse_replicate,
    Nat.ofDigits_append_replicate_zero, ← ofRadix_eq_ofDigits]

theorem replicate_leading_append {α : Type} [DecidableEq α] (a : α) (xs : List α) :
    List.replicate (leading (· == a) xs) a ++ xs.dropWhile (· == a) = xs := by
  have hsame : xs.takeWhile (· == a) = List.replicate (leading (· == a) xs) a := by
    refine List.eq_replicate_iff.2 ⟨rfl, fun b hb => ?_⟩
    simpa using List.mem_takeWhile_imp hb
  rw [← hsame]
  exact List.takeWhile_append_dropWhile

/-- The digits of a numeral without its leading zeros are the shortest ones of its number. -/
theorem radix_ofRadix {base : Nat} (h : 1 < base) {ds : List Nat} (hds : ∀ d ∈ ds, d < base) :
    radix base h (ofRadix base ds) = ds.dropWhile (· == 0) := by
  have hsplit := replicate_leading_append 0 ds
  have hvalue : ofRadix base ds = ofRadix base (ds.dropWhile (· == 0)) := by
    conv_lhs => rw [← hsplit, ofRadix_replicate_append]
  have hrest : ∀ d ∈ (ds.dropWhile (· == 0)).reverse, d < base := by
    intro d hd
    exact hds d ((List.dropWhile_sublist _).subset (List.mem_reverse.1 hd))
  rw [hvalue, radix_eq_digits, ofRadix_eq_ofDigits, Nat.digits_ofDigits base h _ hrest,
    List.reverse_reverse]
  intro hne
  rw [List.getLast_reverse]
  simpa using List.head_dropWhile_not (· == 0) (List.reverse_ne_nil_iff.1 hne)

theorem head?_radix_ne_zero {base : Nat} (h : 1 < base) (n : Nat) :
    (radix base h n).head? ≠ some 0 := by
  rw [radix_eq_digits, List.head?_reverse]
  by_cases hn : n = 0
  · simp [hn]
  · have hlast := Nat.getLast_digit_ne_zero base hn
    rw [List.getLast?_eq_some_getLast (Nat.digits_ne_nil_iff_ne_zero.2 hn)]
    exact fun hzero => hlast (Option.some.inj hzero)

/-- A numeral in another base, with as many zeros in front. -/
def rebase (source target : Nat) (h : 1 < target) (ds : List Nat) : List Nat :=
  List.replicate (leading (· == 0) ds) 0 ++ radix target h (ofRadix source ds)

theorem lt_of_mem_rebase {source target : Nat} (h : 1 < target) {ds : List Nat} {d : Nat}
    (hd : d ∈ rebase source target h ds) : d < target := by
  rcases List.mem_append.1 hd with hzero | hdigit
  · rw [List.eq_of_mem_replicate hzero]
    omega
  · exact lt_of_mem_radix target h _ hdigit

theorem leading_replicate_append {α : Type} [DecidableEq α] {a : α} (count : Nat) {xs : List α}
    (h : xs.head? ≠ some a) : leading (· == a) (List.replicate count a ++ xs) = count := by
  have hnone : xs.takeWhile (· == a) = [] := by
    cases xs with
    | nil => rfl
    | cons b bs => exact List.takeWhile_cons_of_neg (by simpa using h)
  rw [leading, List.takeWhile_append_of_pos (by simp), hnone]
  simp

/-- The number of zeros in front is kept. -/
theorem leading_rebase {source target : Nat} (h : 1 < target) (ds : List Nat) :
    leading (· == 0) (rebase source target h ds) = leading (· == 0) ds :=
  leading_replicate_append _ (head?_radix_ne_zero h _)

/-- **To change the base of a numeral and change it back gives the same numeral.** -/
theorem rebase_rebase {source target : Nat} (hs : 1 < source) (ht : 1 < target) {ds : List Nat}
    (hds : ∀ d ∈ ds, d < source) :
    rebase target source hs (rebase source target ht ds) = ds := by
  have hvalue : ofRadix target (rebase source target ht ds) = ofRadix source ds := by
    rw [rebase, ofRadix_replicate_append, ofRadix_radix]
  rw [rebase, leading_rebase, hvalue, radix_ofRadix hs hds]
  exact replicate_leading_append 0 ds

/-! ## Digits -/

theorem digit?_eq_some {c : Char} {d : Nat} (h : digit? c = some d) : d < 58 ∧ digitChar d = c := by
  obtain ⟨hlt, hc, -⟩ := List.findIdx?_eq_some_iff_getElem.1 h
  refine ⟨hlt, ?_⟩
  rw [digitChar, List.getD_eq_getElem _ _ hlt]
  exact eq_of_beq hc

theorem mapM_digit?_map {ds : List Nat} (h : ∀ d ∈ ds, d < 58) :
    (ds.map digitChar).mapM digit? = some ds := by
  induction ds with
  | nil => rfl
  | cons d ds ih =>
    rw [List.forall_mem_cons] at h
    rw [List.map_cons, List.mapM_cons, digit?_digitChar h.1, ih h.2]
    rfl

theorem mapM_digit?_eq_some {cs : List Char} {ds : List Nat} (h : cs.mapM digit? = some ds) :
    (∀ d ∈ ds, d < 58) ∧ ds.map digitChar = cs := by
  induction cs generalizing ds with
  | nil =>
    obtain rfl : [] = ds := Option.some.inj h
    exact ⟨List.forall_mem_nil _, rfl⟩
  | cons c cs ih =>
    rw [List.mapM_cons] at h
    obtain ⟨d, hd, h⟩ := Option.bind_eq_some_iff.1 h
    obtain ⟨rest, hrest, h⟩ := Option.bind_eq_some_iff.1 h
    obtain rfl : d :: rest = ds := Option.some.inj h
    obtain ⟨hlt, hc⟩ := digit?_eq_some hd
    obtain ⟨hall, hcs⟩ := ih hrest
    exact ⟨List.forall_mem_cons.2 ⟨hlt, hall⟩, by rw [List.map_cons, hc, hcs]⟩

/-- The leading ones of a text are the leading zeros of its digits. -/
theorem leading_map_digitChar {ds : List Nat} (h : ∀ d ∈ ds, d < 58) :
    leading (· == '1') (ds.map digitChar) = leading (· == 0) ds := by
  induction ds with
  | nil => rfl
  | cons d ds ih =>
    rw [List.forall_mem_cons] at h
    have hone : (digitChar d == '1') = (d == 0) := by
      have all : ∀ d, d < 58 → (digitChar d == '1') = (d == 0) := by decide
      exact all d h.1
    have hrest := ih h.2
    simp only [leading, List.map_cons, List.takeWhile_cons, hone] at hrest ⊢
    split
    · exact congrArg (· + 1) hrest
    · rfl

theorem leading_map_toNat (bs : List UInt8) :
    leading (· == 0) (bs.map UInt8.toNat) = leading (· == 0) bs := by
  induction bs with
  | nil => rfl
  | cons b bs ih =>
    have hzero : (b.toNat == 0) = (b == 0) := by
      rw [Bool.eq_iff_iff, beq_iff_eq, beq_iff_eq, ← UInt8.toNat_inj]
      rfl
    simp only [leading, List.map_cons, List.takeWhile_cons, hzero] at ih ⊢
    split
    · exact congrArg (· + 1) ih
    · rfl

theorem map_ofNat_map_toNat (bs : List UInt8) : (bs.map UInt8.toNat).map UInt8.ofNat = bs := by
  rw [List.map_map]
  exact (List.map_congr_left fun b _ => UInt8.ofNat_toNat).trans (List.map_id bs)

theorem map_toNat_map_ofNat {ds : List Nat} (h : ∀ d ∈ ds, d < 256) :
    (ds.map UInt8.ofNat).map UInt8.toNat = ds := by
  rw [List.map_map]
  exact (List.map_congr_left fun d hd => UInt8.toNat_ofNat_of_lt (h d hd)).trans (List.map_id ds)

theorem toNat_lt_of_mem {bs : List UInt8} : ∀ d ∈ bs.map UInt8.toNat, d < 256 := by
  intro d hd
  obtain ⟨b, -, rfl⟩ := List.mem_map.1 hd
  exact b.toNat_lt

/-! ## The two directions -/

theorem encode_eq_rebase (bs : List UInt8) :
    encode bs = (rebase 256 58 (by decide) (bs.map UInt8.toNat)).map digitChar := by
  rw [encode, rebase, List.map_append, List.map_replicate, leading_map_toNat]
  rfl

theorem decode_eq_rebase (cs : List Char) :
    decode cs = (cs.mapM digit?).map fun ds => (rebase 58 256 (by decide) ds).map UInt8.ofNat := by
  rw [decode]
  cases hds : cs.mapM digit? with
  | none => rfl
  | some ds =>
    obtain ⟨hlt, rfl⟩ := mapM_digit?_eq_some hds
    rw [Option.map_some, Option.map_some, rebase, List.map_append, List.map_replicate,
      leading_map_digitChar hlt]
    rfl

theorem decode_encode (bs : List UInt8) : decode (encode bs) = some bs := by
  have hdigits : ∀ d ∈ rebase 256 58 (by decide) (bs.map UInt8.toNat), d < 58 :=
    fun d hd => lt_of_mem_rebase _ hd
  rw [decode_eq_rebase, encode_eq_rebase, mapM_digit?_map hdigits, Option.map_some,
    rebase_rebase _ _ toNat_lt_of_mem, map_ofNat_map_toNat]

theorem encode_of_decode {cs : List Char} {bs : List UInt8} (h : decode cs = some bs) :
    encode bs = cs := by
  rw [decode_eq_rebase] at h
  obtain ⟨ds, hds, rfl⟩ := Option.map_eq_some_iff.1 h
  obtain ⟨hlt, rfl⟩ := mapM_digit?_eq_some hds
  rw [encode_eq_rebase, map_toNat_map_ofNat fun d hd => lt_of_mem_rebase _ hd, rebase_rebase _ _ hlt]

/-- **A byte string has one Base58 text.** -/
theorem decode_eq_some_iff {cs : List Char} {bs : List UInt8} :
    decode cs = some bs ↔ encode bs = cs :=
  ⟨encode_of_decode, fun h => h ▸ decode_encode bs⟩

theorem length_checksum (payload : List UInt8) : (checksum payload).length = 4 := by
  rw [checksum, List.length_take, Sha256.hashTwice, Sha256.length_hash]
  rfl

/-- **A payload has one checked text.** -/
theorem decodeCheck_eq_ok_iff {cs : List Char} {payload : List UInt8} :
    decodeCheck cs = .ok payload ↔ encodeCheck payload = cs := by
  constructor
  · intro h
    rw [decodeCheck] at h
    split at h
    · cases h
    · rename_i bs hbs
      split at h
      · cases h
      · dsimp only at h
        split at h
        · rename_i hsum
          obtain rfl := Except.ok.inj h
          rw [encodeCheck, ← hsum, List.take_append_drop]
          exact decode_eq_some_iff.1 hbs
        · cases h
  · rintro rfl
    have hlength := length_checksum payload
    have hall : (payload ++ checksum payload).length - 4 = payload.length := by
      rw [List.length_append, hlength, Nat.add_sub_cancel]
    have hlong : ¬ (payload ++ checksum payload).length < 4 := by
      rw [List.length_append, hlength]
      omega
    rw [decodeCheck, encodeCheck, decode_eq_some_iff.2 rfl]
    simp only [hall, if_neg hlong, List.take_left, List.drop_left, if_true]

end ChainExplorer.Base58
