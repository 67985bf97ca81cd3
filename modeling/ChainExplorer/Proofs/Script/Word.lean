import ChainExplorer.Proofs.Bytes.Hex
import ChainExplorer.Script.Tape
import ChainExplorer.Script.Word

/-!
# Words are read by position

A reader of words never computes a number that might be too large: it takes the zeros in front off,
counts what is left and reads only as many digits as fit. This comes to the same as computing the
number and comparing it, since a numeral without zeros in front is past the largest word exactly if
it has more digits (`word_eq`). A little-endian numeral is turned around on the text before it is
read, which makes the weights of its bytes rise instead of fall (`reversedWord_eq`).
-/

namespace ChainExplorer.Script

/-! ## The bytes of a word -/

/-- The bytes of a word have its number. -/
theorem bytesValue_wordBytes (w : UInt64) :
    Hex.bytesValue (PoolTape.wordBytes w) = w.toNat := by
  have hbound : w.toNat < 256 ^ 8 := w.toNat_lt
  rw [← Hex.littleEndian_of_decode (Hex.decode_encode _)]
  exact (Hex.littleEndian_encode_range 8 w.toNat).trans (Nat.mod_eq_of_lt hbound)

/-! ## Reading a word -/

/-- Digits are read into a word as long as it has room for all of them. -/
theorem foldlM_pushDigit? {cs : List Char} (hcs : ∀ c ∈ cs, Hex.Digit c) {w : UInt64}
    (hroom : w.toNat * 16 ^ cs.length + Hex.value cs < wordBound) :
    cs.foldlM pushDigit? w
      = some (UInt64.ofNat (w.toNat * 16 ^ cs.length + Hex.value cs)) := by
  induction cs generalizing w with
  | nil =>
    rw [List.length_nil, Nat.pow_zero, Nat.mul_one, Hex.value, List.foldl_nil, Nat.add_zero,
      UInt64.ofNat_toNat]
    rfl
  | cons c cs ih =>
    -- There is room for this digit, since there is room for it and all that follow.
    obtain ⟨hc, hrest⟩ := List.forall_mem_cons.1 hcs
    obtain ⟨d, hd⟩ := Option.isSome_iff_exists.1 (Hex.isDigit_iff.2 hc)
    have hweight : Hex.weight c = d := by rw [Hex.weight, hd, Option.getD_some]
    have hsum : w.toNat * 16 ^ (c :: cs).length + Hex.value (c :: cs)
        = (16 * w.toNat + d) * 16 ^ cs.length + Hex.value cs := by
      rw [Hex.value_cons, hweight, List.length_cons, Nat.pow_succ]
      ring
    rw [hsum] at hroom ⊢
    have hnext : 16 * w.toNat + d < wordBound := by
      have hpow := Nat.le_mul_of_pos_right (16 * w.toNat + d) (Nat.pow_pos (n := cs.length)
        (show 0 < 16 by decide))
      omega
    have hpush : pushDigit? w c = some (UInt64.ofNat (16 * w.toNat + d)) := by
      rw [pushDigit?, hd, Option.bind_some, if_pos hnext]
    have hword : (UInt64.ofNat (16 * w.toNat + d)).toNat = 16 * w.toNat + d :=
      UInt64.toNat_ofNat_of_lt' hnext
    rw [List.foldlM_cons, hpush, Option.bind_eq_bind, Option.bind_some, ih hrest (hword.symm ▸ hroom),
      hword]

theorem readWord?_eq {cs : List Char} (hne : cs ≠ []) (hcs : ∀ c ∈ cs, Hex.Digit c)
    (hroom : Hex.value cs < wordBound) : readWord? cs = some (UInt64.ofNat (Hex.value cs)) := by
  have hread := foldlM_pushDigit? hcs (w := 0) (by simpa using hroom)
  rw [readWord?.eq_2 cs hne, hread]
  simp

/-- **Counting the digits that matter is comparing the number.** -/
theorem wordWidth_lt_iff {cs : List Char} (hcs : ∀ c ∈ cs, Hex.Digit c) :
    wordWidth < (cs.dropWhile (· = '0')).length ↔ wordBound ≤ Hex.value cs := by
  rw [← Hex.value_dropWhile cs]
  have hdigits : ∀ c ∈ cs.dropWhile (· = '0'), Hex.Digit c :=
    fun c hc => hcs c ((List.dropWhile_sublist _).subset hc)
  have hbound : wordBound = 16 ^ wordWidth := rfl
  have hfront := List.head?_dropWhile_not (p := fun c : Char => decide (c = '0')) (l := cs)
  rw [hbound]
  generalize cs.dropWhile (· = '0') = significant at hdigits hfront ⊢
  constructor
  · intro hlong
    cases significant with
    | nil => exact absurd hlong (Nat.not_lt_zero _)
    | cons c rest =>
      have hc : c ≠ '0' := by simpa using hfront
      exact Nat.le_trans (Nat.pow_le_pow_right (by decide) (Nat.le_of_lt_succ hlong))
        (Hex.le_value (hdigits c List.mem_cons_self) hc)
  · intro hlarge
    by_contra hshort
    have hlt := Nat.lt_of_lt_of_le (Hex.value_lt significant)
      (Nat.pow_le_pow_right (by decide) (Nat.not_lt.1 hshort))
    omega

/-- **A numeral is read as its number**, and is out of range exactly if that is no word. -/
theorem word_eq (text : String) : word text =
    if text.toList ≠ [] ∧ Hex.isHex text.toList = true then
      if Hex.value text.toList < wordBound then .ok (UInt64.ofNat (Hex.value text.toList))
      else .error (.overflow text)
    else .error (.invalidHex text) := by
  rw [word]
  by_cases hnumeral : text.toList ≠ [] ∧ Hex.isHex text.toList = true
  · have hdigits := Hex.isHex_iff.1 hnumeral.2
    have hread : ¬ (text.toList.isEmpty || !Hex.isHex text.toList) = true := by
      simp [hnumeral.1, hnumeral.2]
    rw [if_neg hread, if_pos hnumeral]
    by_cases hlarge : wordBound ≤ Hex.value text.toList
    · rw [if_pos ((wordWidth_lt_iff hdigits).2 hlarge), if_neg (Nat.not_lt.2 hlarge)]
    · -- What is left after the zeros has the same number, so all of it is read.
      rw [if_neg (mt (wordWidth_lt_iff hdigits).1 hlarge), if_pos (Nat.not_le.1 hlarge)]
      rw [← Hex.value_dropWhile] at hlarge ⊢
      have hkept : ∀ c ∈ text.toList.dropWhile (· = '0'), Hex.Digit c :=
        fun c hc => hdigits c ((List.dropWhile_sublist _).subset hc)
      cases hfront : text.toList.dropWhile (· = '0') with
      | nil => rfl
      | cons c rest =>
        rw [hfront] at hkept hlarge
        rw [readWord?_eq (List.cons_ne_nil c rest) hkept (Nat.not_le.1 hlarge)]
        rfl
  · rw [if_neg hnumeral]
    exact if_pos (by simpa [or_iff_not_imp_left] using hnumeral)

theorem word_eq_ok {text : String} {w : UInt64} : word text = .ok w ↔
    text.toList ≠ [] ∧ (∀ c ∈ text.toList, Hex.Digit c) ∧ Hex.value text.toList = w.toNat := by
  rw [word_eq, ← Hex.isHex_iff]
  constructor
  · intro h
    split at h
    · rename_i hnumeral
      split at h
      · rename_i hbound
        obtain rfl := Except.ok.inj h
        exact ⟨hnumeral.1, hnumeral.2, (UInt64.toNat_ofNat_of_lt' hbound).symm⟩
      · cases h
    · cases h
  · rintro ⟨hne, hhex, hvalue⟩
    have hbound : Hex.value text.toList < wordBound := hvalue ▸ w.toNat_lt
    rw [if_pos ⟨hne, hhex⟩, if_pos hbound, hvalue, UInt64.ofNat_toNat]

/-! ## Little-endian numerals -/

/-- A text of whole bytes that are no more than ASCII is turned around before it is read. -/
theorem reversedWord_eq (text : String) : reversedWord text =
    if 0 < text.toList.length ∧ text.toList.length % 2 = 0 ∧ text.toList.all (·.toNat < 128) then
      word (String.ofList (Hex.reversePairs text.toList))
    else .error (.invalidHex text) := by
  rw [reversedWord, reverseBytes?, Hex.reverseRange?, List.drop_zero, Nat.sub_zero,
    List.take_length]
  by_cases hwhole : 0 < text.toList.length ∧ text.toList.length % 2 = 0 ∧
      text.toList.all (·.toNat < 128)
  · rw [if_pos hwhole, if_pos ⟨hwhole.1, Nat.le_refl _, hwhole.2⟩]
    rfl
  · rw [if_neg hwhole, if_neg fun h => hwhole ⟨h.1, h.2.2⟩]
    rfl

theorem all_ascii_of_isHex {cs : List Char} (h : Hex.isHex cs = true) :
    cs.all (·.toNat < 128) = true :=
  List.all_eq_true.2 fun c hc =>
    decide_eq_true (Nat.lt_trans (Hex.isHex_iff.1 h c hc).toNat_lt (by decide))

theorem reversePairs_eq_nil {cs : List Char} (h : cs.length % 2 = 0) :
    Hex.reversePairs cs = [] ↔ cs = [] :=
  ⟨fun hnil => ((Hex.perm_reverseOnto [] h).symm.trans (List.Perm.of_eq hnil)).eq_nil,
    fun hnil => by rw [hnil]; rfl⟩

theorem isHex_reversePairs {cs : List Char} (h : cs.length % 2 = 0) :
    Hex.isHex (Hex.reversePairs cs) = Hex.isHex cs :=
  (Hex.perm_reverseOnto [] h).all_eq

/-- **A text that spells bytes is read as the number that these have from the lowest on.** -/
theorem reversedWord_of_decode {text : String} {bs : List UInt8} (hne : bs ≠ [])
    (h : Hex.decode text.toList = some bs) : reversedWord text =
      if Hex.bytesValue bs < wordBound then .ok (UInt64.ofNat (Hex.bytesValue bs))
      else .error (.overflow (String.ofList (Hex.reversePairs text.toList))) := by
  have hhex : Hex.isHex text.toList = true := Hex.isHex_iff.2 (Hex.digit_of_decode h)
  have heven : text.toList.length % 2 = 0 := by
    rw [Hex.length_of_decode h]
    exact Nat.mul_mod_right 2 _
  have hnil : text.toList ≠ [] := by
    intro hnil
    rw [hnil] at h
    exact hne (Option.some.inj h).symm
  rw [reversedWord_eq,
    if_pos ⟨List.length_pos_iff.2 hnil, heven, all_ascii_of_isHex hhex⟩, word_eq,
    String.toList_ofList, isHex_reversePairs heven,
    if_pos ⟨mt (reversePairs_eq_nil heven).1 hnil, hhex⟩, Hex.value_reversePairs,
    Hex.littleEndian_of_decode h]

/-! ## When a text is no numeral -/

/-- Nothing is written, or something that is no digit. -/
def Garbled (text : String) : Prop := text = "" ∨ ∃ c ∈ text.toList, ¬ Hex.Digit c

theorem not_garbled {text : String} :
    ¬ Garbled text ↔ text.toList ≠ [] ∧ Hex.isHex text.toList = true := by
  rw [Garbled, not_or, Hex.isHex_iff, ← String.toList_eq_nil_iff]
  simp

theorem word_of_garbled {text : String} (h : Garbled text) :
    word text = .error (.invalidHex text) := by
  rw [word_eq, if_neg fun hread => not_garbled.2 hread h]

theorem word_of_not_garbled {text : String} (h : ¬ Garbled text) : word text =
    if Hex.numeralValue text.toList < wordBound then
      .ok (UInt64.ofNat (Hex.numeralValue text.toList))
    else .error (.overflow text) := by
  rw [word_eq, if_pos (not_garbled.1 h), Hex.numeralValue_eq]

theorem word_eq_invalidHex {text t : String} :
    word text = .error (.invalidHex t) ↔ t = text ∧ Garbled text := by
  by_cases h : Garbled text
  · rw [word_of_garbled h]
    simp [h, eq_comm]
  · rw [word_of_not_garbled h]
    refine iff_of_false ?_ fun hand => h hand.2
    split <;> simp

theorem word_eq_overflow {text t : String} : word text = .error (.overflow t) ↔
    t = text ∧ ¬ Garbled text ∧ wordBound ≤ Hex.numeralValue text.toList := by
  by_cases h : Garbled text
  · rw [word_of_garbled h]
    simp [h]
  · rw [word_of_not_garbled h]
    split
    · rename_i hsmall
      simp [hsmall]
    · rename_i hlarge
      simp [h, Nat.not_lt.1 hlarge, eq_comm]

/-- Zeros in front of a numeral make no difference to the word that it denotes. -/
theorem word_zeros {text : String} (h : ¬ Garbled text) (zeros : Nat) {w : UInt64} :
    word (String.ofList (List.replicate zeros '0' ++ text.toList)) = .ok w ↔
      word text = .ok w := by
  obtain ⟨hnil, hhex⟩ := not_garbled.1 h
  have hdigits := Hex.isHex_iff.1 hhex
  rw [word_eq_ok, word_eq_ok, String.toList_ofList, Hex.value_zeros]
  refine and_congr (iff_of_true ?_ hnil) (and_congr_left' (iff_of_true ?_ hdigits))
  · exact List.append_ne_nil_of_right_ne_nil _ hnil
  · refine List.forall_mem_append.2 ⟨fun c hc => ?_, hdigits⟩
    rw [List.eq_of_mem_replicate hc]
    exact Hex.isDigit_iff.1 rfl

theorem exists_bytes {text : String} (h : ¬ (Garbled text ∨ text.toList.length % 2 = 1)) :
    ∃ bs, Hex.decode text.toList = some bs ∧ bs ≠ [] := by
  obtain ⟨hread, heven⟩ := not_or.1 h
  obtain ⟨hnil, hhex⟩ := not_garbled.1 hread
  have hwhole : text.toList.length = 2 * (text.toList.length / 2) := by omega
  obtain ⟨bs, hbs, hcount⟩ := Hex.exists_decode hwhole (Hex.isHex_iff.1 hhex)
  refine ⟨bs, hbs, ?_⟩
  rintro rfl
  have hpos := List.length_pos_iff.2 hnil
  rw [List.length_nil] at hcount
  omega

theorem reversedWord_eq_invalidHex {text : String} :
    (∃ t, reversedWord text = .error (.invalidHex t)) ↔
      Garbled text ∨ text.toList.length % 2 = 1 := by
  constructor
  · rintro ⟨t, ht⟩
    by_contra hfine
    obtain ⟨bs, hbs, hne⟩ := exists_bytes hfine
    rw [reversedWord_of_decode hne hbs] at ht
    split at ht <;> cases ht
  · intro hbad
    rw [reversedWord_eq]
    split
    · rename_i hwhole
      have hgarbled : Garbled text := hbad.resolve_right (by omega)
      rw [word_eq, String.toList_ofList, isHex_reversePairs hwhole.2.1, if_neg]
      · exact ⟨_, rfl⟩
      · rintro ⟨-, hhex⟩
        exact not_garbled.2 ⟨List.length_pos_iff.1 hwhole.1, hhex⟩ hgarbled
    · exact ⟨_, rfl⟩

/-- **Numerals have their positional value in both byte orders.** Zeros in front of a big-endian one
make no difference, nor do zero bytes behind a little-endian one, and what has no value or no word
for it is refused for that reason alone. -/
theorem words_positional (text : String) :
    (∀ t, word text = .error (.invalidHex t) ↔ t = text ∧ Garbled text) ∧
    (∀ t, word text = .error (.overflow t) ↔
      t = text ∧ ¬ Garbled text ∧ wordBound ≤ Hex.numeralValue text.toList) ∧
    (∀ w, word text = .ok w ↔ ¬ Garbled text ∧ w.toNat = Hex.numeralValue text.toList) ∧
    (¬ Garbled text → ∀ zeros w,
      (word (String.ofList (List.replicate zeros '0' ++ text.toList)) = .ok w ↔
        word text = .ok w)) ∧
    ((∃ t, reversedWord text = .error (.invalidHex t)) ↔
      Garbled text ∨ text.toList.length % 2 = 1) ∧
    (¬ (Garbled text ∨ text.toList.length % 2 = 1) →
      ∃ bs, Hex.decode text.toList = some bs ∧ reversedWord text =
        if Hex.bytesValue bs < wordBound then .ok (UInt64.ofNat (Hex.bytesValue bs))
        else .error (.overflow (String.ofList (Hex.reversePairs text.toList)))) ∧
    ∀ (w : UInt64) (zeros : Nat),
      reversedWord (String.ofList (Hex.encode (PoolTape.wordBytes w ++ List.replicate zeros 0)))
        = .ok w := by
  refine ⟨fun t => word_eq_invalidHex, fun t => word_eq_overflow, fun w => ?_,
    fun h zeros w => word_zeros h zeros, reversedWord_eq_invalidHex, fun h => ?_,
    fun w zeros => ?_⟩
  · rw [word_eq_ok, not_garbled, Hex.isHex_iff, Hex.numeralValue_eq, and_assoc, eq_comm]
  · obtain ⟨bs, hbs, hne⟩ := exists_bytes h
    exact ⟨bs, hbs, reversedWord_of_decode hne hbs⟩
  · have hdecode : Hex.decode (String.ofList (Hex.encode
        (PoolTape.wordBytes w ++ List.replicate zeros 0))).toList
          = some (PoolTape.wordBytes w ++ List.replicate zeros 0) := by
      rw [String.toList_ofList, Hex.decode_encode]
    have hbytes : PoolTape.wordBytes w ++ List.replicate zeros 0 ≠ [] := by
      simp [PoolTape.wordBytes]
    have hbound : w.toNat < wordBound := w.toNat_lt
    rw [reversedWord_of_decode hbytes hdecode, Hex.bytesValue_zeros, bytesValue_wordBytes,
      if_pos hbound, UInt64.ofNat_toNat]

/-- The largest word, also behind zeros and turned around, and the first number that is too large. -/
theorem words_positional_brimming :
    ¬ Garbled "ffffffffffffffff" ∧
    word "ffffffffffffffff" = .ok 18446744073709551615 ∧
    word (String.ofList (List.replicate 3 '0' ++ "ffffffffffffffff".toList))
      = .ok 18446744073709551615 ∧
    (∃ bs, Hex.decode "ffffffffffffffff".toList = some bs ∧ reversedWord "ffffffffffffffff" =
      if Hex.bytesValue bs < wordBound then .ok (UInt64.ofNat (Hex.bytesValue bs))
      else .error (.overflow (String.ofList (Hex.reversePairs "ffffffffffffffff".toList)))) ∧
    word "10000000000000000" = .error (.overflow "10000000000000000") ∧
    reversedWord (String.ofList (Hex.encode (PoolTape.wordBytes 258 ++ List.replicate 1 0)))
      = .ok 258 := by
  have hmost : ¬ Garbled "ffffffffffffffff" := not_garbled.2 (by decide)
  have hmore : ¬ Garbled "10000000000000000" := not_garbled.2 (by decide)
  have heven : ¬ (Garbled "ffffffffffffffff" ∨ "ffffffffffffffff".toList.length % 2 = 1) :=
    not_or.2 ⟨hmost, by decide⟩
  obtain ⟨-, -, hok, hzeros, -, hreversed, hbytes⟩ := words_positional "ffffffffffffffff"
  obtain ⟨-, hoverflow, -⟩ := words_positional "10000000000000000"
  have hword := (hok 18446744073709551615).2 ⟨hmost, by decide +kernel⟩
  exact ⟨hmost, hword, (hzeros hmost 3 _).2 hword, hreversed heven,
    (hoverflow _).2 ⟨rfl, hmore, by decide +kernel⟩, hbytes 258 1⟩

end ChainExplorer.Script
