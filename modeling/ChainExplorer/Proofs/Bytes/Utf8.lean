import ChainExplorer.Bytes.Utf8

/-!
# Bytes of a text

The bytes of a text are those of its characters one after the other, and they determine it. A
character beyond ASCII takes bytes beyond ASCII only, so an ASCII byte among the bytes of a text is
a character of the text. That is why whoever cuts a stream at a byte never cuts a character in two.
-/

namespace ChainExplorer.Utf8

theorem encode_eq (cs : List Char) : encode cs = cs.flatMap String.utf8EncodeChar := by
  rw [encode, String.toUTF8_eq_toByteArray, String.toByteArray_ofList, List.utf8Encode,
    List.data_toByteArray, List.toList_toArray]

@[simp] theorem encode_append (cs ds : List Char) : encode (cs ++ ds) = encode cs ++ encode ds := by
  rw [encode_eq, encode_eq, encode_eq, List.flatMap_append]

/-- **The bytes of a text are read as that text.** -/
theorem decode?_encode (cs : List Char) : decode? (encode cs) = some cs := by
  have hbytes : ByteArray.mk (encode cs).toArray = (String.ofList cs).toByteArray := by
    rw [encode, Array.toArray_toList, String.toUTF8_eq_toByteArray]
  rw [decode?, hbytes, String.fromUTF8?, dif_pos (String.ofList cs).isValidUTF8, Option.map_some]
  exact congrArg some String.toList_ofList

/-! ## ASCII bytes -/

/-- Every byte of a longer form has its highest bit set. -/
theorem le_of_mem_encodeChar {c : Char} (hc : 128 ≤ c.toNat) {b : UInt8}
    (hb : b ∈ String.utf8EncodeChar c) : 128 ≤ b.toNat := by
  have hval : c.toNat = c.val.toNat := rfl
  have high {m : Nat} (hm : 128 ≤ m) (hm' : m < 256) : 128 ≤ (UInt8.ofNat m).toNat := by
    rwa [UInt8.toNat_ofNat', Nat.mod_eq_of_lt hm']
  simp only [String.utf8EncodeChar] at hb
  split at hb
  · omega
  · split at hb
    · simp only [List.mem_cons, List.not_mem_nil, or_false] at hb
      rcases hb with rfl | rfl <;> exact high (by omega) (by omega)
    · split at hb
      · simp only [List.mem_cons, List.not_mem_nil, or_false] at hb
        rcases hb with rfl | rfl | rfl <;> exact high (by omega) (by omega)
      · simp only [List.mem_cons, List.not_mem_nil, or_false] at hb
        rcases hb with rfl | rfl | rfl | rfl <;> exact high (by omega) (by omega)

theorem encodeChar_of_ascii {c : Char} (hc : c.toNat < 128) :
    String.utf8EncodeChar c = [UInt8.ofNat c.toNat] := by
  have hval : c.val.toNat ≤ 127 := Nat.le_of_lt_succ hc
  simp only [String.utf8EncodeChar]
  rw [if_pos hval]
  rfl

/-- An ASCII byte among the bytes of a text is a character of the text. -/
theorem ofNat_mem_encode {c : Char} (hc : c.toNat < 128) {cs : List Char} :
    UInt8.ofNat c.toNat ∈ encode cs ↔ c ∈ cs := by
  rw [encode_eq, List.mem_flatMap]
  constructor
  · rintro ⟨d, hd, hmem⟩
    have hbyte : (UInt8.ofNat c.toNat).toNat = c.toNat := by
      rw [UInt8.toNat_ofNat', Nat.mod_eq_of_lt (by omega)]
    by_cases hascii : d.toNat < 128
    · rw [encodeChar_of_ascii hascii, List.mem_singleton] at hmem
      have hsame := congrArg UInt8.toNat hmem
      rw [hbyte, UInt8.toNat_ofNat', Nat.mod_eq_of_lt (by omega)] at hsame
      rwa [Char.toNat_inj.1 hsame]
    · have := le_of_mem_encodeChar (Nat.le_of_not_lt hascii) hmem
      omega
  · intro h
    exact ⟨c, h, encodeChar_of_ascii hc ▸ List.mem_singleton_self _⟩

/-! ## Texts within ASCII -/

/-- A text that has one byte for each character. -/
def Ascii (cs : List Char) : Prop := ∀ c ∈ cs, c.toNat < 128

theorem encode_cons (c : Char) (cs : List Char) :
    encode (c :: cs) = String.utf8EncodeChar c ++ encode cs := by
  rw [encode_eq, encode_eq, List.flatMap_cons]

theorem length_encode (s : String) : (encode s.toList).length = s.utf8ByteSize := by
  show (String.ofList s.toList).utf8ByteSize = s.utf8ByteSize
  rw [String.ofList_toList]

theorem encode_of_ascii {cs : List Char} (h : Ascii cs) :
    encode cs = cs.map fun c => UInt8.ofNat c.toNat := by
  induction cs with
  | nil => rfl
  | cons c cs ih =>
    obtain ⟨hc, hcs⟩ := List.forall_mem_cons.1 h
    rw [encode_cons, encodeChar_of_ascii hc, ih hcs]
    rfl

theorem utf8ByteSize_of_ascii {s : String} (h : Ascii s.toList) :
    s.utf8ByteSize = s.toList.length := by
  rw [← length_encode, encode_of_ascii h, List.length_map]

theorem ofUInt8_of_ascii {c : Char} (hc : c.toNat < 128) :
    Char.ofUInt8 (UInt8.ofNat c.toNat) = c := by
  apply Char.toNat_inj.1
  show (UInt8.ofNat c.toNat).toNat = c.toNat
  rw [UInt8.toNat_ofNat', Nat.mod_eq_of_lt (by omega)]

/-- The bytes of a text within ASCII are its characters. -/
theorem map_ofUInt8_encode {cs : List Char} (h : Ascii cs) :
    (encode cs).map Char.ofUInt8 = cs := by
  rw [encode_of_ascii h, List.map_map]
  exact (List.map_congr_left fun c hc => ofUInt8_of_ascii (h c hc)).trans (List.map_id cs)

theorem exists_le_of_not_ascii {c : Char} (hc : ¬ c.toNat < 128) :
    ∃ b rest, String.utf8EncodeChar c = b :: rest ∧ 128 ≤ b.toNat := by
  cases h : String.utf8EncodeChar c with
  | nil =>
    have hsize := String.length_utf8EncodeChar c
    rw [h] at hsize
    exact absurd hsize (Nat.ne_of_lt c.utf8Size_pos)
  | cons b rest =>
    exact ⟨b, rest, rfl, le_of_mem_encodeChar (Nat.le_of_not_lt hc) (h ▸ List.mem_cons_self)⟩

theorem ascii_iff {cs : List Char} : Ascii cs ↔ ∀ b ∈ encode cs, b.toNat < 128 := by
  constructor
  · intro h b hb
    rw [encode_of_ascii h] at hb
    obtain ⟨c, hc, rfl⟩ := List.mem_map.1 hb
    have hlt := h c hc
    rwa [UInt8.toNat_ofNat', Nat.mod_eq_of_lt (by omega)]
  · intro h c hc
    by_cases hsmall : c.toNat < 128
    · exact hsmall
    · obtain ⟨b, rest, hbytes, hb⟩ := exists_le_of_not_ascii hsmall
      have hmem : b ∈ encode cs := by
        rw [encode_eq, List.mem_flatMap]
        exact ⟨c, hc, hbytes ▸ List.mem_cons_self⟩
      exact absurd (h b hmem) (Nat.not_lt.2 hb)

end ChainExplorer.Utf8
