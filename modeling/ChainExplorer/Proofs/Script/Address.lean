import ChainExplorer.Proofs.Bytes.Base58
import ChainExplorer.Proofs.Bytes.Hex
import ChainExplorer.Script.Address

/-!
# One holder, one address

A public-key hash, its address and its combined script name the same holder, and each of the three
can be had from each of the others. The only freedom is the case of the letters in a hash, which an
address forgets: what comes back from an address is in lower case. Going the other way nothing is
lost, since an address is accepted only in the one spelling that it would be given
(`names_of_a_holder_biject`). Holders are told apart by the text of their address, so a second
spelling would be another holder.
-/

namespace ChainExplorer.Address

/-! ## Letters -/

theorem lower_eq_toLower {c : Char} (h : Hex.Digit c) : Hex.lower c = c.toLower :=
  h.of_forall (p := fun c => Hex.lower c = c.toLower) (by decide)

theorem toList_toLower (text : String) : text.toLower.toList = text.toList.map Char.toLower :=
  String.toList_map

theorem ofList_map_lower {width : Nat} {text : String} (h : Hex.Numeral width text) :
    String.ofList (text.toList.map Hex.lower) = text.toLower := by
  rw [← String.toList_inj, String.toList_ofList, toList_toLower]
  exact List.map_congr_left fun c hc => lower_eq_toLower (h.2 c hc)

theorem isHash_iff {text : String} : Script.isHash text = true ↔ Hex.Numeral 40 text :=
  Hex.isHexOfLength_iff

theorem isCombined_iff {text : String} : Script.isCombined text = true ↔ Hex.Numeral 42 text :=
  Hex.isHexOfLength_iff

/-! ## Hashes and addresses -/

/-- Twenty bytes and the address that is made of them. -/
def Names (address : String) (hash : List UInt8) : Prop :=
  hash.length = 20 ∧ Base58.encodeCheck (version :: hash) = address.toList

theorem Names.unique {one other : String} {hash : List UInt8} (h : Names one hash)
    (h' : Names other hash) : one = other :=
  String.toList_inj.1 (h.2.symm.trans h'.2)

theorem ofHash_eq_ok {pkh : String} (h : Hex.Numeral 40 pkh) : ∃ address hash,
    ofHash pkh = .ok address ∧ Names address hash ∧ Hex.decode pkh.toList = some hash := by
  obtain ⟨hash, hdecode, hlength⟩ := Hex.exists_decode (n := 20) h.1 h.2
  refine ⟨_, hash, ?_, ⟨hlength, String.toList_ofList.symm⟩, hdecode⟩
  rw [ofHash, if_pos (isHash_iff.2 h), hdecode]

theorem payloadHash_eq_ok {payload hash : List UInt8} :
    payloadHash payload = .ok hash ↔ payload = version :: hash ∧ hash.length = 20 := by
  constructor
  · intro h
    cases payload with
    | nil => cases h
    | cons byte rest =>
      rw [payloadHash] at h
      split at h
      · cases h
      · rename_i hbyte
        split at h
        · rename_i hlength
          obtain rfl := Except.ok.inj h
          exact ⟨by rw [not_not.1 hbyte], hlength⟩
        · cases h
  · rintro ⟨rfl, hlength⟩
    rw [payloadHash, if_neg (not_not_intro rfl)]
    exact if_pos hlength

/-- **An address is accepted exactly if it is the one that its hash is given.** -/
theorem toHash_eq_ok {address pkh : String} : toHash address = .ok pkh ↔
    ∃ hash, Names address hash ∧ pkh = String.ofList (Hex.encode hash) := by
  constructor
  · intro h
    rw [toHash] at h
    split at h
    · cases h
    · rename_i payload hpayload
      split at h
      · cases h
      · rename_i hash hhash
        obtain ⟨rfl, hlength⟩ := payloadHash_eq_ok.1 hhash
        exact ⟨hash, ⟨hlength, Base58.decodeCheck_eq_ok_iff.1 hpayload⟩, (Except.ok.inj h).symm⟩
  · rintro ⟨hash, ⟨hlength, haddress⟩, rfl⟩
    rw [toHash, Base58.decodeCheck_eq_ok_iff.2 haddress]
    simp only [payloadHash_eq_ok.2 ⟨rfl, hlength⟩]

/-- The address of a hash leads back to the hash, in lower case. -/
theorem toHash_ofHash {pkh : String} (h : Hex.Numeral 40 pkh) :
    ∃ address, ofHash pkh = .ok address ∧ toHash address = .ok pkh.toLower := by
  obtain ⟨address, hash, hof, hnames, hdecode⟩ := ofHash_eq_ok h
  refine ⟨address, hof, toHash_eq_ok.2 ⟨hash, hnames, ?_⟩⟩
  rw [Hex.encode_of_decode hdecode, ofList_map_lower h]

/-- The hash of an address leads back to the address. -/
theorem ofHash_of_toHash {address pkh : String} (h : toHash address = .ok pkh) :
    Hex.Numeral 40 pkh ∧ ofHash pkh = .ok address := by
  obtain ⟨hash, hnames, rfl⟩ := toHash_eq_ok.1 h
  have hhex := Hex.numeral_encode hash
  rw [hnames.1] at hhex
  obtain ⟨other, bytes, hof, hother, hdecode⟩ := ofHash_eq_ok hhex
  rw [String.toList_ofList, Hex.decode_encode] at hdecode
  obtain rfl := Option.some.inj hdecode
  exact ⟨hhex, hnames.unique hother ▸ hof⟩

/-! ## Combined scripts -/

/-- A combined script of an ordinary holder is a hash and the suffix. -/
theorem ofCombined_append {pkh : String} (h : Hex.Numeral 40 pkh) :
    Hex.Numeral 42 (pkh ++ holderSuffix) ∧ ofCombined (pkh ++ holderSuffix) = ofHash pkh := by
  have hsuffix : Hex.Numeral 2 holderSuffix := Hex.isHexOfLength_iff.1 (by decide)
  have hcombined : Hex.Numeral 42 (pkh ++ holderSuffix) := h.append hsuffix
  have htake : (pkh.toList ++ holderSuffix.toList).take Script.hashWidth = pkh.toList :=
    List.take_left' h.1
  have hdrop : (pkh.toList ++ holderSuffix.toList).drop Script.hashWidth = holderSuffix.toList :=
    List.drop_left' h.1
  refine ⟨hcombined, ?_⟩
  rw [ofCombined, if_pos (isCombined_iff.2 hcombined)]
  simp only [splitCombined, String.toList_append, htake, hdrop, String.ofList_toList, if_true]

theorem toCombined_eq_ok {address combined : String} : toCombined address = .ok combined ↔
    ∃ pkh, toHash address = .ok pkh ∧ combined = pkh ++ holderSuffix := by
  rw [toCombined]
  cases toHash address with
  | error error => simp [Except.map]
  | ok pkh => simp [Except.map, eq_comm]

theorem exists_hash_of_suffix {combined : String} (h : Hex.Numeral 42 combined)
    (hs : holderSuffix.toList <:+ combined.toList) :
    ∃ pkh, Hex.Numeral 40 pkh ∧ combined = pkh ++ holderSuffix := by
  obtain ⟨digits, hdigits⟩ := hs
  have hlength := h.1
  have hall := h.2
  rw [← hdigits] at hlength hall
  refine ⟨String.ofList digits, ⟨?_, ?_⟩, ?_⟩
  · rw [String.toList_ofList]
    exact Nat.add_right_cancel ((List.length_append).symm.trans hlength)
  · rw [String.toList_ofList]
    exact (List.forall_mem_append.1 hall).1
  · rw [← String.toList_inj, String.toList_append, String.toList_ofList, hdigits]

theorem toLower_append_suffix (pkh : String) :
    (pkh ++ holderSuffix).toLower = pkh.toLower ++ holderSuffix := by
  rw [← String.toList_inj, toList_toLower, String.toList_append, String.toList_append,
    toList_toLower, List.map_append]
  rfl

/-- **Hashes, addresses and combined scripts name the same holders one to one**, up to the case of
the letters in a hash:

* every hash of forty digits has an address, which leads back to the hash in lower case;
* every address that is accepted is the address of its hash, so no two name the same hash;
* every combined script that ends like an ordinary holder's has an address, which leads back to it
  in lower case, and every address that is accepted is that of its combined script. -/
theorem names_of_a_holder_biject :
    (∀ pkh, Hex.Numeral 40 pkh →
      ∃ address, ofHash pkh = .ok address ∧ toHash address = .ok pkh.toLower) ∧
    (∀ address pkh, toHash address = .ok pkh → ofHash pkh = .ok address) ∧
    (∀ one other pkh, toHash one = .ok pkh → toHash other = .ok pkh → one = other) ∧
    (∀ combined, Hex.Numeral 42 combined → holderSuffix.toList <:+ combined.toList →
      ∃ address, ofCombined combined = .ok address ∧
        toCombined address = .ok combined.toLower) ∧
    (∀ address combined, toCombined address = .ok combined →
      ofCombined combined = .ok address) := by
  refine ⟨fun pkh h => toHash_ofHash h, fun address pkh h => (ofHash_of_toHash h).2, ?_, ?_, ?_⟩
  · intro one other pkh hone hother
    have hsame := (ofHash_of_toHash hone).2.symm.trans (ofHash_of_toHash hother).2
    exact Except.ok.inj hsame
  · intro combined h hs
    obtain ⟨pkh, hpkh, rfl⟩ := exists_hash_of_suffix h hs
    obtain ⟨address, hof, hto⟩ := toHash_ofHash hpkh
    refine ⟨address, (ofCombined_append hpkh).2.trans hof, ?_⟩
    exact toCombined_eq_ok.2 ⟨_, hto, toLower_append_suffix pkh⟩
  · intro address combined h
    obtain ⟨pkh, hto, rfl⟩ := toCombined_eq_ok.1 h
    obtain ⟨hpkh, hof⟩ := ofHash_of_toHash hto
    exact (ofCombined_append hpkh).2.trans hof

/-- A hash in capitals that begins with two zero bytes. -/
def zeroLedHash : String := "0000E907B15CBF27D5425399EBF6F0FB50EBB88F"

/-- Its address. -/
def zeroLedAddress : String := "11126FKeDWhowPWGHGwyi5oQvcB8E887aa"

/-- The address begins with a `1` for the version and one for each zero byte, and leads back to the
hash, no longer in capitals, as no other does; so does that of its combined script. -/
theorem names_of_a_holder_biject_zeroLed :
    Hex.Numeral 40 zeroLedHash ∧
    (ofHash zeroLedHash = .ok zeroLedAddress ∧
      toHash zeroLedAddress = .ok "0000e907b15cbf27d5425399ebf6f0fb50ebb88f" ∧
      (∀ other, toHash other = .ok "0000e907b15cbf27d5425399ebf6f0fb50ebb88f" →
        other = zeroLedAddress)) ∧
    ofCombined (zeroLedHash ++ holderSuffix) = .ok zeroLedAddress ∧
      toCombined zeroLedAddress = .ok "0000e907b15cbf27d5425399ebf6f0fb50ebb88f00" := by
  obtain ⟨hashes, -, unique, combined, -⟩ := names_of_a_holder_biject
  have hhash : Hex.Numeral 40 zeroLedHash := isHash_iff.1 (by decide)
  obtain ⟨address, hof, hto⟩ := hashes zeroLedHash hhash
  have hlower : zeroLedHash.toLower = "0000e907b15cbf27d5425399ebf6f0fb50ebb88f" := by
    rw [← String.toList_inj, toList_toLower]
    decide
  rw [hlower] at hto
  have hliteral : (ofHash zeroLedHash).toOption = some zeroLedAddress := by decide +kernel
  rw [hof] at hliteral
  obtain rfl : address = zeroLedAddress := Option.some.inj hliteral
  obtain ⟨shared, hshared, hback⟩ := combined (zeroLedHash ++ holderSuffix)
    (ofCombined_append hhash).1 (by rw [String.toList_append]; exact List.suffix_append _ _)
  obtain rfl : shared = zeroLedAddress :=
    Except.ok.inj (hshared.symm.trans ((ofCombined_append hhash).2.trans hof))
  rw [toLower_append_suffix, hlower] at hback
  exact ⟨hhash, ⟨hof, hto, fun other h => unique _ _ _ h hto⟩, hshared, hback⟩

end ChainExplorer.Address
