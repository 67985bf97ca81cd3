import ChainExplorer.Proofs.Results
import ChainExplorer.Proofs.Script.Control

/-!
# Labels of holders

A record names holders by their labels, and a label is made in one of three ways: it is an address,
or a key behind one of two openings, of which one begins like the other. What made it is not kept
beside it. So that labels tell holders apart rests on the characters: an address is written in
letters and digits alone, which no opening is, and what follows the shorter opening is hexadecimal,
which what continues it to the longer one is not (`label_injective`). For that, the keys must be
what scripts give, whatever kind a script is said to be of (`proper_of_ofScript?`).
-/

namespace ChainExplorer.Base58

/-- Base58 is written in letters and digits. -/
theorem isAlphanum_of_mem_encode {bs : List UInt8} {c : Char} (h : c ∈ encode bs) :
    c.isAlphanum = true := by
  rw [encode_eq_rebase] at h
  obtain ⟨d, hd, rfl⟩ := List.mem_map.1 h
  have all : ∀ d, d < 58 → (digitChar d).isAlphanum = true := by decide
  exact all d (lt_of_mem_rebase _ hd)

end ChainExplorer.Base58

namespace ChainExplorer.Address

theorem isAlphanum_of_toHash {address pkh : String} (h : toHash address = .ok pkh) :
    ∀ c ∈ address.toList, c.isAlphanum = true := by
  intro c hc
  obtain ⟨hash, hnames, -⟩ := toHash_eq_ok.1 h
  rw [← hnames.2] at hc
  exact Base58.isAlphanum_of_mem_encode hc

/-- The name of a script in the index is that of a digest. -/
theorem numeral_of_scriptHash {hex key : String} (h : scriptHash hex = .ok key) :
    Hex.Numeral 64 key := by
  rw [scriptHash] at h
  split at h
  · rename_i bytes hbytes
    obtain rfl := Except.ok.inj h
    have hnumeral := Hex.numeral_encode (Sha256.hash bytes).reverse
    rwa [List.length_reverse, Sha256.length_hash] at hnumeral
  · cases h

end ChainExplorer.Address

namespace ChainExplorer.Holder

open ChainExplorer.Script ChainExplorer.Text

/-! ## What holders are made of -/

/-- A holder as scripts give it: its address is one that is accepted, and its key is a public-key
hash or a digest. -/
def Proper : Holder → Prop
  | .address a => ∃ pkh, Address.toHash a = .ok pkh
  | .controlled key => Hex.Numeral 40 key ∨ Hex.Numeral 64 key
  | .opaqueScript key => Hex.Numeral 64 key

theorem proper_of_ofHash {pkh address : String} (h : Address.ofHash pkh = .ok address) :
    (Holder.address address).Proper := by
  have hpkh : Hex.Numeral 40 pkh := by
    by_contra hnot
    rw [Address.ofHash, if_neg fun hash => hnot (Address.isHash_iff.1 hash)] at h
    cases h
  obtain ⟨other, hother, hto⟩ := Address.toHash_ofHash hpkh
  obtain rfl := Except.ok.inj (hother.symm.trans h)
  exact ⟨_, hto⟩

/-- What a combined script names has the address of the hash in it, or that hash for a key. -/
theorem proper_ofCombined {combined : String} (h : Hex.Numeral 42 combined) :
    (ofCombined combined).Proper := by
  obtain ⟨key, suffix, rfl, hkey, hsuffix⟩ := Address.exists_key_suffix h
  obtain ⟨hsplit, hof⟩ := Address.ofCombined_suffix hkey hsuffix
  rw [ofCombined]
  split
  · rename_i address haddress
    rw [hof] at haddress
    split at haddress
    · exact proper_of_ofHash haddress
    · split at haddress <;> cases haddress
  · rw [hsplit]
    exact .inl hkey

/-- A holder that is known by the hash of the script is proper, whatever sort it is. -/
theorem proper_hashed {hex : String} {holder : Holder} (sort : String → Holder)
    (hsort : ∀ key, Hex.Numeral 64 key → (sort key).Proper)
    (h : (Address.scriptHash hex).toOption.map sort = some holder) : holder.Proper := by
  obtain ⟨key, hkey, rfl⟩ := Option.map_eq_some_iff.1 h
  exact hsort key (Address.numeral_of_scriptHash (toOption_eq_some.1 hkey))

theorem proper_of_hidden? {script : Script} {holder : Holder}
    (h : hidden? script = some holder) : holder.Proper :=
  proper_hashed .opaqueScript (fun _ hkey => hkey) h

/-- **Whatever kind a script is said to be of, the holder that it gives is proper.** -/
theorem proper_of_ofScript? {script : Script} {holder : Holder}
    (h : ofScript? script = some holder) : holder.Proper := by
  unfold ofScript? at h
  split at h
  · cases h
  · split at h
    · rename_i address haddress
      obtain rfl := Option.some.inj h
      obtain ⟨pkh, -, hof⟩ := Option.bind_eq_some_iff.1 haddress
      exact proper_of_ofHash (toOption_eq_some.1 hof)
    · exact proper_of_hidden? h
  · split at h
    · rename_i combined hcombined
      obtain rfl := Option.some.inj h
      exact proper_ofCombined (codeHolder?_eq_some.1 hcombined).2
    · exact proper_of_hidden? h
  · exact proper_hashed .controlled (fun _ hkey => Or.inr hkey) h
  · exact proper_of_hidden? h

/-! ## What labels are made of -/

/-- A label that is made of a key has a character that no address has. -/
theorem mem_label_of_key {holder : Holder} (h : holder.address? = none) :
    '_' ∈ holder.label.toList := by
  cases holder with
  | address a => cases h
  | controlled key =>
    rw [label, String.toList_append]
    exact List.mem_append_left _ (by decide)
  | opaqueScript key =>
    rw [label, String.toList_append]
    exact List.mem_append_left _ (by decide)

/-- **A label that is made of a key is no address.** -/
theorem label_ne_address {holder : Holder} {address pkh : String} (h : holder.address? = none)
    (haddress : Address.toHash address = .ok pkh) : holder.label ≠ address := by
  rintro rfl
  exact absurd (Address.isAlphanum_of_toHash haddress _ (mem_label_of_key h)) (by decide)

/-- The longer opening is the shorter one and a text that is not hexadecimal. -/
theorem controlled_ne_opaqueScript {key digest : String} (h : Hex.Numeral 64 digest) :
    (Holder.controlled key).label ≠ (Holder.opaqueScript digest).label := by
  intro heq
  have hlonger : (Holder.controlled key).label = "Pool_" ++ ("or_MS_" ++ key) := by
    rw [← String.append_assoc]
    rfl
  have hdigest : "or_MS_" ++ key = digest :=
    (String.append_right_inj "Pool_").1 (hlonger.symm.trans heq)
  have hmem : 'o' ∈ digest.toList := by
    rw [← hdigest, String.toList_append]
    exact List.mem_append_left _ (by decide)
  exact absurd (Hex.isDigit_iff.2 (h.2 'o' hmem)) (by decide)

/-- **Labels tell holders apart.** -/
theorem label_injective {one other : Holder} (hone : one.Proper) (hother : other.Proper)
    (heq : one.label = other.label) : one = other := by
  cases one with
  | address a =>
    cases other with
    | address b => exact congrArg Holder.address heq
    | controlled key | opaqueScript key =>
      obtain ⟨pkh, hpkh⟩ := hone
      exact absurd heq.symm (label_ne_address rfl hpkh)
  | controlled key =>
    cases other with
    | address b =>
      obtain ⟨pkh, hpkh⟩ := hother
      exact absurd heq (label_ne_address rfl hpkh)
    | controlled key' => exact congrArg Holder.controlled ((String.append_right_inj _).1 heq)
    | opaqueScript digest => exact absurd heq (controlled_ne_opaqueScript hother)
  | opaqueScript digest =>
    cases other with
    | address b =>
      obtain ⟨pkh, hpkh⟩ := hother
      exact absurd heq (label_ne_address rfl hpkh)
    | controlled key => exact absurd heq.symm (controlled_ne_opaqueScript hone)
    | opaqueScript digest' => exact congrArg Holder.opaqueScript ((String.append_right_inj _).1 heq)

end ChainExplorer.Holder
