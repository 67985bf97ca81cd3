import ChainExplorer.Proofs.Script.Credit

/-!
# Which holders are controlled

The label of a controlled holder says that a pool or a multisig spends what it holds. Two kinds of
script show that: a multisig, and the code of a token whose combined script ends in the byte of a
controlled holder (`Controls`). A combined script may also end in a byte that types no holder at all
(`Mistypes`), and reading it for an address says so, with an error of its own. The holder of a
script does not listen to which error it was: whatever combined script has no address counts as
controlled. So the controlled holders are those of both sorts, and the description of a controlled
holder fits a script exactly if the script does not mistype its holder
(`controlled_iff_controls_or_mistypes`).
-/

namespace ChainExplorer.Address

section Combined

variable {key suffix : String}

/-- What becomes of the address of a combined script hangs on its last byte alone. -/
theorem ofCombined_suffix (hkey : Hex.Numeral 40 key) (hsuffix : Hex.Numeral 2 suffix) :
    splitCombined (key ++ suffix) = (key, suffix) ∧
    ofCombined (key ++ suffix) =
      if suffix = holderSuffix then ofHash key
      else if suffix = controlledSuffix then .error (.noAddressForm (key ++ suffix))
      else .error (.invalidCombinedScript (key ++ suffix)) := by
  have hsplit : splitCombined (key ++ suffix) = (key, suffix) := by
    have htake : (key.toList ++ suffix.toList).take Script.hashWidth = key.toList :=
      List.take_left' hkey.1
    have hdrop : (key.toList ++ suffix.toList).drop Script.hashWidth = suffix.toList :=
      List.drop_left' hkey.1
    rw [splitCombined, String.toList_append, htake, hdrop, String.ofList_toList,
      String.ofList_toList]
  have hcombined : Hex.Numeral 42 (key ++ suffix) := hkey.append hsuffix
  refine ⟨hsplit, ?_⟩
  rw [ofCombined, if_pos (isCombined_iff.2 hcombined), hsplit]

/-- Two digits that type no holder are reported as such, and nothing else is. -/
theorem ofCombined_eq_invalid (hkey : Hex.Numeral 40 key) (hsuffix : Hex.Numeral 2 suffix) :
    ofCombined (key ++ suffix) = .error (.invalidCombinedScript (key ++ suffix)) ↔
      suffix ≠ holderSuffix ∧ suffix ≠ controlledSuffix := by
  rw [(ofCombined_suffix hkey hsuffix).2]
  by_cases hholder : suffix = holderSuffix
  · obtain ⟨address, hof, -⟩ := toHash_ofHash hkey
    simp [hholder, hof]
  · by_cases hcontrolled : suffix = controlledSuffix
    · simp [hcontrolled, controlledSuffix, holderSuffix]
    · simp [hholder, hcontrolled]

/-- Every combined script is a hash and a byte. -/
theorem exists_key_suffix {combined : String} (h : Hex.Numeral 42 combined) :
    ∃ key suffix, combined = key ++ suffix ∧ Hex.Numeral 40 key ∧ Hex.Numeral 2 suffix := by
  have hparts := List.take_append_drop 40 combined.toList
  refine ⟨.ofList (combined.toList.take 40), .ofList (combined.toList.drop 40), ?_, ?_, ?_⟩
  · rw [← String.toList_inj, String.toList_append, String.toList_ofList, String.toList_ofList,
      hparts]
  · rw [Hex.Numeral, String.toList_ofList, List.length_take, h.1]
    exact ⟨rfl, fun c hc => h.2 c (List.mem_of_mem_take hc)⟩
  · rw [Hex.Numeral, String.toList_ofList, List.length_drop, h.1]
    exact ⟨rfl, fun c hc => h.2 c (List.mem_of_mem_drop hc)⟩

end Combined

end ChainExplorer.Address

namespace ChainExplorer.Holder

open ChainExplorer.Script ChainExplorer.Text

/-! ## What a script shows of its holder -/

/-- A script shows that its holder is controlled, and is known by this key: a multisig by its hash,
and the code of a token by the hash that it names in front of the byte of a controlled holder. -/
inductive Controls (script : Script) (key : String) : Prop
  | multisig (kind : script.kind = .multisigPay)
      (hash : Address.scriptHash script.hex = .ok key)
  | named {flavor : TokenFlavor} {front : List String} {last : String}
      (kind : script.kind = .tokenCode flavor)
      (fields : words script.asm = front ++ [key ++ Address.controlledSuffix, last])
      (digits : Hex.Numeral 40 key)

/-- The code of a token names a hash in front of a byte that types no holder. -/
structure Mistypes (script : Script) (key suffix : String) : Prop where
  kind : ∃ flavor, script.kind = .tokenCode flavor
  fields : ∃ front last, words script.asm = front ++ [key ++ suffix, last]
  digits : Hex.Numeral 40 key
  byte : Hex.Numeral 2 suffix
  untyped : suffix ≠ Address.holderSuffix ∧ suffix ≠ Address.controlledSuffix

/-- A script shows no holder: it is of no known kind, or it is the code of a token that has no
combined script in its place. -/
def Anonymous (script : Script) : Prop :=
  script.kind = .unknown ∨
    (∃ flavor, script.kind = .tokenCode flavor) ∧ codeHolder? script.asm = none

section Shown

variable {script : Script} {key suffix : String}

theorem numeral_controlledSuffix : Hex.Numeral 2 Address.controlledSuffix :=
  Hex.isHexOfLength_iff.1 (by decide)

/-- The combined script of a token code is the one that its fields show. -/
theorem codeHolder?_of_fields {asm : String} {front : List String} {last : String}
    (fields : words asm = front ++ [key ++ suffix, last]) (hkey : Hex.Numeral 40 key)
    (hsuffix : Hex.Numeral 2 suffix) : codeHolder? asm = some (key ++ suffix) :=
  codeHolder?_eq_some.2 ⟨⟨front, last, fields⟩, hkey.append hsuffix⟩

/-- A combined script names a controlled holder if it has no address, under the hash in it. -/
theorem ofCombined_eq_controlled (hkey : Hex.Numeral 40 key) (hsuffix : Hex.Numeral 2 suffix)
    {other : String} : ofCombined (key ++ suffix) = .controlled other ↔
      suffix ≠ Address.holderSuffix ∧ other = key := by
  obtain ⟨hsplit, hof⟩ := Address.ofCombined_suffix hkey hsuffix
  by_cases hholder : suffix = Address.holderSuffix
  · obtain ⟨address, haddress, -⟩ := Address.toHash_ofHash hkey
    rw [if_pos hholder, haddress] at hof
    rw [ofCombined, hof]
    simp [hholder]
  · rw [if_neg hholder] at hof
    by_cases hcontrolled : suffix = Address.controlledSuffix
    · rw [if_pos hcontrolled] at hof
      simp [ofCombined, hof, hsplit, hholder, eq_comm]
    · rw [if_neg hcontrolled] at hof
      simp [ofCombined, hof, hsplit, hholder, eq_comm]

theorem ofCombined_ne_opaqueScript (combined key : String) :
    ofCombined combined ≠ .opaqueScript key := by
  unfold ofCombined
  split <;> simp

/-- A holder of either sort that is known by the hash of the script. -/
theorem hashed_eq_some {hex : String} {sort : String → Holder}
    (distinct : Function.Injective sort) :
    (Address.scriptHash hex).toOption.map sort = some (sort key) ↔
      Address.scriptHash hex = .ok key := by
  cases Address.scriptHash hex with
  | error error => simp [Except.toOption]
  | ok hash => simp [Except.toOption, distinct.eq_iff]

theorem hidden?_eq_opaqueScript :
    hidden? script = some (.opaqueScript key) ↔ Address.scriptHash script.hex = .ok key :=
  hashed_eq_some fun _ _ h => Holder.opaqueScript.inj h

theorem hidden?_ne_controlled (script : Script) (key : String) :
    hidden? script ≠ some (.controlled key) := by
  intro h
  obtain ⟨hash, -, hholder⟩ := Option.map_eq_some_iff.1 h
  cases hholder

/-- A plain payment always has an address, since it shows a whole hash. -/
theorem exists_address_of_plainPay {hex asm : String}
    (h : (Script.ofForms hex asm).kind = .plainPay) :
    ∃ address, ofScript? (.ofForms hex asm) = some (.address address) := by
  obtain ⟨pkh, hfields, hpkh⟩ := isPlainPay_iff.1 (kindOfFields_eq_plainPay.1 h)
  obtain ⟨address, hof, -⟩ := Address.toHash_ofHash hpkh
  refine ⟨address, ?_⟩
  rw [Script.ofForms, show classify asm = .plainPay from h]
  exact (ofScript?_payment hfields hpkh).2 hof

/-! ## Controlled holders by kind -/

theorem multisig_controlled_iff {hex asm : String} :
    ofScript? ⟨hex, asm, .multisigPay⟩ = some (.controlled key) ↔
      Address.scriptHash hex = .ok key :=
  hashed_eq_some fun _ _ h => Holder.controlled.inj h

/-- The code of a token has a controlled holder if it names one without an address. -/
theorem code_controlled_iff {hex asm : String} {flavor : TokenFlavor} :
    ofScript? ⟨hex, asm, .tokenCode flavor⟩ = some (.controlled key) ↔
      ∃ suffix, (∃ front last, words asm = front ++ [key ++ suffix, last]) ∧
        Hex.Numeral 40 key ∧ Hex.Numeral 2 suffix ∧ suffix ≠ Address.holderSuffix := by
  simp only [ofScript?]
  constructor
  · intro h
    split at h
    · rename_i combined hcombined
      obtain ⟨⟨front, last, hfields⟩, hnumeral⟩ := codeHolder?_eq_some.1 hcombined
      obtain ⟨hash, suffix, rfl, hhash, hsuffix⟩ := Address.exists_key_suffix hnumeral
      obtain ⟨hholder, rfl⟩ := (ofCombined_eq_controlled hhash hsuffix).1 (Option.some.inj h)
      exact ⟨suffix, ⟨front, last, hfields⟩, hhash, hsuffix, hholder⟩
    · exact absurd h (hidden?_ne_controlled _ _)
  · rintro ⟨suffix, ⟨front, last, hfields⟩, hkey, hsuffix, hholder⟩
    rw [codeHolder?_of_fields hfields hkey hsuffix]
    exact congrArg some ((ofCombined_eq_controlled hkey hsuffix).2 ⟨hholder, rfl⟩)

/-- No other kind has a controlled holder. -/
theorem kind_of_controlled {hex asm : String}
    (h : ofScript? (.ofForms hex asm) = some (.controlled key)) :
    (Script.ofForms hex asm).kind = .multisigPay ∨
      ∃ flavor, (Script.ofForms hex asm).kind = .tokenCode flavor := by
  cases hkind : (Script.ofForms hex asm).kind with
  | plainPay =>
    obtain ⟨address, haddress⟩ := exists_address_of_plainPay hkind
    rw [haddress] at h
    cases h
  | multisigPay => exact .inl rfl
  | tokenCode flavor => exact .inr ⟨flavor, rfl⟩
  | poolTape =>
    simp only [ofScript?, hkind] at h
    cases h
  | unknown =>
    simp only [ofScript?, hkind] at h
    exact absurd h (hidden?_ne_controlled _ _)

/-- **The controlled holders are those that a script shows and those that it mistypes.** -/
theorem ofScript?_eq_controlled {hex asm : String} :
    ofScript? (.ofForms hex asm) = some (.controlled key) ↔
      Controls (.ofForms hex asm) key ∨ ∃ suffix, Mistypes (.ofForms hex asm) key suffix := by
  have hform {kind : ScriptKind} (hkind : (Script.ofForms hex asm).kind = kind) :
      Script.ofForms hex asm = ⟨hex, asm, kind⟩ := hkind ▸ rfl
  constructor
  · intro h
    rcases kind_of_controlled h with hkind | ⟨flavor, hkind⟩
    · rw [hform hkind] at h
      exact .inl (.multisig hkind (multisig_controlled_iff.1 h))
    · rw [hform hkind] at h
      obtain ⟨suffix, ⟨front, last, hfields⟩, hkey, hsuffix, hholder⟩ := code_controlled_iff.1 h
      by_cases hcontrolled : suffix = Address.controlledSuffix
      · subst hcontrolled
        exact .inl (.named hkind hfields hkey)
      · exact .inr ⟨suffix, ⟨flavor, hkind⟩, ⟨front, last, hfields⟩, hkey, hsuffix, hholder,
          hcontrolled⟩
  · rintro ((⟨hkind, hhash⟩ | ⟨hkind, hfields, hkey⟩) |
      ⟨suffix, ⟨flavor, hkind⟩, hfields, hkey, hsuffix, hholder, -⟩)
    · rw [hform hkind]
      exact multisig_controlled_iff.2 hhash
    · rw [hform hkind]
      exact code_controlled_iff.2 ⟨_, ⟨_, _, hfields⟩, hkey, numeral_controlledSuffix, by decide⟩
    · rw [hform hkind]
      exact code_controlled_iff.2 ⟨suffix, hfields, hkey, hsuffix, hholder⟩

/-- **The holders that are known by a hash are those of the scripts that show none.** -/
theorem ofScript?_eq_opaqueScript {hex asm : String} :
    ofScript? (.ofForms hex asm) = some (.opaqueScript key) ↔
      Anonymous (.ofForms hex asm) ∧ Address.scriptHash hex = .ok key := by
  have hhash : Address.scriptHash hex = Address.scriptHash (Script.ofForms hex asm).hex := rfl
  rw [hhash, ← hidden?_eq_opaqueScript, Anonymous]
  cases hkind : (Script.ofForms hex asm).kind with
  | plainPay =>
    obtain ⟨address, haddress⟩ := exists_address_of_plainPay hkind
    simp [haddress]
  | multisigPay => simp [ofScript?, hkind]
  | tokenCode flavor =>
    simp only [ofScript?, hkind]
    cases hcode : codeHolder? (Script.ofForms hex asm).asm with
    | none => simp
    | some combined => simp [ofCombined_ne_opaqueScript]
  | poolTape => simp [ofScript?, hkind]
  | unknown => simp [ofScript?, hkind]

/-- A mistyped holder is not one that the script shows to be controlled. -/
theorem Mistypes.not_controls {other : String} (h : Mistypes script key suffix) :
    ¬ Controls script other := by
  obtain ⟨⟨flavor, hkind⟩, ⟨front, last, hfields⟩, hkey, hsuffix, -, hcontrolled⟩ := h
  rintro (⟨hother, -⟩ | ⟨hother, hnamed, hdigits⟩)
  · cases hkind.symm.trans hother
  · -- One field stands in the place of the holder, and it is cut in one way.
    have hsame := (codeHolder?_of_fields hfields hkey hsuffix).symm.trans
      (codeHolder?_of_fields hnamed hdigits numeral_controlledSuffix)
    have hsplit := (Address.ofCombined_suffix hkey hsuffix).1
    rw [Option.some.inj hsame, (Address.ofCombined_suffix hdigits numeral_controlledSuffix).1]
      at hsplit
    exact hcontrolled (congrArg Prod.snd hsplit).symm

end Shown

/-! ## The result -/

/-- **Which holders are controlled, and how far that is what the scripts show.** For every script:

* its holder is controlled exactly if the script shows a controlled holder or mistypes its holder,
  and the key is the one that it shows;
* its holder is known by the hash of the script exactly if it shows none at all;
* a combined script is rejected as invalid exactly if its last byte types no holder;
* so only what the script shows to be controlled is called so, and a holder that it mistypes is
  known by the hash of the script, exactly if the script does not mistype its holder. -/
theorem controlled_iff_controls_or_mistypes (hex asm : String) :
    (∀ key, ofScript? (.ofForms hex asm) = some (.controlled key) ↔
      Controls (.ofForms hex asm) key ∨ ∃ suffix, Mistypes (.ofForms hex asm) key suffix) ∧
    (∀ key, ofScript? (.ofForms hex asm) = some (.opaqueScript key) ↔
      Anonymous (.ofForms hex asm) ∧ Address.scriptHash hex = .ok key) ∧
    (∀ key suffix, Hex.Numeral 40 key → Hex.Numeral 2 suffix →
      (Address.ofCombined (key ++ suffix) = .error (.invalidCombinedScript (key ++ suffix)) ↔
        suffix ≠ Address.holderSuffix ∧ suffix ≠ Address.controlledSuffix)) ∧
    ((∀ key, ofScript? (.ofForms hex asm) = some (.controlled key) →
        Controls (.ofForms hex asm) key) ∧
      (∀ key suffix, Mistypes (.ofForms hex asm) key suffix →
        ofScript? (.ofForms hex asm) = hidden? (.ofForms hex asm)) ↔
      ¬ ∃ key suffix, Mistypes (.ofForms hex asm) key suffix) := by
  refine ⟨fun key => ofScript?_eq_controlled, fun key => ofScript?_eq_opaqueScript,
    fun key suffix => Address.ofCombined_eq_invalid, ⟨?_, fun hnone => ⟨fun key h => ?_, ?_⟩⟩⟩
  · rintro ⟨honly, -⟩ ⟨key, suffix, hmistypes⟩
    exact hmistypes.not_controls (honly key (ofScript?_eq_controlled.2 (.inr ⟨suffix, hmistypes⟩)))
  · rcases ofScript?_eq_controlled.1 h with hcontrols | ⟨suffix, hmistypes⟩
    · exact hcontrols
    · exact absurd ⟨key, suffix, hmistypes⟩ hnone
  · intro key suffix hmistypes
    exact absurd ⟨key, suffix, hmistypes⟩ hnone

def hashText : String := "62e907b15cbf27d5425399ebf6f0fb50ebb88f18"

/-- The code of a token whose holder is of this type. -/
def typedAsm (suffix : String) : String :=
  "OP_9 OP_PICK OP_TOALTSTACK " ++ hashText ++ suffix ++ " 32436f6465"

/-- A token code that names a controlled holder is one of those that are understood. -/
theorem controlled_iff_controls_or_mistypes_typed :
    ofScript? (.ofForms "51" (typedAsm "01")) = some (.controlled hashText) ∧
    (∀ key, ofScript? (.ofForms "51" (typedAsm "01")) = some (.controlled key) →
      Controls (.ofForms "51" (typedAsm "01")) key) ∧
    Address.ofCombined (hashText ++ "03") = .error (.invalidCombinedScript (hashText ++ "03")) := by
  have hkey : Hex.Numeral 40 hashText := Address.isHash_iff.1 (by decide)
  have hkind : (Script.ofForms "51" (typedAsm "01")).kind = .tokenCode .fungible := by
    decide +kernel
  have hfields : words (typedAsm "01")
      = ["OP_9", "OP_PICK", "OP_TOALTSTACK"] ++ [hashText ++ "01", "32436f6465"] := by
    decide +kernel
  obtain ⟨hcontrolled, -, hinvalid, hfits⟩ := controlled_iff_controls_or_mistypes "51" (typedAsm "01")
  have hcontrols : Controls (.ofForms "51" (typedAsm "01")) hashText := .named hkind hfields hkey
  refine ⟨(hcontrolled _).2 (.inl hcontrols), (hfits.2 ?_).1,
    (hinvalid _ _ hkey (Hex.isHexOfLength_iff.1 (by decide))).2 (by decide)⟩
  rintro ⟨key, suffix, hmistypes⟩
  exact hmistypes.not_controls hcontrols

/-- The combined script of a holder of type `02` is rejected, and yet the holder is controlled, which
nothing in the script shows. A script that shows no holder is known by its hash. -/
theorem mistyped_is_controlled :
    Address.ofCombined (hashText ++ "02") = .error (.invalidCombinedScript (hashText ++ "02")) ∧
    Mistypes (.ofForms "51" (typedAsm "02")) hashText "02" ∧
    ofScript? (.ofForms "51" (typedAsm "02")) = some (.controlled hashText) ∧
    ¬ Controls (.ofForms "51" (typedAsm "02")) hashText ∧
    ∃ key, hidden? (.ofForms "51" (typedAsm "02")) = some (.opaqueScript key) := by
  have hkey : Hex.Numeral 40 hashText := Address.isHash_iff.1 (by decide)
  have hbyte : Hex.Numeral 2 "02" := Hex.isHexOfLength_iff.1 (by decide)
  have huntyped : "02" ≠ Address.holderSuffix ∧ "02" ≠ Address.controlledSuffix := by decide
  have hmistypes : Mistypes (.ofForms "51" (typedAsm "02")) hashText "02" :=
    { kind := ⟨.fungible, by decide +kernel⟩
      fields := ⟨["OP_9", "OP_PICK", "OP_TOALTSTACK"], "32436f6465", by decide +kernel⟩
      digits := hkey
      byte := hbyte
      untyped := huntyped }
  refine ⟨(Address.ofCombined_eq_invalid hkey hbyte).2 huntyped, hmistypes,
    ofScript?_eq_controlled.2 (.inr ⟨"02", hmistypes⟩), hmistypes.not_controls, ?_⟩
  have hbytes : Hex.decode "51".toList = some [0x51] := by decide
  have hhash : Address.scriptHash "51"
      = .ok (.ofList (Hex.encode (Sha256.hash [0x51]).reverse)) := by
    rw [Address.scriptHash, hbytes]
  exact ⟨_, hidden?_eq_opaqueScript.2 hhash⟩

end ChainExplorer.Holder
