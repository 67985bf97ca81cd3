import ChainExplorer.Proofs.Script.Address
import ChainExplorer.Script.Holder

/-!
# Which scripts pay an address

Balances are made of the outputs whose holder is the address that is asked for, so everything hangs
on which scripts have that holder. There are two ways to pay an address: by a script that is a
payment to its hash and nothing else, and by the code of a token that names its combined script in
front of the tag. `credited_iff_pays` says that these are all, for the kind that the disassembly
itself shows and up to the case of the digits.

The holder is found by kind. So the kinds are read as shapes of a list of fields first, each of the
two extractors after them, and last the address of what was extracted. That last step is where two
addresses could be confused, and it is exact because an address has one hash and a hash one address.
-/

namespace ChainExplorer.Script

open ChainExplorer.Text

/-- The fields of a payment to this hash. -/
def payment (pkh : String) : List String :=
  ["OP_DUP", "OP_HASH160", pkh, "OP_EQUALVERIFY", "OP_CHECKSIG"]

/-- Two texts that differ in the case of letters at most. -/
def Alike (one other : String) : Prop := one.toLower = other.toLower

theorem alike_iff {one other : String} :
    Alike one other ↔ one.toList.map Char.toLower = other.toList.map Char.toLower := by
  rw [Alike, ← String.toList_inj, Address.toList_toLower, Address.toList_toLower]

instance (one other : String) : Decidable (Alike one other) :=
  decidable_of_iff _ alike_iff.symm

/-! ## Shapes -/

theorem isPlainPay_iff {fields : List String} :
    isPlainPay fields = true ↔ ∃ pkh, fields = payment pkh ∧ Hex.Numeral 40 pkh := by
  constructor
  · intro h
    unfold isPlainPay at h
    split at h
    · rename_i pkh
      exact ⟨pkh, rfl, Address.isHash_iff.1 h⟩
    · cases h
  · rintro ⟨pkh, rfl, hpkh⟩
    show isHash pkh = true
    exact Address.isHash_iff.2 hpkh

theorem kindOfFields_eq_plainPay {fields : List String} :
    kindOfFields fields = .plainPay ↔ isPlainPay fields = true := by
  unfold kindOfFields
  constructor
  · intro h
    by_contra hplain
    rw [if_neg hplain] at h
    repeat' split at h
    all_goals cases h
  · intro h
    rw [if_pos h]

theorem paidHash?_of_payment {asm pkh : String} (hfields : words asm = payment pkh)
    (hpkh : Hex.Numeral 40 pkh) : paidHash? asm = some pkh := by
  rw [paidHash?, hfields]
  show (if isHash pkh then some pkh else none) = some pkh
  rw [if_pos (Address.isHash_iff.2 hpkh)]

theorem lastButOne?_eq_some {fields : List String} {field : String} :
    lastButOne? fields = some field ↔ ∃ front last, fields = front ++ [field, last] := by
  constructor
  · intro h
    rcases fields.eq_nil_or_concat with rfl | ⟨most, last, rfl⟩
    · cases h
    rcases most.eq_nil_or_concat with rfl | ⟨front, named, rfl⟩
    · cases h
    refine ⟨front, last, ?_⟩
    simp [lastButOne?] at h
    simp [h]
  · rintro ⟨front, last, rfl⟩
    simp [lastButOne?]

theorem codeHolder?_eq_some {asm named : String} : codeHolder? asm = some named ↔
    (∃ front last, words asm = front ++ [named, last]) ∧ Hex.Numeral 42 named := by
  rw [codeHolder?, Option.filter_eq_some_iff, lastButOne?_eq_some, Address.isCombined_iff]

end ChainExplorer.Script

namespace ChainExplorer.Address

open ChainExplorer.Script (Alike)

section Extracted

variable {address pkh text : String}

/-! ## The address of what was extracted -/

/-- The hash of an address is in lower case already. -/
theorem toLower_of_toHash (h : toHash address = .ok pkh) : pkh.toLower = pkh := by
  obtain ⟨hpkh, hof⟩ := ofHash_of_toHash h
  obtain ⟨other, hother, hto⟩ := toHash_ofHash hpkh
  obtain rfl : other = address := Except.ok.inj (hother.symm.trans hof)
  exact Except.ok.inj (hto.symm.trans h)

theorem ofHash_eq_ok_iff (h : toHash address = .ok pkh) (htext : Hex.Numeral 40 text) :
    ofHash text = .ok address ↔ Alike text pkh := by
  obtain ⟨other, hother, hto⟩ := toHash_ofHash htext
  rw [Alike, toLower_of_toHash h, hother, Except.ok.injEq]
  constructor
  · rintro rfl
    exact Except.ok.inj (hto.symm.trans h)
  · intro hlower
    rw [hlower] at hto
    exact Except.ok.inj ((ofHash_of_toHash hto).2.symm.trans (ofHash_of_toHash h).2)

/-- A combined script with an address ends like that of an ordinary holder. -/
theorem suffix_of_ofCombined (htext : Hex.Numeral 42 text) (h : ofCombined text = .ok address) :
    holderSuffix.toList <:+ text.toList := by
  rw [ofCombined, if_pos (isCombined_iff.2 htext)] at h
  by_cases hsuffix : (splitCombined text).2 = holderSuffix
  · rw [← hsuffix, splitCombined, String.toList_ofList]
    exact List.drop_suffix _ _
  · simp only [hsuffix, if_false] at h
    split at h <;> cases h

/-- A zero digit has no other case. -/
theorem eq_zero_of_toLower {c : Char} (hdigit : Hex.Digit c) (h : c.toLower = '0') : c = '0' :=
  hdigit.of_forall (p := fun c => c.toLower = '0' → c = '0') (by decide) h

theorem suffix_of_alike (htext : Hex.Numeral 42 text) (h : Alike text (pkh ++ holderSuffix)) :
    holderSuffix.toList <:+ text.toList := by
  rw [Alike, toLower_append_suffix, ← String.toList_inj, toList_toLower, String.toList_append] at h
  obtain ⟨front, last, htoList, -, hlast⟩ := List.map_eq_append_iff.1 h
  have hdigits : ∀ c ∈ last, Hex.Digit c := by
    intro c hc
    exact htext.2 c (htoList ▸ List.mem_append_right front hc)
  have hzeros : last = holderSuffix.toList := by
    rw [← List.map_id last]
    refine Eq.trans (List.map_congr_left fun c hc => ?_) hlast
    have hzero : c.toLower = '0' := by
      have hmem : c.toLower ∈ holderSuffix.toList := hlast ▸ List.mem_map_of_mem hc
      simpa [holderSuffix] using hmem
    rw [hzero]
    exact eq_zero_of_toLower (hdigits c hc) hzero
  exact ⟨front, by rw [htoList, hzeros]⟩

theorem ofCombined_eq_ok_iff (h : toHash address = .ok pkh) (htext : Hex.Numeral 42 text) :
    ofCombined text = .ok address ↔ Alike text (pkh ++ holderSuffix) := by
  -- Either side fixes the suffix, and with it the two sides are about the hash in front of it.
  have hhash : ∀ front, Hex.Numeral 40 front →
      (ofCombined (front ++ holderSuffix) = .ok address ↔
        Alike (front ++ holderSuffix) (pkh ++ holderSuffix)) := by
    intro front hfront
    rw [(ofCombined_append hfront).2, ofHash_eq_ok_iff h hfront, Alike, Alike,
      toLower_append_suffix, toLower_append_suffix, ← String.toList_inj, ← String.toList_inj,
      String.toList_append, String.toList_append, List.append_cancel_right_eq]
  constructor
  · intro hof
    obtain ⟨front, hfront, rfl⟩ := exists_hash_of_suffix htext (suffix_of_ofCombined htext hof)
    exact (hhash front hfront).1 hof
  · intro halike
    obtain ⟨front, hfront, rfl⟩ := exists_hash_of_suffix htext (suffix_of_alike htext halike)
    exact (hhash front hfront).2 halike

end Extracted

end ChainExplorer.Address

namespace ChainExplorer.Holder

open ChainExplorer.Script ChainExplorer.Text

/-! ## The holder by kind -/

theorem address?_eq_some {holder : Holder} {address : String} :
    holder.address? = some address ↔ holder = .address address := by
  cases holder <;> simp [address?]

theorem ofCombined_eq_address {combined address : String} :
    ofCombined combined = .address address ↔ Address.ofCombined combined = .ok address := by
  unfold ofCombined
  split
  · rename_i hof
    rw [hof, Holder.address.injEq, Except.ok.injEq]
  · rename_i hof
    rw [hof]
    simp

/-- A script that shows no holder has no address. -/
theorem hidden?_ne_address (script : Script) (address : String) :
    hidden? script ≠ some (.address address) := by
  intro h
  obtain ⟨key, -, hkey⟩ := Option.map_eq_some_iff.1 h
  cases hkey

theorem ofScript?_payment {hex asm pkh address : String} (hfields : words asm = payment pkh)
    (hpkh : Hex.Numeral 40 pkh) : ofScript? ⟨hex, asm, .plainPay⟩ = some (.address address) ↔
      Address.ofHash pkh = .ok address := by
  obtain ⟨own, hown, -⟩ := Address.toHash_ofHash hpkh
  have hpaid : paidAddress? asm = some own := by
    rw [paidAddress?, paidHash?_of_payment hfields hpkh, Option.bind_some, hown]
    rfl
  simp only [ofScript?, hpaid, hown, Option.some.injEq, Holder.address.injEq, Except.ok.injEq]

theorem ofScript?_code {hex asm address : String} {flavor : TokenFlavor} :
    ofScript? ⟨hex, asm, .tokenCode flavor⟩ = some (.address address) ↔
      ∃ named, codeHolder? asm = some named ∧ Address.ofCombined named = .ok address := by
  simp only [ofScript?]
  cases hholder : codeHolder? asm with
  | none => simp [hidden?_ne_address]
  | some named => simp [ofCombined_eq_address]

/-- No other kind has an address. -/
theorem kind_of_address {script : Script} {address : String}
    (h : ofScript? script = some (.address address)) :
    script.kind = .plainPay ∨ ∃ flavor, script.kind = .tokenCode flavor := by
  unfold ofScript? at h
  split at h
  · cases h
  · rename_i hkind
    exact .inl hkind
  · rename_i flavor hkind
    exact .inr ⟨flavor, hkind⟩
  · obtain ⟨key, -, hkey⟩ := Option.map_eq_some_iff.1 h
    cases hkey
  · exact absurd h (hidden?_ne_address script address)

/-! ## The result -/

/-- **A script is credited to an address exactly if it pays the hash of the address**: its fields are
those of a payment to the hash, or it is the code of a token and its last field but one is the hash
with the suffix of an ordinary holder, the case of the digits aside. -/
theorem credited_iff_pays {address pkh : String} (h : Address.toHash address = .ok pkh)
    (hex asm : String) :
    (ofScript? (.ofForms hex asm)).bind address? = some address ↔
      (∃ paid, words asm = payment paid ∧ Hex.Numeral 40 paid ∧ Alike paid pkh) ∨
        ((∃ flavor, (Script.ofForms hex asm).kind = .tokenCode flavor) ∧
          ∃ front named last, words asm = front ++ [named, last] ∧ Hex.Numeral 42 named ∧
            Alike named (pkh ++ Address.holderSuffix)) := by
  have hholder : (ofScript? (.ofForms hex asm)).bind address? = some address ↔
      ofScript? (.ofForms hex asm) = some (.address address) := by
    rw [Option.bind_eq_some_iff]
    simp only [address?_eq_some, exists_eq_right]
  rw [hholder]
  constructor
  · intro hcredit
    rcases kind_of_address hcredit with hplain | ⟨flavor, hcode⟩
    · left
      obtain ⟨paid, hfields, hpaid⟩ := isPlainPay_iff.1 (kindOfFields_eq_plainPay.1 hplain)
      rw [Script.ofForms, show classify asm = .plainPay from hplain,
        ofScript?_payment hfields hpaid] at hcredit
      exact ⟨paid, hfields, hpaid, (Address.ofHash_eq_ok_iff h hpaid).1 hcredit⟩
    · right
      rw [Script.ofForms, show classify asm = .tokenCode flavor from hcode,
        ofScript?_code] at hcredit
      obtain ⟨named, hnamed, hof⟩ := hcredit
      obtain ⟨⟨front, last, hfields⟩, hnumeral⟩ := codeHolder?_eq_some.1 hnamed
      exact ⟨⟨flavor, hcode⟩, front, named, last, hfields, hnumeral,
        (Address.ofCombined_eq_ok_iff h hnumeral).1 hof⟩
  · rintro (⟨paid, hfields, hpaid, halike⟩ |
      ⟨⟨flavor, hcode⟩, front, named, last, hfields, hnumeral, halike⟩)
    · have hplain : classify asm = .plainPay :=
        kindOfFields_eq_plainPay.2 (isPlainPay_iff.2 ⟨paid, hfields, hpaid⟩)
      rw [Script.ofForms, hplain, ofScript?_payment hfields hpaid]
      exact (Address.ofHash_eq_ok_iff h hpaid).2 halike
    · rw [Script.ofForms, show classify asm = .tokenCode flavor from hcode, ofScript?_code]
      exact ⟨named, codeHolder?_eq_some.2 ⟨⟨front, last, hfields⟩, hnumeral⟩,
        (Address.ofCombined_eq_ok_iff h hnumeral).2 halike⟩

def capitals : String := "62E907B15CBF27D5425399EBF6F0FB50EBB88F18"

def plainAsm : String := "OP_DUP OP_HASH160 " ++ capitals ++ " OP_EQUALVERIFY OP_CHECKSIG"

def codeAsm (suffix : String) : String := "OP_9 OP_PICK OP_TOALTSTACK " ++ capitals ++ suffix ++ " tag"

/-- A payment and a token code in capitals are credited to the address of the hash. The same code is
not where it names a controlled holder, and neither is the payment with a field more. -/
theorem credited_iff_pays_capitals : ∃ address,
    Address.toHash address = .ok "62e907b15cbf27d5425399ebf6f0fb50ebb88f18" ∧
    (ofScript? (.ofForms "" plainAsm)).bind address? = some address ∧
    (ofScript? (.ofForms "" (codeAsm "00"))).bind address? = some address ∧
    (ofScript? (.ofForms "" (codeAsm "01"))).bind address? ≠ some address ∧
    (ofScript? (.ofForms "" (plainAsm ++ " OP_NOP"))).bind address? ≠ some address := by
  have hcapitals : Hex.Numeral 40 capitals := Address.isHash_iff.1 (by decide)
  obtain ⟨address, -, hto⟩ := Address.toHash_ofHash hcapitals
  have hlower : capitals.toLower = "62e907b15cbf27d5425399ebf6f0fb50ebb88f18" := by
    rw [← String.toList_inj, Address.toList_toLower]
    decide
  rw [hlower] at hto
  have credited := credited_iff_pays hto ""
  refine ⟨address, hto, (credited _).2 (.inl ?_), (credited _).2 (.inr ?_), fun hcode => ?_,
    fun hplain => ?_⟩
  · exact ⟨capitals, by decide +kernel, hcapitals, by decide +kernel⟩
  · refine ⟨⟨.fungible, by decide +kernel⟩, ["OP_9", "OP_PICK", "OP_TOALTSTACK"],
      capitals ++ "00", "tag", by decide +kernel, ?_, by decide +kernel⟩
    exact (Address.ofCombined_append hcapitals).1
  · have hholder : codeHolder? (codeAsm "01") = some (capitals ++ "01") := by decide +kernel
    rcases (credited _).1 hcode with ⟨paid, hfields, hpaid, -⟩ |
      ⟨-, front, named, last, hfields, hnumeral, halike⟩
    · have hkind := isPlainPay_iff.2 ⟨paid, hfields, hpaid⟩
      exact absurd hkind (by decide +kernel)
    · have hnamed := codeHolder?_eq_some.2 ⟨⟨front, last, hfields⟩, hnumeral⟩
      obtain rfl := Option.some.inj (hholder.symm.trans hnamed)
      exact absurd halike (by decide +kernel)
  · rcases (credited _).1 hplain with ⟨paid, hfields, hpaid, -⟩ | ⟨⟨flavor, hkind⟩, -⟩
    · have hkind := isPlainPay_iff.2 ⟨paid, hfields, hpaid⟩
      exact absurd hkind (by decide +kernel)
    · have hunknown : (Script.ofForms "" (plainAsm ++ " OP_NOP")).kind = .unknown := by
        decide +kernel
      rw [hunknown] at hkind
      cases hkind

end ChainExplorer.Holder
