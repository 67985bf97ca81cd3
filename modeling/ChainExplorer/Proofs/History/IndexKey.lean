import ChainExplorer.Proofs.History.DoubleEntry
import ChainExplorer.Proofs.Script.Credit
import ChainExplorer.Proofs.Text.Fields

/-!
# What the index files and what is credited

The history of an address is looked up and counted by two different readings of a script. The index
files an output under the hash of the script's bytes, and it is asked for the key of the script that
pays to the hash of the address. An output is then credited by the fields of its disassembly. If the
two did not agree, an address would have outputs that are never found, or find outputs that count
for nothing.

They agree on whatever is written in both forms (`Coherent`), in any case of the letters, since a
key forgets the case when it reads the bytes and an address when it is made. What is left is two
scripts of one hash, which the index cannot tell apart; `Clash` says what that would take.
-/

namespace ChainExplorer.Address

open ChainExplorer.Script (Alike alike_iff payment)
open ChainExplorer.Text (Solid)

/-! ## Letters -/

theorem numeral_of_alike {width : Nat} {one other : String} (h : Alike one other)
    (hother : Hex.Numeral width other) : Hex.Numeral width one := by
  rw [alike_iff] at h
  have hlength := congrArg List.length h
  rw [List.length_map, List.length_map] at hlength
  refine ⟨hlength.trans hother.1, fun c hc => ?_⟩
  have hlower : c.toLower ∈ other.toList.map Char.toLower := h ▸ List.mem_map_of_mem hc
  obtain ⟨d, hd, hcd⟩ := List.mem_map.1 hlower
  rw [← Hex.digit_toLower_iff, ← hcd, Hex.digit_toLower_iff]
  exact hother.2 d hd

/-- The bytes of a text have no other spelling than in another case. -/
theorem alike_iff_decode {one other : String} {bytes : List UInt8}
    (h : Hex.decode other.toList = some bytes) :
    Alike one other ↔ Hex.decode one.toList = some bytes := by
  constructor
  · intro halike
    rw [← h, ← Hex.decode_map_toLower, alike_iff.1 halike, Hex.decode_map_toLower]
  · intro hone
    have lowered : ∀ {text : String}, Hex.decode text.toList = some bytes →
        text.toLower = String.ofList (Hex.encode bytes) := fun htext => by
      rw [Hex.encode_of_decode htext, ofList_map_lower ⟨rfl, Hex.digit_of_decode htext⟩]
    exact (lowered hone).trans (lowered h).symm

/-! ## The script that pays to a hash -/

theorem numeral_payScript {pkh : String} (h : Hex.Numeral 40 pkh) :
    Hex.Numeral 50 (payScript pkh) := by
  have hopening : Hex.Numeral 6 "76a914" := Hex.isHexOfLength_iff.1 (by decide)
  have hclosing : Hex.Numeral 4 "88ac" := Hex.isHexOfLength_iff.1 (by decide)
  exact (hopening.append h).append hclosing

theorem alike_payScript {one other : String} :
    Alike (payScript one) (payScript other) ↔ Alike one other := by
  simp only [alike_iff, payScript, String.toList_append, List.map_append,
    List.append_cancel_left_eq, List.append_cancel_right_eq]

/-- The disassembly of the script that pays to a hash. -/
def payText (pkh : String) : String := " ".intercalate (payment pkh)

theorem words_payText {pkh : String} (h : Hex.Numeral 40 pkh) :
    Text.words (payText pkh) = payment pkh := by
  have hpkh : Solid pkh.toList := by
    refine ⟨fun hnil => ?_, fun c hc => ?_⟩
    · have hlength := h.1
      rw [hnil] at hlength
      cases hlength
    · exact (h.2 c hc).of_forall (p := fun c => Text.isBlank c = false) (by decide)
  refine Text.words_intercalate fun field hfield => ?_
  simp only [payment, List.mem_cons, List.not_mem_nil, or_false] at hfield
  rcases hfield with rfl | rfl | rfl | rfl | rfl
  case inr.inr.inl => exact hpkh
  all_goals decide

/-! ## Keys -/

/-- Scripts of different bytes that have one hash. -/
def Clash (one other : String) : Prop :=
  ∃ bytes bytes', Hex.decode one.toList = some bytes ∧ Hex.decode other.toList = some bytes' ∧
    bytes ≠ bytes' ∧ Sha256.hash bytes = Sha256.hash bytes'

theorem scriptHash_eq_ok {hex key : String} : scriptHash hex = .ok key ↔
    ∃ bytes, Hex.decode hex.toList = some bytes ∧
      String.ofList (Hex.encode (Sha256.hash bytes).reverse) = key := by
  rw [scriptHash]
  cases Hex.decode hex.toList <;> simp

theorem Clash.not_alike {one other : String} (h : Clash one other) : ¬ Alike one other := by
  obtain ⟨bytes, bytes', hone, hother, hne, -⟩ := h
  rw [alike_iff_decode hother, hone]
  exact fun heq => hne (Option.some.inj heq)

theorem exists_scriptHash {n : Nat} {hex : String} (h : Hex.Numeral (2 * n) hex) :
    ∃ key, scriptHash hex = .ok key := by
  obtain ⟨bytes, hbytes, -⟩ := Hex.exists_decode h.1 h.2
  exact ⟨_, scriptHash_eq_ok.2 ⟨bytes, hbytes, rfl⟩⟩

/-- The key of a script shows the hash of its bytes. -/
theorem hash_eq_of_key {bytes bytes' : List UInt8}
    (h : String.ofList (Hex.encode (Sha256.hash bytes).reverse)
      = String.ofList (Hex.encode (Sha256.hash bytes').reverse)) :
    Sha256.hash bytes = Sha256.hash bytes' := by
  have hencode := String.ofList_injective h
  have hdecode := congrArg Hex.decode hencode
  rw [Hex.decode_encode, Hex.decode_encode] at hdecode
  exact List.reverse_injective (Option.some.inj hdecode)

/-- **Scripts have one key exactly if they are one script, letter case aside, or clash.** -/
theorem scriptHash_eq_iff {one other key : String} (h : scriptHash other = .ok key) :
    scriptHash one = .ok key ↔ Alike one other ∨ Clash one other := by
  obtain ⟨bytes', hbytes', rfl⟩ := scriptHash_eq_ok.1 h
  rw [alike_iff_decode hbytes', scriptHash_eq_ok]
  constructor
  · rintro ⟨bytes, hbytes, hkey⟩
    by_cases hsame : bytes = bytes'
    · exact .inl (hsame ▸ hbytes)
    · exact .inr ⟨bytes, bytes', hbytes, hbytes', hsame, hash_eq_of_key hkey⟩
  · rintro (hone | ⟨bytes, other', hone, hother', -, hhash⟩)
    · exact ⟨bytes', hone, rfl⟩
    · obtain rfl := Option.some.inj (hother'.symm.trans hbytes')
      exact ⟨bytes, hone, by rw [hhash]⟩

theorem indexKey_eq {address own : String} (h : toHash address = .ok own) :
    indexKey address = scriptHash (payScript own) := by
  rw [indexKey, h]
  rfl

end ChainExplorer.Address

namespace ChainExplorer.History

open ChainExplorer.Script ChainExplorer.Text

/-! ## The two forms of a script -/

/-- The fields of a disassembly are those of a payment to the hash, letter case aside. -/
def Reads (asm pkh : String) : Prop :=
  ∃ spelled, words asm = Script.payment spelled ∧ Alike spelled pkh

/-- A script pays to a hash in both of its forms, and is of the kind that it shows. -/
structure Pays (script : Script) (pkh : String) : Prop where
  kind : script.kind = classify script.asm
  bytes : Alike script.hex (Address.payScript pkh)
  fields : Reads script.asm pkh

/-- A script pays to a hash in neither of its forms or in both, and is of the kind that it shows. -/
structure Coherent (script : Script) : Prop where
  kind : script.kind = classify script.asm
  agrees : ∀ pkh, Hex.Numeral 40 pkh →
    (Alike script.hex (Address.payScript pkh) ↔ Reads script.asm pkh)

theorem kind_ofForms (hex asm : String) :
    (ofForms hex asm).kind = classify (ofForms hex asm).asm := rfl

/-- The script in its usual spelling pays to the hash, whatever the case of the letters in it. -/
theorem pays_ofForms {spelled pkh : String} (h : Hex.Numeral 40 spelled)
    (halike : Alike spelled pkh) :
    Pays (ofForms (Address.payScript spelled) (Address.payText spelled)) pkh :=
  ⟨kind_ofForms _ _, Address.alike_payScript.2 halike, spelled, Address.words_payText h, halike⟩

theorem Pays.coherent {script : Script} {pkh : String} (h : Pays script pkh) : Coherent script := by
  obtain ⟨spelled, hfields, hspelled⟩ := h.fields
  refine ⟨h.kind, fun other _ => ?_⟩
  have hbytes : Alike script.hex (Address.payScript other) ↔ Alike pkh other :=
    Iff.trans ⟨h.bytes.symm.trans, h.bytes.trans⟩ Address.alike_payScript
  rw [hbytes]
  constructor
  · exact fun halike => ⟨spelled, hfields, hspelled.trans halike⟩
  · rintro ⟨respelled, hother, halike⟩
    obtain rfl : spelled = respelled := by
      have hsame := hfields.symm.trans hother
      simpa [Script.payment] using hsame
    exact hspelled.symm.trans halike

/-! ## Plain payments and their holder -/

theorem held_of_reads {script : Script} {address own : String}
    (hkind : script.kind = classify script.asm) (h : Address.toHash address = .ok own)
    (hreads : Reads script.asm own) :
    script.kind = .plainPay ∧ Holder.ofScript? script = some (.address address) := by
  obtain ⟨spelled, hfields, halike⟩ := hreads
  have hspelled := Address.numeral_of_alike halike (Address.ofHash_of_toHash h).1
  have hplain : script.kind = .plainPay :=
    hkind.trans (kindOfFields_eq_plainPay.2 (isPlainPay_iff.2 ⟨spelled, hfields, hspelled⟩))
  refine ⟨hplain, ?_⟩
  obtain ⟨hex, asm, kind⟩ := script
  cases hplain
  exact (Holder.ofScript?_payment hfields hspelled).2
    ((Address.ofHash_eq_ok_iff h hspelled).2 halike)

/-- **A plain payment is credited to the address of the hash that it reads.** -/
theorem plainPay_held_iff {script : Script} {address own : String}
    (hkind : script.kind = classify script.asm) (h : Address.toHash address = .ok own) :
    script.kind = .plainPay ∧ Holder.ofScript? script = some (.address address) ↔
      Reads script.asm own := by
  refine ⟨?_, held_of_reads hkind h⟩
  rintro ⟨hplain, hholder⟩
  obtain ⟨spelled, hfields, hspelled⟩ :=
    isPlainPay_iff.1 (kindOfFields_eq_plainPay.1 (hkind.symm.trans hplain))
  obtain ⟨hex, asm, kind⟩ := script
  cases hplain
  exact ⟨spelled, hfields, (Address.ofHash_eq_ok_iff h hspelled).1
    ((Holder.ofScript?_payment hfields hspelled).1 hholder)⟩

/-! ## The index -/

/-- The index has an output under the key. -/
def Filed (key : String) (output : TxOutput) : Prop :=
  Address.scriptHash output.script.hex = .ok key

instance (key : String) : DecidablePred (Filed key) := fun _ =>
  inferInstanceAs (Decidable (_ = _))

theorem exists_indexKey_of_toHash {address own : String} (h : Address.toHash address = .ok own) :
    ∃ key, Address.indexKey address = .ok key ∧
      Address.scriptHash (Address.payScript own) = .ok key := by
  obtain ⟨key, hkey⟩ := Address.exists_scriptHash (n := 25)
    (Address.numeral_payScript (Address.ofHash_of_toHash h).1)
  exact ⟨key, (Address.indexKey_eq h).trans hkey, hkey⟩

theorem filed_iff {address own key : String} {output : TxOutput}
    (h : Address.toHash address = .ok own) (hcoherent : Coherent output.script)
    (hkey : Address.scriptHash (Address.payScript own) = .ok key) :
    Filed key output ↔ (output.script.kind = .plainPay ∧ isHeldBy address output = true) ∨
      Address.Clash output.script.hex (Address.payScript own) := by
  rw [Filed, Address.scriptHash_eq_iff hkey, hcoherent.agrees own (Address.ofHash_of_toHash h).1,
    isHeldBy_iff, ← plainPay_held_iff hcoherent.kind h]
  rfl

/-- **The index files what is credited.**

* A script that pays to a hash, whatever the case of its letters in either form, is held by the
  address whose key it is filed under. The script in its usual spelling is one.
* Every address has a key, and what is filed under it are the plain payments that are credited to
  the address, unless a script clashes with the one that pays to it.
* So where none clashes, what an address has among plain payments is the total of what is filed
  under its key. -/
theorem index_files_what_is_credited :
    (∀ pkh, Hex.Numeral 40 pkh →
      Pays (ofForms (Address.payScript pkh) (Address.payText pkh)) pkh ∧
      ∀ script, Pays script pkh → ∃ address key,
        Holder.ofScript? script = some (.address address) ∧
          Address.indexKey address = .ok key ∧ Address.scriptHash script.hex = .ok key) ∧
    (∀ address own, Address.toHash address = .ok own →
      ∃ key, Address.indexKey address = .ok key ∧
        (∀ output : TxOutput, Coherent output.script →
          (Filed key output ↔
            (output.script.kind = .plainPay ∧ isHeldBy address output = true) ∨
              Address.Clash output.script.hex (Address.payScript own))) ∧
        ∀ outputs : List TxOutput,
          (∀ output ∈ outputs, Coherent output.script ∧
            ¬ Address.Clash output.script.hex (Address.payScript own)) →
          total (outputs.filter (Filed key))
            = heldBy address (outputs.filter (·.script.kind = .plainPay))) := by
  refine ⟨fun pkh hpkh => ⟨pays_ofForms hpkh rfl, fun script h => ?_⟩, fun address own h => ?_⟩
  · obtain ⟨address, -, hto⟩ := Address.toHash_ofHash hpkh
    obtain ⟨key, hindex, hkey⟩ := exists_indexKey_of_toHash hto
    have hlower : Alike pkh.toLower pkh := Address.toLower_of_toHash hto
    obtain ⟨spelled, hfields, hspelled⟩ := h.fields
    refine ⟨address, key, ?_, hindex, ?_⟩
    · exact (held_of_reads h.kind hto ⟨spelled, hfields, hspelled.trans hlower.symm⟩).2
    · exact (Address.scriptHash_eq_iff hkey).2
        (.inl (h.bytes.trans (Address.alike_payScript.2 hlower).symm))
  · obtain ⟨key, hindex, hkey⟩ := exists_indexKey_of_toHash h
    refine ⟨key, hindex, fun output hcoherent => filed_iff h hcoherent hkey, fun outputs hall => ?_⟩
    rw [heldBy, List.filter_filter]
    congr 1
    refine List.filter_congr fun output hmem => ?_
    obtain ⟨hcoherent, hclash⟩ := hall output hmem
    rw [Bool.eq_iff_iff, Bool.and_eq_true, decide_eq_true_iff, decide_eq_true_iff,
      filed_iff h hcoherent hkey, or_iff_left hclash, and_comm]

def payerKey : String := "8b01df4e368ea28f8dc0423bcf7a4923e3a12d307c875e47a0cfbf90b5c39161"

/-- A payment that is written in capitals in both of its forms. -/
def inCapitals : TxOutput :=
  ⟨5, 0, ofForms (Address.payScript Holder.capitals) (Address.payText Holder.capitals)⟩

/-- The code of a token that names the same holder. -/
def inToken : TxOutput := ⟨7, 1, ofForms "51" (Holder.codeAsm "00")⟩

theorem pays_inCapitals : Pays inCapitals.script payerHash :=
  pays_ofForms (Address.isHash_iff.1 (by decide)) (by decide +kernel)

theorem coherent_inToken : Coherent inToken.script := by
  refine ⟨kind_ofForms _ _, fun pkh hpkh => iff_of_false (fun halike => ?_) ?_⟩
  · have hlength := (Address.numeral_of_alike halike (Address.numeral_payScript hpkh)).1
    exact absurd hlength (by decide)
  · rintro ⟨spelled, hfields, -⟩
    have hopening : (words inToken.script.asm).head? = some "OP_DUP" := by rw [hfields]; rfl
    exact absurd hopening (by decide +kernel)

/-- The payment in capitals is filed under the key of the address and credited to it. The token is
credited to it too, and is not filed. -/
theorem index_files_what_is_credited_capitals :
    (∃ address key, Holder.ofScript? inCapitals.script = some (.address address) ∧
      Address.indexKey address = .ok key ∧ Filed key inCapitals) ∧
    Address.indexKey payer = .ok payerKey ∧ isHeldBy payer inCapitals = true ∧
    heldBy payer ([inCapitals, inToken].filter (·.script.kind = .plainPay)) = 5 ∧
    ¬ Filed payerKey inToken := by
  obtain ⟨held, filed⟩ := index_files_what_is_credited
  obtain ⟨key, hindex, credited, totals⟩ := filed payer payerHash toHash_payer
  have hown : Address.scriptHash (Address.payScript payerHash) = .ok payerKey := by decide +kernel
  obtain rfl : payerKey = key :=
    Except.ok.inj (hown.symm.trans ((Address.indexKey_eq toHash_payer).symm.trans hindex))
  have hcapitals : Filed payerKey inCapitals :=
    (Address.scriptHash_eq_iff hown).2 (.inl pays_inCapitals.bytes)
  have htoken : ¬ Filed payerKey inToken := by decide +kernel
  have hclash : ¬ Address.Clash inCapitals.script.hex (Address.payScript payerHash) :=
    fun clash => clash.not_alike pays_inCapitals.bytes
  have hplain := ((credited inCapitals pays_inCapitals.coherent).1 hcapitals).resolve_right hclash
  refine ⟨?_, hindex, hplain.2, ?_, htoken⟩
  · exact (held payerHash (Address.ofHash_of_toHash toHash_payer).1).2 _ pays_inCapitals
  · rw [← totals]
    · have hfiled : [inCapitals, inToken].filter (Filed payerKey) = [inCapitals] := by
        simp [hcapitals, htoken]
      rw [hfiled]
      rfl
    · have hapart : ¬ Address.Clash inToken.script.hex (Address.payScript payerHash) :=
        fun clash => htoken ((Address.scriptHash_eq_iff hown).2 (.inr clash))
      simpa using ⟨⟨pays_inCapitals.coherent, hclash⟩, coherent_inToken, hapart⟩

end ChainExplorer.History
