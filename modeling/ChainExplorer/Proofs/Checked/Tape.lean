import ChainExplorer.Proofs.Checked.Script
import ChainExplorer.Proofs.Checked.Word
import ChainExplorer.Proofs.Script.Tape

/-!
# Tapes are read within their fields

The fields of a tape are counted once, and a field is cut to its front once, after the test that the
bytes of the front are there and are digits. All later cuts are within that front: its halves, and
the three slots of the balances (`run_balance`).

With the tapes every reader of scripts has been treated, and `readers_stay_within` says of all of
them that no operation is without a result.
-/

namespace ChainExplorer.Checked

open ChainExplorer.Text

def front (name : TapeField) (width : Nat) (field : String) : Reader String :=
  if field.utf8ByteSize < width then throw (.fieldWidth name width field.utf8ByteSize)
  else do
    let first ← Partial.items (bytes field) 0 width
    if first.all isHexByte then Partial.text field 0 width else throw (.invalidHex field)

def balance (balances : String) (slot : Nat) : Reader UInt64 := do
  let start := slot * PoolTape.balanceWidth
  reversedWord (← Partial.text balances start (start + PoolTape.balanceWidth))

def contract (field : String) : Reader String :=
  if (bytes field).all isHexByte then return field else throw (.invalidHex field)

def feeRate (fields : List String) : Reader (Option UInt64) :=
  if 7 ≤ fields.length then do
    return some (← total (PoolTape.rate (← fieldAt fields 5)))
  else return none

def ofFields (fields : List String) : Reader PoolTape :=
  if fields.length < PoolTape.leastFields then
    throw (.fieldCount PoolTape.leastFields fields.length)
  else do
    if (← fieldAt fields 1) ≠ "OP_RETURN" then throw .notPoolTape
    else
      let hashes ← front .partialHashes (2 * PoolTape.hashWidth) (← fieldAt fields 2)
      let balances ← front .balances (3 * PoolTape.balanceWidth) (← fieldAt fields 3)
      let contractId ← contract (← fieldAt fields 4)
      let fee ← feeRate fields
      let lpHash ← Partial.text hashes 0 PoolTape.hashWidth
      let tokenHash ← Partial.text hashes PoolTape.hashWidth hashes.utf8ByteSize
      let lpBalance ← balance balances 0
      let tokenBalance ← balance balances 1
      let baseBalance ← balance balances 2
      return {
        lpPartialHash := lpHash
        tokenPartialHash := tokenHash
        lpBalance, tokenBalance, baseBalance, contractId
        feeRate := fee }

def tape (asm : String) : Reader PoolTape := ofFields (words asm)

def tapeOf (script : Script) : Reader PoolTape :=
  if script.kind ≠ .poolTape then throw .notPoolTape else tape script.asm

theorem run_front (name : TapeField) (width : Nat) (field : String) :
    (front name width field).run = .ok ((PoolTape.front name width field).map String.ofList) := by
  unfold front PoolTape.front
  rw [apply_ite (Except.map String.ofList)]
  refine run_ite Iff.rfl (fun _ => rfl) fun hwide => ?_
  have hwidth : width ≤ (bytes field).length := by
    rw [length_bytes]
    exact Nat.le_of_not_lt hwide
  rw [run_lift_bind (Partial.items_eq_ok.2 ⟨⟨Nat.zero_le _, hwidth⟩, rfl⟩),
    apply_ite (Except.map String.ofList), List.drop_zero, Nat.sub_zero]
  refine run_ite (by rw [bytes, all_isHexByte_take hwidth]) ?_ fun _ => rfl
  intro hhex
  rw [bytes, all_isHexByte_take hwidth] at hhex
  obtain ⟨hlength, hdigits⟩ := Hex.isHexOfLength_iff.1 hhex
  rw [List.length_take] at hlength
  show (liftM (Partial.text field 0 width) : Reader String).run = _
  rw [Partial.text_of_ascii (Nat.zero_le _) (by omega) (ascii_of_digits hdigits)]
  rfl

/-- A front is of so many characters, and these are digits. -/
theorem ascii_of_front {name : TapeField} {width : Nat} {field : String} {cs : List Char}
    (h : PoolTape.front name width field = .ok cs) : cs.length = width ∧ Utf8.Ascii cs := by
  obtain ⟨⟨hwidth, hdigits⟩, rfl⟩ := PoolTape.front_eq_ok.1 h
  exact ⟨List.length_take_of_le hwidth, ascii_of_digits hdigits⟩

theorem run_balance {balances : List Char} (hlength : balances.length = 3 * PoolTape.balanceWidth)
    (hascii : Utf8.Ascii balances) {slot : Nat} (hslot : slot < 3) :
    (balance (String.ofList balances) slot).run = .ok (PoolTape.balance balances slot) := by
  have hstop : slot * PoolTape.balanceWidth + PoolTape.balanceWidth ≤ balances.length := by
    rw [hlength, ← Nat.succ_mul]
    exact Nat.mul_le_mul_right _ hslot
  have hcut : Partial.text (String.ofList balances) (slot * PoolTape.balanceWidth)
      (slot * PoolTape.balanceWidth + PoolTape.balanceWidth)
      = .ok (String.ofList ((balances.drop (slot * PoolTape.balanceWidth)).take
        PoolTape.balanceWidth)) := by
    rw [Partial.text_ofList (Nat.le_add_right _ _) hstop hascii, Nat.add_sub_cancel_left]
  unfold balance
  rw [run_lift_bind hcut]
  exact run_reversedWord _

theorem run_contract (field : String) : (contract field).run = .ok (PoolTape.contract field) := by
  unfold contract PoolTape.contract
  exact run_ite (by rw [bytes, all_isHexByte]) (fun _ => rfl) fun _ => rfl

/-- The sixth field is looked up where there is a seventh. -/
theorem run_feeRate (first marker hashes balances contractId sixth : String) (rest : List String) :
    (feeRate (first :: marker :: hashes :: balances :: contractId :: sixth :: rest)).run
      = .ok ((if rest.isEmpty then none else some sixth).mapM PoolTape.rate) := by
  cases rest with
  | nil => rfl
  | cons seventh rest =>
    rw [feeRate, if_pos (PoolTape.seven_le_length.2 (List.cons_ne_nil _ _))]
    show (total (PoolTape.rate sixth) >>= _).run = .ok ((some sixth).mapM PoolTape.rate)
    rw [ExceptT.run_bind, run_total, Option.mapM_some]
    cases PoolTape.rate sixth <;> rfl

theorem run_ofFields (fields : List String) :
    (ofFields fields).run = .ok (PoolTape.ofFields fields) := by
  match fields with
  | first :: marker :: hashes :: balances :: contractId :: sixth :: rest =>
    rw [PoolTape.ofFields]
    show (if marker ≠ "OP_RETURN" then throw .notPoolTape else _ : Reader PoolTape).run = _
    rw [ite_not]
    refine run_ite Iff.rfl (fun _ => ?_) fun _ => rfl
    rw [PoolTape.ofPayload, run_lift_bind (show fieldAt _ 2 = .ok hashes from rfl)]
    refine run_map_bind (run_front _ _ hashes) fun hashes hhashes => ?_
    rw [run_lift_bind (show fieldAt _ 3 = .ok balances from rfl)]
    refine run_map_bind (run_front _ _ balances) fun balances hbalances => ?_
    rw [run_lift_bind (show fieldAt _ 4 = .ok contractId from rfl)]
    refine run_bind (run_contract contractId) fun contractId _ => ?_
    refine run_bind (run_feeRate ..) fun fee _ => ?_
    obtain ⟨hwidth, hascii⟩ := ascii_of_front hhashes
    obtain ⟨hwidths, hdigits⟩ := ascii_of_front hbalances
    have hhalf : PoolTape.hashWidth ≤ hashes.length := by
      rw [hwidth]
      exact Nat.le_mul_of_pos_left _ (by decide)
    rw [run_lift_bind (Partial.text_ofList (Nat.zero_le _) hhalf hascii),
      run_lift_bind (Partial.text_ofList_to_end hhalf hascii)]
    refine run_bind (run_balance hwidths hdigits (by decide)) fun lp _ => ?_
    refine run_bind (run_balance hwidths hdigits (by decide)) fun token _ => ?_
    exact run_bind (run_balance hwidths hdigits (by decide)) fun base _ => rfl
  | [] | [_] | [_, _] | [_, _, _] | [_, _, _, _] | [_, _, _, _, _] => rfl

theorem run_tape (asm : String) : (tape asm).run = .ok (PoolTape.decode asm) :=
  run_ofFields (words asm)

theorem run_tapeOf (script : Script) : (tapeOf script).run = .ok (PoolTape.ofScript script) := by
  unfold tapeOf PoolTape.ofScript
  cases script.kind with
  | poolTape => exact run_tape script.asm
  | plainPay | multisigPay | tokenCode _ | unknown => rfl

/-- **No reader of scripts comes upon an operation without a result.** Whatever the text is, wherever
a range of it begins and ends and whatever kind a script is said to be of, each subtraction, each
field and each cut has its result, and the reader gives what the reader of characters gives. -/
theorem readers_stay_within (text : String) (start stop : Nat) (script : Script) :
    reverseBytes text start stop = .ok (Script.reverseBytes? text start stop) ∧
    (word text).run = .ok (Script.word text) ∧
    (reversedWord text).run = .ok (Script.reversedWord text) ∧
    (ofCombined text).run = .ok (Address.ofCombined text) ∧
    classify text = .ok (Script.classify text) ∧
    paidHash text = .ok (Script.paidHash? text) ∧
    codeHolder text = .ok (Script.codeHolder? text) ∧
    holder script = .ok (Holder.ofScript? script) ∧
    (tape text).run = .ok (PoolTape.decode text) ∧
    (tapeOf script).run = .ok (PoolTape.ofScript script) :=
  ⟨reverseBytes_eq text start stop, run_word text, run_reversedWord text, run_ofCombined text,
    classify_eq text, paidHash_eq text, codeHolder_eq text, holder_eq script, run_tape text,
    run_tapeOf script⟩

end ChainExplorer.Checked
