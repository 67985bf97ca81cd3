import ChainExplorer.Proofs.Json.Accessors
import ChainExplorer.Proofs.Results
import ChainExplorer.Transaction.Reader

/-!
# When a description is read

Each reader of a part has one lemma that says when it succeeds and with what, and the reader of
whole transactions is opened once, in `ofJson_eq_ok`. What is proved of transactions that come from
the node goes through these and not through the steps of a reader.
-/

namespace ChainExplorer.Transaction

variable {raw : Json}

theorem require_eq_ok {α : Type} {what : String} {value : Option α} {x : α} :
    require what value = .ok x ↔ value = some x := by
  cases value <;> simp [require]

theorem readId_eq_ok {field txid : String} {value : Option Json} :
    readId field value = .ok txid ↔ ∃ text, value.bind Json.string? = some text ∧
      isId text = true ∧ String.ofList (text.toList.map Hex.lower) = txid := by
  rw [readId, bind_eq_ok]
  simp only [require_eq_ok]
  apply exists_congr
  intro text
  rw [and_congr_right_iff]
  intro _
  cases isId text with
  | true => exact ⟨fun h => ⟨rfl, Except.ok.inj h⟩, fun h => congrArg Except.ok h.2⟩
  | false => exact ⟨nofun, nofun⟩

/-- A word of thirty-two bits is read where there is a whole number of that size. -/
theorem readWord32_eq_ok {field : String} {value : Json} {w : UInt32} :
    readWord32 field (some value) = .ok w ↔ value = .int w.toNat := by
  have hhalf : w.toNat < halfWordBound := w.toNat_lt
  have hword : w.toNat < wordBound := Nat.lt_trans hhalf (by decide)
  rw [readWord32, Option.bind_some, bind_eq_ok]
  simp only [require_eq_ok, Json.natural?_eq_some]
  constructor
  · rintro ⟨n, ⟨rfl, -⟩, hread⟩
    split at hread
    · rename_i hlt
      rw [← Except.ok.inj hread, UInt32.toNat_ofNat_of_lt' hlt]
    · cases hread
  · rintro rfl
    refine ⟨w.toNat, ⟨rfl, hword⟩, ?_⟩
    rw [if_pos hhalf, UInt32.ofNat_toNat]
    rfl

theorem readOutput_eq_ok {position : Nat} {output : TxOutput} :
    readOutput raw position = .ok output ↔ readValue raw = .ok output.value ∧
      readIndex raw position = .ok output.index ∧ readScript raw = .ok output.script := by
  simp only [readOutput, bind_eq_ok]
  constructor
  · rintro ⟨value, hvalue, index, hindex, script, hscript, houtput⟩
    obtain rfl := Except.ok.inj houtput
    exact ⟨hvalue, hindex, hscript⟩
  · rintro ⟨hvalue, hindex, hscript⟩
    exact ⟨_, hvalue, _, hindex, _, hscript, rfl⟩

/-- **What is read of a description, part by part.** -/
theorem ofJson_eq_ok {tx : Transaction} : ofJson raw = .ok tx ↔
    ∃ inputs outputs, readArray raw "vin" = .ok inputs ∧ readArray raw "vout" = .ok outputs ∧
      readId "txid" (raw.get? "txid") = .ok tx.txid ∧
      tx.blockHash = (raw.get? "blockhash").bind Json.string? ∧
      tx.confirmations = (word? raw "confirmations").getD 0 ∧
      tx.time = readTime raw tx.confirmations ∧
      List.Forall₂ (fun input read => readInput input = .ok read) inputs tx.inputs ∧
      List.Forall₂ (fun output read => readOutput output.1 output.2 = .ok read) outputs.zipIdx
        tx.outputs := by
  simp only [ofJson, bind_eq_ok, mapM_eq_ok]
  constructor
  · rintro ⟨txid, htxid, ins, hins, outs, houts, inputs, hinputs, outputs, houtputs, htx⟩
    obtain rfl := Except.ok.inj htx
    exact ⟨ins, outs, hins, houts, htxid, rfl, rfl, rfl, hinputs, houtputs⟩
  · rintro ⟨ins, outs, hins, houts, htxid, hblock, hconfirmations, htime, hinputs, houtputs⟩
    refine ⟨_, htxid, ins, hins, outs, houts, _, hinputs, _, houtputs, ?_⟩
    rw [← hconfirmations, ← htime, ← hblock]
    rfl

end ChainExplorer.Transaction
