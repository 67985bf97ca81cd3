import ChainExplorer.Proofs.History.Unconfirmed

/-!
# Which output a point means

The outputs of a transaction have numbers, and a point names one of them by its number. Where the
node leaves a number out, the position stands for it, and that is settled when the transaction is
read. A lookup that finds no output under a number goes by the position once more. By then every
output has a number of its own, so this second try can only find an output with another number.

So a point means the output that it names exactly if the description gives that number to an
output (`outpoint_exact_iff_numbered`). Else it is refused where no output stands at that position,
and where one does, its value and its script are taken instead (`spend_of_unnumbered`).
-/

namespace ChainExplorer.Transaction

/-! ## The numbers of a description -/

/-- The description gives this number to the output at a position. -/
def Numbered (output : Json) (position n : Nat) : Prop :=
  output.get? "n" = some (.int n) ∨ output.get? "n" = none ∧ position = n

/-- The description gives this number to one of its outputs. -/
def Numbers (raw : Json) (n : Nat) : Prop :=
  ∃ outputs, (raw.get? "vout").bind Json.array? = some outputs ∧
    ∃ (position : Nat) (output : Json),
      outputs[position]? = some output ∧ Numbered output position n

theorem Numbered.unique {output : Json} {position n m : Nat} (hn : Numbered output position n)
    (hm : Numbered output position m) : n = m := by
  rcases hn with hn | ⟨hnone, rfl⟩
  · rcases hm with hm | ⟨hnone, -⟩
    · exact Int.natCast_inj.1 (Json.int.inj (Option.some.inj (hn.symm.trans hm)))
    · rw [hnone] at hn
      cases hn
  · rcases hm with hm | ⟨-, rfl⟩
    · rw [hnone] at hm
      cases hm
    · rfl

theorem readIndex_eq_ok {output : Json} {position : Nat} {w : UInt32} :
    readIndex output position = .ok w ↔ Numbered output position w.toNat := by
  unfold readIndex Numbered
  cases output.get? "n" with
  | some n => simp [readWord32_eq_ok]
  | none =>
    simp only [reduceCtorEq, false_or, true_and]
    split
    · rename_i hlt
      constructor
      · intro h
        rw [← Except.ok.inj h, UInt32.toNat_ofNat_of_lt' hlt]
      · rintro rfl
        rw [UInt32.ofNat_toNat]
    · rename_i hge
      refine iff_of_false nofun fun h => hge ?_
      rw [h]
      exact w.toNat_lt

theorem outputs_of_ofJson {raw : Json} {tx : Transaction} (h : ofJson raw = .ok tx) :
    ∃ outputs, (raw.get? "vout").bind Json.array? = some outputs ∧
      outputs.zipIdx.length = tx.outputs.length ∧
      ∀ (position : Nat) (output : Json) (made : TxOutput), outputs[position]? = some output →
        tx.outputs[position]? = some made → Numbered output position made.index.toNat := by
  obtain ⟨-, outputs, -, hread, -, -, -, -, -, hall⟩ := ofJson_eq_ok.1 h
  refine ⟨outputs, require_eq_ok.1 hread, hall.length_eq, fun position output own hget hown => ?_⟩
  obtain ⟨hlt, rfl⟩ := List.getElem?_eq_some_iff.1 hget
  obtain ⟨hlt', rfl⟩ := List.getElem?_eq_some_iff.1 hown
  have hat := hall.get (by rwa [List.length_zipIdx]) hlt'
  rw [List.get_eq_getElem, List.getElem_zipIdx, Nat.zero_add] at hat
  exact readIndex_eq_ok.1 (readOutput_eq_ok.1 hat).2.1

/-- An output declares a number exactly if the description gives it that number. -/
theorem exists_index_iff {raw : Json} {tx : Transaction} (h : ofJson raw = .ok tx)
    (vout : UInt32) : (∃ output ∈ tx.outputs, output.index = vout) ↔ Numbers raw vout.toNat := by
  obtain ⟨outputs, houtputs, hlength, hnumbered⟩ := outputs_of_ofJson h
  rw [List.length_zipIdx] at hlength
  constructor
  · rintro ⟨made, hmem, rfl⟩
    obtain ⟨position, hlt, rfl⟩ := List.getElem_of_mem hmem
    have hget := List.getElem?_eq_getElem (hlength.symm ▸ hlt)
    exact ⟨outputs, houtputs, position, _, hget,
      hnumbered position _ _ hget (List.getElem?_eq_getElem hlt)⟩
  · rintro ⟨others, hothers, position, output, hget, hnumber⟩
    obtain rfl := Option.some.inj (houtputs.symm.trans hothers)
    have hlt : position < tx.outputs.length := hlength ▸ (List.getElem?_eq_some_iff.1 hget).1
    refine ⟨tx.outputs[position], List.getElem_mem hlt, ?_⟩
    have hown := hnumbered position output _ hget (List.getElem?_eq_getElem hlt)
    exact UInt32.toNat_inj.1 (hown.unique hnumber)

/-! ## Lookups -/

theorem output?_of_forall_ne {tx : Transaction} {vout : UInt32}
    (h : ∀ output ∈ tx.outputs, output.index ≠ vout) :
    tx.output? vout = tx.outputs[vout.toNat]? := by
  have hnone : tx.outputs.find? (·.index = vout) = none := by
    simpa [List.find?_eq_none] using h
  rw [output?, hnone]

theorem index_of_output? {tx : Transaction} {vout : UInt32} {output : TxOutput}
    (h : tx.output? vout = some output) :
    output.index = vout ↔ ∃ other ∈ tx.outputs, other.index = vout := by
  unfold output? at h
  split at h
  · rename_i hfind
    obtain rfl := Option.some.inj h
    have hindex := List.find?_some hfind
    rw [decide_eq_true_iff] at hindex
    exact iff_of_true hindex ⟨_, List.mem_of_find?_eq_some hfind, hindex⟩
  · rename_i hfind
    have hnone : ∀ other ∈ tx.outputs, other.index ≠ vout := by
      simpa [List.find?_eq_none] using hfind
    refine iff_of_false (hnone output (List.mem_of_getElem? h)) ?_
    rintro ⟨other, hmem, hindex⟩
    exact hnone other hmem hindex

end ChainExplorer.Transaction

namespace ChainExplorer.History

/-- The first point that stands for nothing is what a spend is refused for. -/
theorem reconcile_eq_error_of_taken {spender : Transaction} {earlier : Earlier} {address : String}
    {before after : List OutPoint} {point : OutPoint} {cause : QueryError}
    (hpoints : points spender = before ++ point :: after)
    (hbefore : ∀ other ∈ before, ∃ output, Denotes earlier other output)
    (hpoint : takenOutput earlier point = .error cause) :
    reconcile spender earlier address = .error cause := by
  have htaken : takenOutputs earlier spender = .error cause := by
    refine mapM_eq_error.2 ⟨before, point, after, hpoints, fun other hmem => ?_, hpoint⟩
    obtain ⟨output, houtput⟩ := hbefore other hmem
    exact ⟨output, takenOutput_eq_ok.2 houtput⟩
  rw [reconcile, htaken]
  rfl

/-! ## The result -/

/-- **A point means the output that it names exactly if the description numbers one so.** Where it
does not, the output at that position is meant, which has another number, so that two points can
mean one output; and only where no output stands there is a spend refused. -/
theorem outpoint_exact_iff_numbered {raw : Json} {tx : Transaction}
    (h : Transaction.ofJson raw = .ok tx) :
    (∀ vout output, tx.output? vout = some output →
      (output.index = vout ↔ Transaction.Numbers raw vout.toNat)) ∧
    (∀ vout, ¬ Transaction.Numbers raw vout.toNat →
      tx.output? vout = tx.outputs[vout.toNat]?) ∧
    (∀ one other output, one ≠ other → tx.output? one = some output →
      tx.output? other = some output →
      ¬ Transaction.Numbers raw one.toNat ∨ ¬ Transaction.Numbers raw other.toNat) ∧
    ∀ spender earlier before point after, points spender = before ++ point :: after →
      (∀ first ∈ before, ∃ output, Denotes earlier first output) →
      earlier point.txid = some tx → ¬ Transaction.Numbers raw point.vout.toNat →
      (tx.outputs.length ≤ point.vout.toNat → ∀ address, reconcile spender earlier address
        = .error (.invalidTransaction (.missingOutput point.txid point.vout.toNat))) ∧
      (point.vout.toNat < tx.outputs.length →
        ∃ output, output.index ≠ point.vout ∧ Denotes earlier point output) := by
  have hexact : ∀ vout output, tx.output? vout = some output →
      (output.index = vout ↔ Transaction.Numbers raw vout.toNat) := by
    intro vout output hfound
    rw [Transaction.index_of_output? hfound, Transaction.exists_index_iff h]
  have hfallback : ∀ vout : UInt32, ¬ Transaction.Numbers raw vout.toNat →
      tx.output? vout = tx.outputs[vout.toNat]? := by
    intro vout hunnumbered
    apply Transaction.output?_of_forall_ne
    intro output hmem hindex
    exact hunnumbered ((Transaction.exists_index_iff h vout).1 ⟨output, hmem, hindex⟩)
  refine ⟨hexact, hfallback, fun one other output hne hone hother => ?_, ?_⟩
  · -- If the description gave both numbers, the output would have both.
    rw [← not_and_or]
    rintro ⟨hnumbersOne, hnumbersOther⟩
    apply hne
    rw [← (hexact one output hone).2 hnumbersOne, ← (hexact other output hother).2 hnumbersOther]
  · intro spender earlier before point after hpoints hbefore hknown hunnumbered
    have hoption := hfallback point.vout hunnumbered
    constructor
    · intro hlength address
      rw [List.getElem?_eq_none hlength] at hoption
      apply reconcile_eq_error_of_taken hpoints hbefore
      simp only [takenOutput, hknown, hoption]
    · intro hlength
      rw [List.getElem?_eq_getElem hlength] at hoption
      exact ⟨_, (hexact _ _ hoption).not.2 hunnumbered, tx, hknown, hoption⟩

/-- The description of a transaction with one output, to which it gives the number 1. -/
def skipping : Json :=
  described [("vout", .array [.ofMembers [("value", .string "1"), ("n", .int 1),
    ("scriptPubKey", .ofMembers [("hex", .string "")])]])]

def soleOutput : TxOutput := ⟨1000000, 1, .ofForms "" ""⟩

def skippingTx : Transaction := { plain 0 0 with outputs := [soleOutput] }

/-- A transaction that takes the output under a number of the other, and makes none. -/
def taking (vout : UInt32) : Transaction := { plain 0 0 with inputs := [some ⟨plainId, vout⟩] }

def skippingOnly : Earlier := fun txid => if txid = plainId then some skippingTx else none

theorem ofJson_skipping : Transaction.ofJson skipping = .ok skippingTx := rfl

theorem not_numbers_skipping {vout : UInt32} (h : vout ≠ 1) :
    ¬ Transaction.Numbers skipping vout.toNat := by
  rw [← Transaction.exists_index_iff ofJson_skipping]
  rintro ⟨output, hmem, hindex⟩
  obtain rfl := List.mem_singleton.1 hmem
  exact h hindex.symm

/-- Number 1 is what it is, number 2 is refused, and number 0 is number 1. -/
theorem outpoint_exact_iff_numbered_skipping :
    Transaction.Numbers skipping 1 ∧
    (∀ address, reconcile (taking 2) skippingOnly address
      = .error (.invalidTransaction (.missingOutput plainId 2))) ∧
    ∃ output, output.index ≠ 0 ∧ Denotes skippingOnly ⟨plainId, 0⟩ output := by
  obtain ⟨hexact, -, -, hspend⟩ := outpoint_exact_iff_numbered ofJson_skipping
  have hknown : skippingOnly plainId = some skippingTx := if_pos rfl
  refine ⟨(hexact 1 soleOutput rfl).1 rfl, ?_, ?_⟩
  · exact (hspend (taking 2) skippingOnly [] ⟨plainId, 2⟩ [] rfl nofun hknown
      (not_numbers_skipping (by decide))).1 (by decide)
  · exact (hspend (taking 0) skippingOnly [] ⟨plainId, 0⟩ [] rfl nofun hknown
      (not_numbers_skipping (by decide))).2 (by decide)

/-- A spend of number 0 is accepted where only number 1 is declared. Both numbers mean the one
output, and the value that is counted as taken is the value of that one. -/
theorem spend_of_unnumbered :
    Transaction.ofJson skipping = .ok skippingTx ∧
    skippingTx.output? 0 = some soleOutput ∧ soleOutput.index ≠ 0 ∧
    skippingTx.output? 1 = some soleOutput ∧
    ∃ record, reconcile (taking 0) skippingOnly "x" = .ok record ∧
      record.fee = Amount.display 1000000 :=
  ⟨ofJson_skipping, rfl, by decide, rfl, _, rfl, rfl⟩

end ChainExplorer.History
