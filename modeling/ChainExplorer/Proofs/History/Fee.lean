import ChainExplorer.Proofs.History.Unconfirmed

/-!
# The fee of a record

The fee is what a transaction takes less what it makes. The difference is formed in more than a word
and brought into a signed word at the end, like the balance. Its two sides are not: each is counted
in a word that stays at the largest one once it is there, and what is counted after that is lost.

So the fee of a record is the difference of the two sums, except where a side has outgrown a word
and the other side is large enough for the loss to show (`fee_exact_unless_outgrown`). Then it is
always too small, down to no fee at all where both sides have (`fee_of_outgrown_sides`).
-/

namespace ChainExplorer.History

/-! ## Sides -/

theorem foldl_addCapped {sum : Nat} (h : sum < wordBound) (outputs : List TxOutput) :
    outputs.foldl addCapped sum = min (sum + total outputs) (wordBound - 1) := by
  induction outputs generalizing sum with
  | nil =>
    show sum = min (sum + 0) (wordBound - 1)
    omega
  | cons output outputs ih =>
    have hnext : addCapped sum output < wordBound := by
      have hpos : 0 < wordBound := by decide
      rw [addCapped]
      omega
    rw [List.foldl_cons, ih hnext, addCapped, total]
    omega

/-- To stop at the largest word after each output comes to the same as to stop there once. -/
theorem cappedTotal_eq (outputs : List TxOutput) :
    cappedTotal outputs = min (total outputs) (wordBound - 1) := by
  rw [cappedTotal, foldl_addCapped (by decide), Nat.zero_add]

/-- The sides differ, one of them is past the largest word, and the other is large enough for what
is lost to show in a signed word. -/
def Outgrown (spent received : Nat) : Prop :=
  spent ≠ received ∧ (wordBound ≤ spent ∧ signedBound < received ∨
    wordBound ≤ received ∧ signedBound ≤ spent)

theorem not_outgrown_of_lt {spent received : Nat} (hspent : spent < wordBound)
    (hreceived : received < wordBound) : ¬ Outgrown spent received := by
  rw [Outgrown]
  omega

section Capped

variable {tx : Transaction} {taken : List TxOutput}

theorem clampWord_fee_of_isCoinbase (h : tx.isCoinbase = true) :
    clampWord (fee tx taken) = 0 := by
  rw [fee, if_pos h]
  rfl

theorem fee_of_not_isCoinbase (h : tx.isCoinbase = false) :
    fee tx taken = (cappedTotal taken : Int) - cappedTotal tx.outputs := by
  rw [fee, h, if_neg Bool.false_ne_true]

theorem clampWord_fee_eq_iff (h : tx.isCoinbase = false) :
    clampWord (fee tx taken) = clampWord ((total taken : Int) - total tx.outputs) ↔
      ¬ Outgrown (total taken) (total tx.outputs) := by
  -- Both clamps and both caps are linear, so the two differences can be compared case by case.
  simp only [fee_of_not_isCoinbase h, cappedTotal_eq, clampWord, Outgrown, wordBound, signedBound]
  omega

/-- What is lost on the side that has outgrown a word is missing in the difference. -/
theorem natAbs_fee_lt (h : tx.isCoinbase = false)
    (hout : Outgrown (total taken) (total tx.outputs)) :
    (clampWord (fee tx taken)).natAbs
      < (clampWord ((total taken : Int) - total tx.outputs)).natAbs := by
  simp only [Outgrown, wordBound, signedBound] at hout
  simp only [fee_of_not_isCoinbase h, cappedTotal_eq, clampWord, wordBound, signedBound]
  omega

theorem fee_of_recordOf {address : String} {record : Record}
    (h : recordOf address tx taken = .ok record) :
    record.fee = Amount.display (clampWord (fee tx taken)) := by
  rw [recordOf] at h
  split at h
  · cases h
  · obtain rfl := Except.ok.inj h
    rfl

end Capped

/-! ## The result -/

/-- **The fee of a record is what is taken less what is made, unless a side has outgrown a word.**
New coins pay none. Otherwise the base units that are shown are the exact difference, brought into a
signed word, if and only if the sides are not outgrown; and where they are, fewer are shown. -/
theorem fee_exact_unless_outgrown {tx : Transaction} {earlier : Earlier} {address : String}
    {record : Record} (h : reconcile tx earlier address = .ok record) :
    ∃ taken, List.Forall₂ (Denotes earlier) (points tx) taken ∧
      record.fee = Amount.display (clampWord (fee tx taken)) ∧
      (tx.isCoinbase = true → clampWord (fee tx taken) = 0) ∧
      (tx.isCoinbase = false →
        (clampWord (fee tx taken) = clampWord ((total taken : Int) - total tx.outputs) ↔
          ¬ Outgrown (total taken) (total tx.outputs)) ∧
        (Outgrown (total taken) (total tx.outputs) →
          (clampWord (fee tx taken)).natAbs
            < (clampWord ((total taken : Int) - total tx.outputs)).natAbs)) := by
  obtain ⟨taken, htaken, hrecord⟩ := reconcile_eq_ok.1 h
  exact ⟨taken, htaken, fee_of_recordOf hrecord, clampWord_fee_of_isCoinbase,
    fun hpays => ⟨clampWord_fee_eq_iff hpays, natAbs_fee_lt hpays⟩⟩

/-- The payer leaves a hundredth of a coin. -/
theorem fee_exact_unless_outgrown_payment :
    ∃ record, reconcile payment purse payer = .ok record ∧
      record.fee = Amount.display 10000 := by
  obtain ⟨record, hrecord⟩ : ∃ record, reconcile payment purse payer = .ok record := ⟨_, rfl⟩
  obtain ⟨taken, htaken, hfee, -, hexact⟩ := fee_exact_unless_outgrown hrecord
  obtain rfl : taken = funding.outputs :=
    Except.ok.inj ((mapM_takenOutput_eq_ok.2 htaken).symm.trans rfl)
  refine ⟨record, hrecord, ?_⟩
  rw [hfee, (hexact rfl).1.2 (not_outgrown_of_lt (by decide) (by decide))]
  rfl

/-- The description of an output with the largest value that is read. -/
def fullOutput : Json :=
  .ofMembers [("value", .string "18446744073709.551615"),
    ("scriptPubKey", .ofMembers [("hex", .string "")])]

def full (index : UInt32) : TxOutput := ⟨18446744073709551615, index, .ofForms "" ""⟩

/-- Two full outputs, and a transaction that takes both and makes one. -/
def hoard : Transaction := { plain 0 0 with outputs := [full 0, full 1] }

def squander : Transaction :=
  { plain 0 0 with inputs := [some ⟨plainId, 0⟩, some ⟨plainId, 1⟩], outputs := [full 0] }

def hoardOnly : Earlier := fun txid => if txid = plainId then some hoard else none

/-- Both can come from the node. Twice the largest value is taken and once is made, so the fee is a
whole output, more than a signed word holds; the record shows none. -/
theorem fee_of_outgrown_sides :
    Transaction.ofJson (described [("vout", .array [fullOutput, fullOutput])]) = .ok hoard ∧
    Transaction.ofJson (described [("vout", .array [fullOutput]),
      ("vin", .array [.ofMembers [("txid", .string plainId), ("vout", .int 0)],
        .ofMembers [("txid", .string plainId), ("vout", .int 1)]])]) = .ok squander ∧
    clampWord ((total hoard.outputs : Int) - total squander.outputs) = signedBound - 1 ∧
    ∃ record, reconcile squander hoardOnly "x" = .ok record ∧
      record.fee = Amount.display 0 ∧ record.fee ≠ Amount.display (signedBound - 1) :=
  ⟨rfl, rfl, rfl, _, rfl, rfl, by decide +kernel⟩

end ChainExplorer.History
