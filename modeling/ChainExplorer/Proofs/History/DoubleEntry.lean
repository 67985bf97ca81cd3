import ChainExplorer.History.Record
import ChainExplorer.Proofs.Results
import ChainExplorer.Proofs.Script.Address
import Mathlib.Algebra.BigOperators.Ring.Finset

/-!
# Records are double entry

A transaction moves value from the outputs that it takes to those that it makes. Each address is an
account: what an address gains is what is made for it less what is taken from it, and what all
addresses gain together is what is made for addresses less what is taken from addresses
(`sum_gain`). Outputs without an address are on no account; they are named on the sides of a record
all the same, except data carriers, which nobody holds.

A record is refused only where the books cannot be kept: an output that is taken is not known, or
the block time is no date.
-/

namespace ChainExplorer.History

/-! ## Accounts -/

/-- An output is on the account of an address. -/
def OnAccount (address : String) (output : TxOutput) : Prop :=
  holder? output = some (.address address)

instance (address : String) : DecidablePred (OnAccount address) := fun _ =>
  inferInstanceAs (Decidable (_ = _))

/-- The account of an output. -/
def account? (output : TxOutput) : Option String := (holder? output).bind Holder.address?

/-- The value of the outputs that satisfy a condition. -/
def valueOf (p : TxOutput → Prop) [DecidablePred p] (outputs : List TxOutput) : Nat :=
  ((outputs.filter p).map (·.value.toNat)).sum

/-- The sum of the values of outputs. -/
def total : List TxOutput → Nat
  | [] => 0
  | output :: rest => output.value.toNat + total rest

/-- What an address has among outputs. -/
def heldBy (address : String) (outputs : List TxOutput) : Nat :=
  total (outputs.filter (isHeldBy address))

/-- What is made for an address less what is taken from it. -/
def gain (taken made : List TxOutput) (address : String) : Int :=
  (valueOf (OnAccount address) made : Int) - valueOf (OnAccount address) taken

/-- The addresses that some of the outputs are held by. -/
def accounts (outputs : List TxOutput) : Finset String := (outputs.filterMap account?).toFinset

theorem account?_eq_some {output : TxOutput} {address : String} :
    account? output = some address ↔ OnAccount address output := by
  rw [account?, OnAccount, Option.bind_eq_some_iff]
  constructor
  · rintro ⟨holder, hholder, haddress⟩
    cases holder with
    | address a => rw [hholder, ← Option.some.inj haddress]
    | controlled key => cases haddress
    | opaqueScript key => cases haddress
  · exact fun h => ⟨_, h, rfl⟩

theorem mem_accounts {outputs : List TxOutput} {address : String} :
    address ∈ accounts outputs ↔ ∃ output ∈ outputs, OnAccount address output := by
  simp [accounts, account?_eq_some]

theorem valueOf_cons (p : TxOutput → Prop) [DecidablePred p] (output : TxOutput)
    (outputs : List TxOutput) : valueOf p (output :: outputs)
      = (if p output then output.value.toNat else 0) + valueOf p outputs := by
  by_cases h : p output <;> simp [valueOf, h]

theorem isHeldBy_iff {address : String} {output : TxOutput} :
    isHeldBy address output = true ↔ OnAccount address output := by
  rw [isHeldBy, ← account?, decide_eq_true_iff]
  exact account?_eq_some

/-- A side that is gone through output by output adds what the address has on it. -/
theorem foldl_book (address : String) (sign balance : Int) (outputs : List TxOutput) :
    outputs.foldl (book address sign) balance
      = balance + sign * valueOf (OnAccount address) outputs := by
  induction outputs generalizing balance with
  | nil => simp [valueOf]
  | cons output outputs ih =>
    rw [List.foldl_cons, ih, book, valueOf_cons]
    by_cases h : OnAccount address output
    · rw [if_pos (isHeldBy_iff.2 h), if_pos h]
      push_cast
      ring
    · rw [if_neg (mt isHeldBy_iff.1 h), if_neg h, Nat.zero_add]

theorem balanceChange_eq (address : String) (taken made : List TxOutput) :
    balanceChange address taken made = gain taken made address := by
  rw [balanceChange, foldl_book, foldl_book, gain]
  ring

/-- Over accounts that take in every output with an address, each of them is counted once. -/
theorem sum_valueOf {outputs : List TxOutput} {addresses : Finset String}
    (h : accounts outputs ⊆ addresses) :
    ∑ address ∈ addresses, valueOf (OnAccount address) outputs
      = valueOf (fun output => (account? output).isSome) outputs := by
  induction outputs with
  | nil => simp [valueOf]
  | cons output outputs ih =>
    have hrest : accounts outputs ⊆ addresses := by
      intro address hmem
      obtain ⟨other, hother, hon⟩ := mem_accounts.1 hmem
      exact h (mem_accounts.2 ⟨other, List.mem_cons_of_mem output hother, hon⟩)
    simp only [valueOf_cons, Finset.sum_add_distrib, ih hrest]
    congr 1
    -- The output is on one account, which is among those that are summed over, or on none.
    cases ha : account? output with
    | none =>
      refine Finset.sum_eq_zero fun address _ => if_neg fun hon => ?_
      rw [account?_eq_some.2 hon] at ha
      cases ha
    | some owner =>
      have howner : owner ∈ addresses :=
        h (mem_accounts.2 ⟨output, List.mem_cons_self, account?_eq_some.1 ha⟩)
      have hother : ∀ address, OnAccount address output ↔ owner = address := fun address => by
        rw [← account?_eq_some, ha, Option.some.injEq]
      simp [hother, howner]

/-- **What all addresses gain together is what addresses are given less what they give.** -/
theorem sum_gain (taken made : List TxOutput) :
    ∑ address ∈ accounts (taken ++ made), gain taken made address
      = (valueOf (fun output => (account? output).isSome) made : Int)
        - valueOf (fun output => (account? output).isSome) taken := by
  have hmade : accounts made ⊆ accounts (taken ++ made) := by
    intro address h
    obtain ⟨output, hmem, hon⟩ := mem_accounts.1 h
    exact mem_accounts.2 ⟨output, List.mem_append_right taken hmem, hon⟩
  have htaken : accounts taken ⊆ accounts (taken ++ made) := by
    intro address h
    obtain ⟨output, hmem, hon⟩ := mem_accounts.1 h
    exact mem_accounts.2 ⟨output, List.mem_append_left made hmem, hon⟩
  simp only [gain, Finset.sum_sub_distrib]
  rw [← sum_valueOf hmade, ← sum_valueOf htaken]
  push_cast
  rfl

/-- An account that gives or is given something has an output. -/
theorem exists_of_valueOf_pos {p : TxOutput → Prop} [DecidablePred p] {outputs : List TxOutput}
    (h : 0 < valueOf p outputs) : ∃ output ∈ outputs, p output := by
  by_contra hnone
  have hempty : outputs.filter p = [] := by
    rw [List.filter_eq_nil_iff]
    intro output hmem hp
    exact hnone ⟨output, hmem, of_decide_eq_true hp⟩
  simp [valueOf, hempty] at h

/-! ## The sides of a record -/

/-- A side of a record shows the labels of the holders of outputs, or the address if there are
none. -/
def Shows (address : String) (outputs : List TxOutput) (side : LabelSet) : Prop :=
  ∀ label, label ∈ side ↔
    (∃ output ∈ outputs, ∃ holder, holder? output = some holder ∧ holder.label = label) ∨
      label = address ∧ ∀ output ∈ outputs, holder? output = none

theorem mem_labels {outputs : List TxOutput} {label : String} : label ∈ labels outputs ↔
    ∃ output ∈ outputs, ∃ holder, holder? output = some holder ∧ holder.label = label := by
  simp only [labels, LabelSet.mem_ofList, List.mem_map, List.mem_filterMap]
  constructor
  · rintro ⟨holder, ⟨output, hmem, hholder⟩, hlabel⟩
    exact ⟨output, hmem, holder, hholder, hlabel⟩
  · rintro ⟨output, hmem, holder, hholder, hlabel⟩
    exact ⟨holder, ⟨output, hmem, hholder⟩, hlabel⟩

theorem labels_eq_nil {outputs : List TxOutput} :
    labels outputs = [] ↔ ∀ output ∈ outputs, holder? output = none := by
  rw [List.eq_nil_iff_forall_not_mem]
  constructor
  · intro h output hmem
    cases hholder : holder? output with
    | none => rfl
    | some holder => exact absurd (mem_labels.2 ⟨output, hmem, holder, hholder, rfl⟩) (h _)
  · intro h label hlabel
    obtain ⟨output, hmem, holder, hholder, -⟩ := mem_labels.1 hlabel
    rw [h output hmem] at hholder
    cases hholder

theorem shows_party (address : String) (outputs : List TxOutput) :
    Shows address outputs (party address outputs) := by
  intro label
  rw [← mem_labels, ← labels_eq_nil]
  by_cases h : labels outputs = [] <;> simp [party, h]

theorem Shows.ne_nil {address : String} {outputs : List TxOutput} {side : LabelSet}
    (h : Shows address outputs side) : side ≠ [] := by
  rintro rfl
  have hnone : ∀ output ∈ outputs, holder? output = none := by
    intro output hmem
    cases hholder : holder? output with
    | none => rfl
    | some holder =>
      exact absurd ((h _).2 (.inl ⟨output, hmem, holder, hholder, rfl⟩)) List.not_mem_nil
  exact absurd ((h address).2 (.inr ⟨rfl, hnone⟩)) List.not_mem_nil

/-- An address whose account moves on a side is shown there. -/
theorem Shows.mem_of_valueOf_pos {address : String} {outputs : List TxOutput} {side : LabelSet}
    (h : Shows address outputs side) (hpos : 0 < valueOf (OnAccount address) outputs) :
    address ∈ side := by
  obtain ⟨output, hmem, hon⟩ := exists_of_valueOf_pos hpos
  exact (h address).2 (.inl ⟨output, hmem, .address address, hon, rfl⟩)

/-! ## The outputs that are taken -/

/-- What a point stands for: an output of the transaction that is known under its id. -/
def Denotes (earlier : Earlier) (point : OutPoint) (output : TxOutput) : Prop :=
  ∃ prev, earlier point.txid = some prev ∧ prev.output? point.vout = some output

/-- A point that stands for nothing: its transaction is not known, or it neither declares that
number for an output nor has an output at that position. -/
def Dangles (earlier : Earlier) (point : OutPoint) : Prop :=
  earlier point.txid = none ∨ ∃ prev, earlier point.txid = some prev ∧
    (∀ output ∈ prev.outputs, output.index ≠ point.vout) ∧
      prev.outputs.length ≤ point.vout.toNat

theorem output?_eq_none {tx : Transaction} {vout : UInt32} : tx.output? vout = none ↔
    (∀ output ∈ tx.outputs, output.index ≠ vout) ∧ tx.outputs.length ≤ vout.toNat := by
  rw [Transaction.output?]
  cases hfind : tx.outputs.find? (·.index = vout) with
  | none =>
    have hindex : ∀ output ∈ tx.outputs, output.index ≠ vout := by
      simpa [List.find?_eq_none] using hfind
    simpa using fun _ => hindex
  | some output =>
    have hindex : output.index = vout := by simpa using List.find?_some hfind
    simp only [reduceCtorEq, false_iff, not_and]
    intro hnone
    exact absurd hindex (hnone output (List.mem_of_find?_eq_some hfind))

theorem takenOutput_eq_ok {earlier : Earlier} {point : OutPoint} {output : TxOutput} :
    takenOutput earlier point = .ok output ↔ Denotes earlier point output := by
  rw [takenOutput, Denotes]
  cases earlier point.txid with
  | none => simp
  | some prev => cases hfound : prev.output? point.vout <;> simp [hfound]

theorem takenOutput_eq_error {earlier : Earlier} {point : OutPoint} :
    (∃ error, takenOutput earlier point = .error error) ↔ Dangles earlier point := by
  simp only [takenOutput, Dangles, ← output?_eq_none]
  cases earlier point.txid with
  | none => simp
  | some prev => cases hfound : prev.output? point.vout <;> simp [hfound]

/-- The points that the inputs of a transaction name. -/
def points (tx : Transaction) : List OutPoint := tx.inputs.filterMap id

theorem mapM_takenOutput_eq_ok {earlier : Earlier} {points : List OutPoint}
    {taken : List TxOutput} : points.mapM (takenOutput earlier) = .ok taken ↔
      List.Forall₂ (Denotes earlier) points taken := by
  simp only [mapM_eq_ok, takenOutput_eq_ok]

theorem mapM_takenOutput_eq_error {earlier : Earlier} {points : List OutPoint} :
    (∃ error, points.mapM (takenOutput earlier) = .error error) ↔
      ∃ point ∈ points, Dangles earlier point := by
  simp only [exists_mapM_eq_error, takenOutput_eq_error]

/-! ## Records -/

theorem blockTime_eq_error {seconds : UInt64} :
    (∃ fault, Time.blockTime seconds = .error fault) ↔ Time.lastSecond < seconds.toNat := by
  rw [Time.blockTime]
  split
  · rename_i hzero
    simp [hzero]
  · split
    · rename_i hle
      simpa using hle
    · rename_i hlt
      split <;> simpa using hlt

theorem recordOf_eq_ok {address : String} {tx : Transaction} {taken : List TxOutput}
    {record : Record} (h : recordOf address tx taken = .ok record) :
    record.balanceChange = Amount.display (clampWord (gain taken tx.outputs address)) ∧
      record.senders = party address taken ∧ record.recipients = party address tx.outputs := by
  rw [recordOf] at h
  split at h
  · cases h
  · obtain rfl := Except.ok.inj h
    exact ⟨by rw [balanceChange_eq], rfl, rfl⟩

theorem recordOf_eq_error {address : String} {tx : Transaction} {taken : List TxOutput} :
    (∃ error, recordOf address tx taken = .error error) ↔
      Time.lastSecond < tx.time.toNat := by
  rw [← blockTime_eq_error, recordOf]
  cases Time.blockTime tx.time <;> simp

/-- A record is made of the outputs that the points denote. -/
theorem reconcile_eq_ok {tx : Transaction} {earlier : Earlier} {address : String}
    {record : Record} : reconcile tx earlier address = .ok record ↔
      ∃ taken, List.Forall₂ (Denotes earlier) (points tx) taken ∧
        recordOf address tx taken = .ok record := by
  simp only [← mapM_takenOutput_eq_ok]
  rw [reconcile, takenOutputs, points]
  cases (tx.inputs.filterMap id).mapM (takenOutput earlier) <;> simp [Except.bind]

/-- The books of a transaction that takes the given outputs, and what a record shows of them. -/
structure DoubleEntry (tx : Transaction) (taken : List TxOutput) (address : String)
    (record : Record) : Prop where
  booked : ∀ other, balanceChange other taken tx.outputs = gain taken tx.outputs other
  balance : record.balanceChange = Amount.display (clampWord (gain taken tx.outputs address))
  conserved : ∑ other ∈ accounts (taken ++ tx.outputs), gain taken tx.outputs other
    = (valueOf (fun output => (account? output).isSome) tx.outputs : Int)
      - valueOf (fun output => (account? output).isSome) taken
  conserved_booked : ∑ other ∈ accounts (taken ++ tx.outputs), balanceChange other taken tx.outputs
    = (valueOf (fun output => (account? output).isSome) tx.outputs : Int)
      - valueOf (fun output => (account? output).isSome) taken
  senders : Shows address taken record.senders
  recipients : Shows address tx.outputs record.recipients
  named : record.senders ≠ [] ∧ record.recipients ≠ []
  gives : gain taken tx.outputs address < 0 → address ∈ record.senders
  receives : 0 < gain taken tx.outputs address → address ∈ record.recipients

theorem doubleEntry_of_recordOf {address : String} {tx : Transaction} {taken : List TxOutput}
    {record : Record} (h : recordOf address tx taken = .ok record) :
    DoubleEntry tx taken address record := by
  obtain ⟨hbalance, hsenders, hrecipients⟩ := recordOf_eq_ok h
  have senders : Shows address taken record.senders := hsenders ▸ shows_party address taken
  have recipients : Shows address tx.outputs record.recipients :=
    hrecipients ▸ shows_party address tx.outputs
  have hbooked : ∀ other, balanceChange other taken tx.outputs = gain taken tx.outputs other :=
    fun other => balanceChange_eq other taken tx.outputs
  have hconserved := sum_gain taken tx.outputs
  refine ⟨hbooked, hbalance, hconserved, ?_, senders, recipients,
    ⟨senders.ne_nil, recipients.ne_nil⟩, fun hloss => ?_, fun hgain => ?_⟩
  · simp only [hbooked, hconserved]
  · apply senders.mem_of_valueOf_pos
    rw [gain] at hloss
    omega
  · apply recipients.mem_of_valueOf_pos
    rw [gain] at hgain
    omega

/-- **A record keeps the books of its transaction, and only books that cannot be kept are
refused.** -/
theorem reconcile_double_entry (tx : Transaction) (earlier : Earlier) (address : String) :
    (∀ record, reconcile tx earlier address = .ok record →
      ∃ taken, List.Forall₂ (Denotes earlier) (points tx) taken ∧
        DoubleEntry tx taken address record) ∧
    ((∃ error, reconcile tx earlier address = .error error) ↔
      (∃ point, some point ∈ tx.inputs ∧ Dangles earlier point) ∨
        Time.lastSecond < tx.time.toNat) := by
  have hdangles : (∃ point, some point ∈ tx.inputs ∧ Dangles earlier point) ↔
      ∃ error, takenOutputs earlier tx = .error error := by
    rw [takenOutputs, mapM_takenOutput_eq_error]
    simp
  rw [hdangles, reconcile]
  cases htaken : takenOutputs earlier tx with
  | error cause => simp [Except.bind]
  | ok taken =>
    constructor
    · intro record h
      exact ⟨taken, mapM_takenOutput_eq_ok.1 htaken, doubleEntry_of_recordOf h⟩
    · rw [Except.bind, recordOf_eq_error]
      simp

def payerHash : String := "62e907b15cbf27d5425399ebf6f0fb50ebb88f18"

def payer : String := (Address.ofHash payerHash).toOption.getD ""

theorem toHash_payer : Address.toHash payer = .ok payerHash := by
  have hnumeral : Hex.Numeral 40 payerHash := Address.isHash_iff.1 (by decide)
  obtain ⟨address, hof, hto⟩ := Address.toHash_ofHash hnumeral
  have hlower : payerHash.toLower = payerHash := by
    rw [← String.toList_inj, Address.toList_toLower]
    decide
  rwa [hlower, show address = payer by rw [payer, hof]; rfl] at hto

def payerScript : Script :=
  ⟨"", "OP_DUP OP_HASH160 " ++ payerHash ++ " OP_EQUALVERIFY OP_CHECKSIG", .plainPay⟩

def poolScript : Script :=
  ⟨"", "OP_9 OP_PICK OP_TOALTSTACK " ++ payerHash ++ "01 tag", .tokenCode .fungible⟩

theorem holder_payerScript : Holder.ofScript? payerScript = some (.address payer) := by
  have hpaid : Script.paidHash? payerScript.asm = some payerHash := by decide +kernel
  -- The address is not worked out: it is enough that the hash has one.
  obtain ⟨address, haddress⟩ : ∃ address, Address.ofHash payerHash = .ok address := ⟨_, rfl⟩
  have hpayer : payer = address := by rw [payer, haddress]; rfl
  rw [Holder.ofScript?, show payerScript.kind = .plainPay from rfl]
  simp only [Holder.paidAddress?, hpaid, hpayer, Option.bind_some, haddress, Except.toOption]

theorem holder_poolScript : Holder.ofScript? poolScript = some (.controlled payerHash) := by
  decide +kernel

def funding : Transaction := ⟨"aa", none, 2, 10, [none], [⟨5000000, 0, payerScript⟩]⟩

/-- A payment to a pool, with change for the payer. -/
def payment : Transaction :=
  ⟨"bb", none, 1, 20, [some ⟨"aa", 0⟩], [⟨3000000, 0, poolScript⟩, ⟨1990000, 1, payerScript⟩]⟩

def purse : Earlier := fun txid => if txid = "aa" then some funding else none

/-- The payer loses what is paid and the fee, and is named on both sides. -/
theorem reconcile_double_entry_payment :
    ∃ record, reconcile payment purse payer = .ok record ∧
      DoubleEntry payment funding.outputs payer record ∧
      balanceChange payer funding.outputs payment.outputs = -3010000 ∧
      gain funding.outputs payment.outputs payer = -3010000 ∧
      payer ∈ record.senders ∧ payer ∈ record.recipients := by
  obtain ⟨made, refused⟩ := reconcile_double_entry payment purse payer
  have hfunding : (points payment).mapM (takenOutput purse) = .ok funding.outputs := rfl
  have hgain : gain funding.outputs payment.outputs payer = -3010000 := by
    simp [gain, valueOf, OnAccount, holder?, funding, payment, holder_payerScript,
      holder_poolScript]
  cases hrecord : reconcile payment purse payer with
  | error cause =>
    rcases refused.1 ⟨cause, hrecord⟩ with ⟨point, hpoint, hdangles⟩ | hlate
    · have hmem : point ∈ points payment := List.mem_filterMap.2 ⟨_, hpoint, rfl⟩
      obtain ⟨error, herror⟩ := mapM_takenOutput_eq_error.2 ⟨point, hmem, hdangles⟩
      rw [hfunding] at herror
      cases herror
    · exact absurd hlate (by decide)
  | ok record =>
    obtain ⟨taken, htaken, books⟩ := made record hrecord
    rw [mapM_takenOutput_eq_ok.2 htaken] at hfunding
    obtain rfl := Except.ok.inj hfunding
    refine ⟨record, rfl, books, (books.booked payer).trans hgain, hgain, books.gives (by omega), ?_⟩
    exact (books.recipients payer).2
      (.inl ⟨_, List.mem_cons_of_mem _ List.mem_cons_self, _, holder_payerScript, rfl⟩)

end ChainExplorer.History
