import ChainExplorer.Proofs.History.DoubleEntry
import ChainExplorer.Proofs.History.Sequential
import ChainExplorer.Proofs.Transaction.Reader

/-!
# What is shown as unconfirmed

Whether a block holds a transaction is kept twice: as a number of confirmations, and as a block time
that is zero outside a block. Nothing keeps the two in step. A block time that the node leaves out,
does not write as a word or states as zero is zero as well, and records, pages and texts go by the
time alone. So what is shown as unconfirmed is every transaction outside a block and also every one
in a block whose time is not known (`unconfirmed_iff_untimed`), and the second kind does occur
(`confirmed_among_unconfirmed`).
-/

namespace ChainExplorer.Transaction

/-! ## Words of a description -/

/-- The description has a word under a key. -/
def States (raw : Json) (key : String) (n : Nat) : Prop :=
  raw.get? key = some (.int n) ∧ n < wordBound

/-- The description puts the transaction into a block. -/
def Confirmed (raw : Json) : Prop := ∃ n, States raw "confirmations" n ∧ 0 < n

/-- The description has no block time, or zero for it. The other member counts only where the first
cannot be read. -/
def Untimed (raw : Json) : Prop :=
  States raw "blocktime" 0 ∨
    (∀ n, ¬ States raw "blocktime" n) ∧ ∀ n, States raw "time" n → n = 0

theorem States.unique {raw : Json} {key : String} {n m : Nat} (hn : States raw key n)
    (hm : States raw key m) : n = m := by
  have hint : (n : Int) = m := Json.int.inj (Option.some.inj (hn.1.symm.trans hm.1))
  exact Int.ofNat.inj hint

theorem word?_eq_some {raw : Json} {key : String} {w : UInt64} :
    word? raw key = some w ↔ States raw key w.toNat := by
  rw [word?, Option.map_eq_some_iff]
  constructor
  · rintro ⟨n, hn, rfl⟩
    obtain ⟨value, hvalue, hnat⟩ := Option.bind_eq_some_iff.1 hn
    obtain ⟨rfl, hlt⟩ := Json.natural?_eq_some.1 hnat
    rw [States, UInt64.toNat_ofNat_of_lt' hlt]
    exact ⟨hvalue, hlt⟩
  · rintro ⟨hvalue, hlt⟩
    refine ⟨w.toNat, ?_, UInt64.ofNat_toNat⟩
    rw [hvalue, Option.bind_some, Json.natural?_eq_some]
    exact ⟨rfl, hlt⟩

theorem word?_eq_none {raw : Json} {key : String} :
    word? raw key = none ↔ ∀ n, ¬ States raw key n := by
  rw [Option.eq_none_iff_forall_ne_some]
  refine ⟨fun h n hn => ?_, fun h w hw => h _ (word?_eq_some.1 hw)⟩
  refine h (UInt64.ofNat n) (word?_eq_some.2 ?_)
  rwa [UInt64.toNat_ofNat_of_lt' hn.2]

/-- A word that is read as zero is zero or not there. -/
theorem getD_word?_eq_zero {raw : Json} {key : String} :
    (word? raw key).getD 0 = 0 ↔ ∀ n, States raw key n → n = 0 := by
  cases hword : word? raw key with
  | none => simp [word?_eq_none.1 hword]
  | some w =>
    have hw := word?_eq_some.1 hword
    rw [Option.getD_some, ← UInt64.toNat_inj]
    exact ⟨fun hzero n hn => (hn.unique hw).trans hzero, fun h => h _ hw⟩

theorem confirmed_iff {raw : Json} :
    0 < (word? raw "confirmations").getD 0 ↔ Confirmed raw := by
  have hzero := not_congr (@getD_word?_eq_zero raw "confirmations")
  rw [UInt64.pos_iff_ne_zero, Ne, hzero, Confirmed]
  simp [Nat.pos_iff_ne_zero]

theorem untimed_iff {raw : Json} :
    ((word? raw "blocktime").or (word? raw "time")).getD 0 = 0 ↔ Untimed raw := by
  cases hword : word? raw "blocktime" with
  | none =>
    have hnone := word?_eq_none.1 hword
    rw [Option.none_or, getD_word?_eq_zero]
    exact ⟨fun h => .inr ⟨hnone, h⟩, fun h => (h.resolve_left (hnone 0)).2⟩
  | some w =>
    have hw := word?_eq_some.1 hword
    rw [Option.some_or, Option.getD_some, ← UInt64.toNat_inj, UInt64.toNat_zero]
    constructor
    · intro hzero
      exact .inl (hzero ▸ hw)
    · rintro (h | ⟨hnone, -⟩)
      · exact hw.unique h
      · exact absurd hw (hnone _)

theorem readTime_eq_zero {raw : Json} :
    readTime raw ((word? raw "confirmations").getD 0) = 0 ↔ ¬ Confirmed raw ∨ Untimed raw := by
  rw [readTime]
  split
  · rename_i hpos
    rw [untimed_iff]
    simp [confirmed_iff.1 hpos]
  · rename_i hzero
    simp [confirmed_iff.not.1 hzero]

/-- What is read of the two is read from these members and from no others. -/
theorem time_of_ofJson {raw : Json} {tx : Transaction} (h : ofJson raw = .ok tx) :
    tx.confirmations = (word? raw "confirmations").getD 0 ∧
      tx.time = readTime raw tx.confirmations := by
  obtain ⟨inputs, outputs, -, -, -, -, hconfirmations, htime, -, -⟩ := ofJson_eq_ok.1 h
  exact ⟨hconfirmations, htime⟩

end ChainExplorer.Transaction

namespace ChainExplorer.Time

/-- A date has a hyphen in it. -/
theorem utcText_ne_unconfirmedText (seconds : Nat) : utcText seconds ≠ unconfirmedText := by
  intro h
  have hhyphen : '-' ∈ (utcText seconds).toList := by
    rw [utcText, String.toList_ofList]
    simp only [List.mem_append, List.mem_cons, true_or, or_true]
  rw [h] at hhyphen
  exact absurd hhyphen (by decide)

theorem blockTime_eq_unconfirmedText {seconds : UInt64} {text : String}
    (h : blockTime seconds = .ok text) : text = unconfirmedText ↔ seconds = 0 := by
  unfold blockTime at h
  split at h
  · rename_i hzero
    exact ⟨fun _ => hzero, fun _ => (Except.ok.inj h).symm⟩
  · rename_i hne
    split at h
    · obtain rfl := Except.ok.inj h
      exact ⟨fun htext => absurd htext (utcText_ne_unconfirmedText _), fun hz => absurd hz hne⟩
    · split at h <;> cases h

end ChainExplorer.Time

namespace ChainExplorer.History

theorem times_of_reconcile {tx : Transaction} {earlier : Earlier} {address : String}
    {record : Record} (h : reconcile tx earlier address = .ok record) :
    record.timestamp = tx.time ∧ Time.blockTime tx.time = .ok record.utcTime := by
  obtain ⟨taken, -, h⟩ := reconcile_eq_ok.1 h
  rw [recordOf] at h
  split at h
  · cases h
  · rename_i hblock
    obtain rfl := Except.ok.inj h
    exact ⟨rfl, hblock⟩

/-- Where those outside a block come first, they are a front of the list. -/
theorem eq_append_of_ordered {records : List Record}
    (h : records.Pairwise fun a b =>
      a.timestamp = 0 ∨ b.timestamp ≠ 0 ∧ b.timestamp ≤ a.timestamp) :
    records = records.filter (·.timestamp = 0) ++ records.filter (·.timestamp ≠ 0) := by
  induction records with
  | nil => rfl
  | cons record records ih =>
    obtain ⟨hfirst, hlater⟩ := List.pairwise_cons.1 h
    by_cases hzero : record.timestamp = 0
    · simpa [hzero] using ih hlater
    · have hall : ∀ r ∈ records, r.timestamp ≠ 0 :=
        fun r hr => ((hfirst r hr).resolve_left hzero).1
      have hnone : records.filter (·.timestamp = 0) = [] := by
        simpa using hall
      have hevery : records.filter (·.timestamp ≠ 0) = records := by
        simpa using hall
      rw [List.filter_cons_of_neg (by simpa using hzero), hnone,
        List.filter_cons_of_pos (by simpa using hzero), hevery]
      rfl

/-- The front is in the order in which the records were made, since their times are equal. -/
theorem sortRecords_eq_append (records : List Record) :
    ∃ back, sortRecords records = records.filter (·.timestamp = 0) ++ back ∧
      ∀ r ∈ back, r.timestamp ≠ 0 := by
  have harranged := sortRecords_arranges records
  refine ⟨(sortRecords records).filter (·.timestamp ≠ 0), ?_, fun r hr => ?_⟩
  · rw [← harranged.stable 0]
    exact eq_append_of_ordered harranged.ordered
  · simpa using (List.mem_filter.1 hr).2

/-! ## The result -/

/-- **What is shown as unconfirmed is what has no block time**, whatever its confirmations are. Of
every description that is read, and of every record and page that comes of it, the same condition
decides the time, the text and the place at the front of the page: the transaction is outside a
block, or the description of its block has no time other than zero. -/
theorem unconfirmed_iff_untimed {raw : Json} {tx : Transaction}
    (h : Transaction.ofJson raw = .ok tx) :
    (tx.isConfirmed = true ↔ Transaction.Confirmed raw) ∧
    (tx.time = 0 ↔ ¬ Transaction.Confirmed raw ∨ Transaction.Untimed raw) ∧
    ∀ earlier address record, reconcile tx earlier address = .ok record →
      (record.utcTime = Time.unconfirmedText ↔
        ¬ Transaction.Confirmed raw ∨ Transaction.Untimed raw) ∧
      ∀ records, record ∈ records →
        ∃ front back, sortRecords records = front ++ back ∧ (∀ r ∈ front, r.timestamp = 0) ∧
          (∀ r ∈ back, r.timestamp ≠ 0) ∧
          (record ∈ front ↔ ¬ Transaction.Confirmed raw ∨ Transaction.Untimed raw) := by
  obtain ⟨hconfirmations, htime⟩ := Transaction.time_of_ofJson h
  have hzero : tx.time = 0 ↔ ¬ Transaction.Confirmed raw ∨ Transaction.Untimed raw := by
    rw [htime, hconfirmations]
    exact Transaction.readTime_eq_zero
  refine ⟨?_, hzero, fun earlier address record hrecord => ?_⟩
  · rw [Transaction.isConfirmed, hconfirmations, decide_eq_true_iff]
    exact Transaction.confirmed_iff
  · obtain ⟨htimestamp, hblock⟩ := times_of_reconcile hrecord
    rw [← hzero]
    refine ⟨Time.blockTime_eq_unconfirmedText hblock, fun records hmem => ?_⟩
    obtain ⟨back, hsorted, hback⟩ := sortRecords_eq_append records
    refine ⟨_, back, hsorted, fun r hr => ?_, hback, ?_⟩
    · simpa using (List.mem_filter.1 hr).2
    · simp [hmem, htimestamp]

def plainId : String := String.ofList (List.replicate 64 'a')

/-- The description of a transaction without inputs and outputs, with these further members. -/
def described (members : List (String × Json)) : Json :=
  .ofMembers ([("txid", .string plainId), ("vin", .array []), ("vout", .array [])] ++ members)

/-- The transaction of such a description. -/
def plain (confirmations time : UInt64) : Transaction :=
  ⟨plainId, none, confirmations, time, [], []⟩

/-- A transaction in a block, and one that waits for a block and has a time nevertheless: only the
second is shown as unconfirmed, and in front of the first. -/
theorem unconfirmed_iff_untimed_waiting :
    ∃ settled waiting,
      reconcile (plain 3 1700000000) (fun _ => none) "x" = .ok settled ∧
      reconcile (plain 0 0) (fun _ => none) "x" = .ok waiting ∧
      settled.utcTime ≠ Time.unconfirmedText ∧ waiting.utcTime = Time.unconfirmedText ∧
      ∃ front back, sortRecords [settled, waiting] = front ++ back ∧
        waiting ∈ front ∧ settled ∉ front := by
  have hsettled : Transaction.ofJson
      (described [("blocktime", .int 1700000000), ("confirmations", .int 3)])
        = .ok (plain 3 1700000000) := rfl
  have hwaiting : Transaction.ofJson (described [("time", .int 1700000000)])
      = .ok (plain 0 0) := rfl
  obtain ⟨-, hsettledTime, hsettledShown⟩ := unconfirmed_iff_untimed hsettled
  obtain ⟨-, hwaitingTime, hwaitingShown⟩ := unconfirmed_iff_untimed hwaiting
  have htimed := not_congr hsettledTime
  obtain ⟨settled, hsettledRecord⟩ : ∃ record,
      reconcile (plain 3 1700000000) (fun _ => none) "x" = .ok record := ⟨_, rfl⟩
  obtain ⟨waiting, hwaitingRecord⟩ : ∃ record,
      reconcile (plain 0 0) (fun _ => none) "x" = .ok record := ⟨_, rfl⟩
  obtain ⟨hsettledText, -⟩ := hsettledShown _ _ _ hsettledRecord
  obtain ⟨hwaitingText, hplaces⟩ := hwaitingShown _ _ _ hwaitingRecord
  obtain ⟨front, back, hsorted, hfront, -, hplace⟩ := hplaces [settled, waiting] (by simp)
  refine ⟨settled, waiting, hsettledRecord, hwaitingRecord, ?_, ?_, front, back, hsorted, ?_, ?_⟩
  · exact (not_congr hsettledText).2 (htimed.1 (by decide))
  · exact hwaitingText.2 (hwaitingTime.1 rfl)
  · exact hplace.2 (hwaitingTime.1 rfl)
  · intro hmem
    have hzero := hfront settled hmem
    rw [(times_of_reconcile hsettledRecord).1] at hzero
    exact absurd hzero (by decide)

/-- A transaction is in a block by its description, and is shown as unconfirmed and in front of any
that has a time. -/
def ShownWrongly (raw : Json) : Prop :=
  ∃ tx record, Transaction.ofJson raw = .ok tx ∧ tx.isConfirmed = true ∧ tx.time = 0 ∧
    reconcile tx (fun _ => none) "x" = .ok record ∧ record.utcTime = Time.unconfirmedText ∧
    ∀ later, later.timestamp ≠ 0 → sortRecords [later, record] = [record, later]

theorem shownWrongly_of_plain {raw : Json} (h : Transaction.ofJson raw = .ok (plain 3 0)) :
    ShownWrongly raw := by
  refine ⟨plain 3 0, _, h, rfl, rfl, rfl, rfl, fun later hlater => ?_⟩
  simp [sortRecords, List.mergeSort, List.MergeSort.Internal.splitInTwo, mayPrecede, hlater, plain]

/-- It happens where a description has no time at all, and where the time of the block is zero
though there is another. -/
theorem confirmed_among_unconfirmed :
    ShownWrongly (described [("confirmations", .int 3)]) ∧
    ShownWrongly (described
      [("blocktime", .int 0), ("confirmations", .int 3), ("time", .int 1700000000)]) :=
  ⟨shownWrongly_of_plain rfl, shownWrongly_of_plain rfl⟩

end ChainExplorer.History
