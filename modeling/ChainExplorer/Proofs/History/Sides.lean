import ChainExplorer.Proofs.History.DoubleEntry
import ChainExplorer.Proofs.Script.Label
import Mathlib.Data.List.Dedup
import Mathlib.Data.List.Perm.Basic

/-!
# One label for each holder

The two sides of a record are sets of labels, and a label does not say what made it. As labels tell
holders apart, nothing is lost by that: a side has as many entries as there are distinct holders
among its outputs, and each entry is the label of one of them. Only where nobody holds any of the
outputs does a side show something else, the address that the record is made for
(`labels_tell_holders_apart`).
-/

namespace ChainExplorer.LabelSet

theorem ordered_insert (label : String) {set : LabelSet} (h : set.Pairwise (· < ·)) :
    (insert label set).Pairwise (· < ·) := by
  induction set with
  | nil => exact List.pairwise_singleton _ _
  | cons x xs ih =>
    obtain ⟨hx, hxs⟩ := List.pairwise_cons.1 h
    rw [insert]
    split
    · rename_i hless
      exact List.pairwise_cons.2 ⟨List.forall_mem_cons.2
        ⟨hless, fun y hy => String.lt_trans hless (hx y hy)⟩, h⟩
    · rename_i hnot
      split
      · exact h
      · rename_i hne
        refine List.pairwise_cons.2 ⟨fun y hy => ?_, ih hxs⟩
        rcases mem_insert.1 hy with rfl | hold
        · exact Std.lt_of_le_of_ne (String.not_lt.1 hnot) (Ne.symm hne)
        · exact hx y hold

/-- A set is in strictly increasing order. -/
theorem ordered_ofList (labels : List String) : (ofList labels).Pairwise (· < ·) :=
  List.foldlRecOn labels _ List.Pairwise.nil fun _ h label _ => ordered_insert label h

end ChainExplorer.LabelSet

namespace ChainExplorer.History

/-- The holders of outputs, one for each output that has one. -/
def holders (outputs : List TxOutput) : List Holder := outputs.filterMap holder?

theorem proper_of_mem_holders {outputs : List TxOutput} {holder : Holder}
    (h : holder ∈ holders outputs) : holder.Proper := by
  obtain ⟨output, -, hholder⟩ := List.mem_filterMap.1 h
  exact Holder.proper_of_ofScript? hholder

/-- **Holders that are told apart have labels that are.** -/
theorem nodup_labels (outputs : List TxOutput) :
    ((holders outputs).dedup.map Holder.label).Nodup := by
  refine List.Nodup.map_on (fun one hone other hother heq => ?_) (List.nodup_dedup _)
  exact Holder.label_injective (proper_of_mem_holders (List.mem_dedup.1 hone))
    (proper_of_mem_holders (List.mem_dedup.1 hother)) heq

theorem perm_labels (outputs : List TxOutput) :
    (labels outputs).Perm ((holders outputs).dedup.map Holder.label) := by
  have hordered : (labels outputs).Nodup := by
    refine (LabelSet.ordered_ofList _).imp ?_
    rintro one _ hless rfl
    exact String.lt_irrefl one hless
  refine (List.perm_ext_iff_of_nodup hordered (nodup_labels outputs)).2 fun label => ?_
  rw [labels, LabelSet.mem_ofList, List.mem_map, List.mem_map]
  simp only [List.mem_dedup, holders]

/-- The entries of a side of a record: one for each holder of the outputs, or the address where
there is none. -/
structure NamesEach (address : String) (outputs : List TxOutput) (side : LabelSet) : Prop where
  ordered : side.Pairwise (· < ·)
  held : holders outputs ≠ [] → side.Perm ((holders outputs).dedup.map Holder.label)
  unheld : holders outputs = [] → side = [address]

theorem namesEach_party (address : String) (outputs : List TxOutput) :
    NamesEach address outputs (party address outputs) := by
  have hempty : labels outputs = [] ↔ holders outputs = [] := by
    rw [labels_eq_nil, holders, List.filterMap_eq_nil_iff]
  by_cases h : holders outputs = []
  · have hparty : party address outputs = [address] := by
      rw [party, hempty.2 h]
      rfl
    rw [hparty]
    exact ⟨List.pairwise_singleton _ _, fun hsome => absurd h hsome, fun _ => rfl⟩
  · have hparty : party address outputs = labels outputs := by
      rw [party, if_neg]
      rwa [List.isEmpty_iff, hempty]
    rw [hparty]
    exact ⟨LabelSet.ordered_ofList _, fun _ => perm_labels outputs, fun hnone => absurd hnone h⟩

/-- **Labels tell holders apart, and so do records.**

* Whatever two scripts are, in their bytes, their disassembly and the kind that they are said to be
  of, holders of theirs that have one label are one holder.
* A label that is made of a key is no address that is ever accepted.
* A side of a record has one entry for each distinct holder of the outputs on that side, and none
  besides; where there is no holder its only entry is the address that the record is made for. -/
theorem labels_tell_holders_apart :
    (∀ one other h k, Holder.ofScript? one = some h → Holder.ofScript? other = some k →
      h.label = k.label → h = k) ∧
    (∀ (h : Holder) address pkh, h.address? = none → Address.toHash address = .ok pkh →
      h.label ≠ address) ∧
    (∀ tx earlier address record, reconcile tx earlier address = .ok record →
      ∃ taken, List.Forall₂ (Denotes earlier) (points tx) taken ∧
        NamesEach address taken record.senders ∧
        NamesEach address tx.outputs record.recipients) := by
  refine ⟨fun one other h k hone hother => ?_, fun h address pkh hkey => ?_, ?_⟩
  · exact Holder.label_injective (Holder.proper_of_ofScript? hone)
      (Holder.proper_of_ofScript? hother)
  · exact Holder.label_ne_address hkey
  · intro tx earlier address record h
    obtain ⟨taken, htaken, hrecord⟩ := reconcile_eq_ok.1 h
    obtain ⟨-, hsenders, hrecipients⟩ := recordOf_eq_ok hrecord
    refine ⟨taken, htaken, ?_, ?_⟩
    · rw [hsenders]
      exact namesEach_party address taken
    · rw [hrecipients]
      exact namesEach_party address tx.outputs

/-- A pool is paid twice, with change for the payer in between. -/
def refill : Transaction :=
  ⟨"cc", none, 1, 20, [some ⟨"aa", 0⟩],
    [⟨1000000, 0, poolScript⟩, ⟨1990000, 1, payerScript⟩, ⟨2000000, 2, poolScript⟩]⟩

/-- Of the three outputs two are the pool's, so the recipients are two: the payer by its address,
and the pool by a label that is not that address and that no other holder has. -/
theorem labels_tell_holders_apart_refill :
    ∃ record, reconcile refill purse payer = .ok record ∧
      record.senders = [payer] ∧
      record.recipients.Perm ["Pool_or_MS_" ++ payerHash, payer] ∧
      "Pool_or_MS_" ++ payerHash ≠ payer ∧
      ∀ script holder, Holder.ofScript? script = some holder →
        holder.label = "Pool_or_MS_" ++ payerHash → holder = .controlled payerHash := by
  obtain ⟨apart, unaddressed, sides⟩ := labels_tell_holders_apart
  have hne : "Pool_or_MS_" ++ payerHash ≠ payer :=
    unaddressed (.controlled payerHash) payer _ rfl toHash_payer
  obtain ⟨record, hrecord⟩ : ∃ record, reconcile refill purse payer = .ok record := by
    have hmade : ∃ record, recordOf payer refill funding.outputs = .ok record := by
      cases h : recordOf payer refill funding.outputs with
      | error error => exact absurd (recordOf_eq_error.1 ⟨error, h⟩) (by decide)
      | ok record => exact ⟨record, rfl⟩
    obtain ⟨record, hmade⟩ := hmade
    exact ⟨record, reconcile_eq_ok.2 ⟨_, mapM_takenOutput_eq_ok.1 rfl, hmade⟩⟩
  obtain ⟨taken, htaken, senders, recipients⟩ := sides _ _ _ _ hrecord
  obtain rfl : funding.outputs = taken :=
    Except.ok.inj ((rfl : (points refill).mapM (takenOutput purse) = .ok funding.outputs).symm.trans
      (mapM_takenOutput_eq_ok.2 htaken))
  have hgiven : holders funding.outputs = [.address payer] := by
    simp [holders, funding, holder?, holder_payerScript]
  have hmade : holders refill.outputs
      = [.controlled payerHash, .address payer, .controlled payerHash] := by
    simp [holders, refill, holder?, holder_payerScript, holder_poolScript]
  refine ⟨record, hrecord, ?_, ?_, hne, fun script holder hholder hlabel => ?_⟩
  · have hperm := senders.held (by rw [hgiven]; exact List.cons_ne_nil _ _)
    rw [hgiven] at hperm
    exact List.perm_singleton.1 hperm
  · have hperm := recipients.held (by rw [hmade]; exact List.cons_ne_nil _ _)
    rw [hmade] at hperm
    exact hperm.trans (List.Perm.swap _ _ _)
  · exact apart _ _ _ _ hholder holder_poolScript hlabel

end ChainExplorer.History
