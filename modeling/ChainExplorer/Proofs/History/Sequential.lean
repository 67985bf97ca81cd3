import ChainExplorer.History.Inquiry
import ChainExplorer.Proofs.Results
import Mathlib.Data.List.Basic

/-!
# Pages without rounds

What a page shows when every lookup has one fixed answer can be said without any rounds: each
reference of the page stands for at most one record, made of the answer to its own id and of the
answers to the ids that it takes outputs from, and the records are sorted.

Two things stand between this and the page that an inquiry puts together. The answers of a round
come in any order, some of them more than once, and go through a table that is keyed by what each
answer says its id is (`lookup_of_perm`). And the second round asks only for what the first one has
turned up, so the table that it leaves has holes, none of which a record can tell from a failure
(`assemble_eq_pageBy`).
-/

namespace ChainExplorer.History

/-! ## The specification -/

/-- The ids of the transactions whose outputs a transaction takes. -/
def takes (tx : Transaction) : List String := (tx.inputs.filterMap id).map (·.txid)

/-- The transactions of the references whose lookup succeeds. -/
def answered (f : String → LookupResult) (references : List Reference) : List Transaction :=
  references.filterMap fun r => (f r.txid).toOption

/-- What is known of earlier transactions: the answers to the ids that the page takes from. -/
def earlierOf (f : String → LookupResult) (references : List Reference) : Earlier := fun txid =>
  if txid ∈ (answered f references).flatMap takes then (f txid).toOption else none

/-- The record of a reference. -/
def entryOf? (f : String → LookupResult) (references : List Reference) (address : String)
    (r : Reference) : Option Record :=
  (f r.txid).toOption.bind fun tx => (reconcile tx (earlierOf f references) address).toOption

/-- The records of the references, in their order. -/
def entries (f : String → LookupResult) (references : List Reference) (address : String) :
    List Record :=
  references.filterMap (entryOf? f references address)

/-- Records in the order of a page: those outside a block first, then the newest; equal times keep
their order. -/
structure Arranges (shown records : List Record) : Prop where
  perm : shown.Perm records
  ordered : shown.Pairwise fun a b =>
    a.timestamp = 0 ∨ b.timestamp ≠ 0 ∧ b.timestamp ≤ a.timestamp
  stable : ∀ time, shown.filter (·.timestamp = time) = records.filter (·.timestamp = time)

/-- The page that an address has if its index is as given and each lookup ends as `f` says. -/
structure Sequential (f : String → LookupResult) (address indexKey : String)
    (index : List Reference) (page size : Nat) (shown : Page) : Prop where
  total : shown.total = index.length
  records : Arranges shown.records (entries f (paginate index page size) address)
  skipped : shown.skipped + shown.records.length = (paginate index page size).length
  address : shown.address = address
  indexKey : shown.indexKey = indexKey
  page : shown.page = page
  size : shown.size = size

/-! ## The order of a page -/

theorem mayPrecede_iff {a b : UInt64} : mayPrecede a b = true ↔ a = 0 ∨ b ≠ 0 ∧ b ≤ a := by
  simp [mayPrecede]

theorem mayPrecede_trans {a b c : UInt64} (hab : mayPrecede a b = true)
    (hbc : mayPrecede b c = true) : mayPrecede a c = true := by
  rw [mayPrecede_iff] at hab hbc ⊢
  rcases hab with ha | ⟨hb, hba⟩
  · exact Or.inl ha
  · obtain ⟨hc, hcb⟩ := hbc.resolve_left hb
    exact Or.inr ⟨hc, UInt64.le_trans hcb hba⟩

theorem mayPrecede_total (a b : UInt64) : (mayPrecede a b || mayPrecede b a) = true := by
  rw [Bool.or_eq_true, mayPrecede_iff, mayPrecede_iff]
  by_cases ha : a = 0
  · exact Or.inl (Or.inl ha)
  by_cases hb : b = 0
  · exact Or.inr (Or.inl hb)
  rcases UInt64.le_total a b with h | h
  · exact Or.inr (Or.inr ⟨ha, h⟩)
  · exact Or.inl (Or.inr ⟨hb, h⟩)

theorem sortRecords_arranges (records : List Record) : Arranges (sortRecords records) records := by
  have htrans : ∀ a b c : Record, mayPrecede a.timestamp b.timestamp = true →
      mayPrecede b.timestamp c.timestamp = true → mayPrecede a.timestamp c.timestamp = true :=
    fun _ _ _ => mayPrecede_trans
  have htotal : ∀ a b : Record,
      (mayPrecede a.timestamp b.timestamp || mayPrecede b.timestamp a.timestamp) = true :=
    fun _ _ => mayPrecede_total _ _
  have hperm : (sortRecords records).Perm records := List.mergeSort_perm _ _
  refine ⟨hperm, ?_, fun time => ?_⟩
  · exact (List.pairwise_mergeSort htrans htotal records).imp mayPrecede_iff.1
  · -- The records of one time are in order as they are, so sorting keeps them as they are.
    have hsame : (records.filter (·.timestamp = time)).Pairwise
        fun a b => mayPrecede a.timestamp b.timestamp = true := by
      refine List.pairwise_of_forall_mem_list fun a ha b hb => ?_
      have hta : a.timestamp = time := by simpa using (List.mem_filter.1 ha).2
      have htb : b.timestamp = time := by simpa using (List.mem_filter.1 hb).2
      rw [hta, htb]
      simpa using mayPrecede_total time time
    have hsub := (List.sublist_mergeSort htrans htotal hsame List.filter_sublist).filter
      (·.timestamp = time)
    rw [List.filter_filter] at hsub
    simp only [Bool.and_self] at hsub
    exact (hsub.eq_of_length (hperm.filter _).length_eq.symm).symm

/-! ## What a round leaves behind -/

theorem mem_filterMap_toOption {results : List LookupResult} {tx : Transaction} :
    tx ∈ results.filterMap Except.toOption ↔ .ok tx ∈ results := by
  simp only [List.mem_filterMap, toOption_eq_some, exists_eq_right]

/-- A transaction that is kept stands under its id, and what stands under other ids stays. -/
theorem lookup_put (found : Found) (tx : Transaction) (txid : String) :
    (found.put tx).lookup txid = if tx.txid = txid then some tx else found.lookup txid := by
  rw [Found.lookup, Found.put, List.find?_append, List.find?_singleton]
  by_cases h : tx.txid = txid
  · have hnone : (found.filter (·.txid ≠ tx.txid)).find? (·.txid = txid) = none := by
      rw [List.find?_eq_none]
      intro other hother
      simpa [h] using (List.mem_filter.1 hother).2
    rw [hnone, if_pos h, if_pos (decide_eq_true h), Option.none_or]
  · have hsame : (found.filter (·.txid ≠ tx.txid)).find? (·.txid = txid) = found.lookup txid := by
      rw [List.find?_filter, Found.lookup]
      congr 1
      funext other
      by_cases hother : other.txid = txid
      · simp [hother, Ne.symm h]
      · simp [hother]
    rw [hsame, if_neg h, if_neg (by simpa using h), Option.or_none]

theorem lookup_foldl_put (txs : List Transaction) (found : Found) (txid : String) :
    (txs.foldl Found.put found).lookup txid
      = (txs.reverse.find? (·.txid = txid)).or (found.lookup txid) := by
  induction txs generalizing found with
  | nil => rfl
  | cons tx rest ih =>
    rw [List.foldl_cons, ih, lookup_put, List.reverse_cons, List.find?_append, Option.or_assoc,
      List.find?_singleton]
    by_cases h : tx.txid = txid
    · rw [if_pos h, if_pos (decide_eq_true h), Option.some_or]
    · rw [if_neg h, if_neg (by simpa using h), Option.none_or]

/-- What is kept under an id is the last answer that carries it. -/
theorem lookup_ofResults (results : List LookupResult) (txid : String) :
    (Found.ofResults results).lookup txid
      = (results.filterMap Except.toOption).reverse.find? (·.txid = txid) := by
  rw [Found.ofResults, lookup_foldl_put]
  exact Option.or_none

theorem mem_foldl_put {txs : List Transaction} {found : Found} {tx : Transaction}
    (h : tx ∈ txs.foldl Found.put found) : tx ∈ txs ∨ tx ∈ found := by
  induction txs generalizing found with
  | nil => exact Or.inr h
  | cons next rest ih =>
    rcases ih h with hrest | hput
    · exact Or.inl (List.mem_cons_of_mem next hrest)
    · rcases List.mem_append.1 hput with hold | hnew
      · exact Or.inr (List.mem_filter.1 hold).1
      · exact Or.inl (List.mem_singleton.1 hnew ▸ List.mem_cons_self)

theorem mem_of_mem_ofResults {results : List LookupResult} {tx : Transaction}
    (h : tx ∈ Found.ofResults results) : .ok tx ∈ results :=
  mem_filterMap_toOption.1 ((mem_foldl_put h).resolve_right List.not_mem_nil)

/-! ## Rounds whose answers carry the id that was asked for -/

/-- A successful answer carries the id that was asked for. -/
def Carries (f : String → LookupResult) : Prop := ∀ txid tx, f txid = .ok tx → tx.txid = txid

/-- Whatever the order of its answers, a round leaves the answer to each id that it asked for. -/
theorem lookup_of_perm {f : String → LookupResult} (hf : Carries f) {ids : List String}
    {outcomes : List LookupResult} (h : outcomes.Perm (ids.map f)) (txid : String) :
    (Found.ofResults outcomes).lookup txid
      = if txid ∈ ids then (f txid).toOption else none := by
  -- Two answers with one id are the same answer, so it does not matter which one is the last.
  have hanswer : ∀ {tx}, .ok tx ∈ outcomes → tx.txid ∈ ids ∧ f tx.txid = .ok tx := by
    intro tx htx
    obtain ⟨id, hid, hfid⟩ := List.mem_map.1 (h.mem_iff.1 htx)
    obtain rfl := hf id tx hfid
    exact ⟨hid, hfid⟩
  rw [lookup_ofResults]
  cases hfind : (outcomes.filterMap Except.toOption).reverse.find? (·.txid = txid) with
  | some tx =>
    have hid : tx.txid = txid := by simpa using List.find?_some hfind
    obtain ⟨hmem, hftx⟩ := hanswer
      (mem_filterMap_toOption.1 (List.mem_reverse.1 (List.mem_of_find?_eq_some hfind)))
    rw [hid] at hmem hftx
    rw [if_pos hmem, hftx]
    rfl
  | none =>
    split
    · rename_i hid
      cases hftx : f txid with
      | error error => rfl
      | ok tx =>
        have hmem : .ok tx ∈ outcomes := h.mem_iff.2 (hftx ▸ List.mem_map_of_mem hid)
        have hcarries := hf txid tx hftx
        have hnot := List.find?_eq_none.1 hfind tx
          (List.mem_reverse.2 (mem_filterMap_toOption.2 hmem))
        exact absurd (decide_eq_true hcarries) hnot
    · rfl

theorem mem_answered {f : String → LookupResult} {references : List Reference} {tx : Transaction} :
    tx ∈ answered f references ↔ ∃ r ∈ references, f r.txid = .ok tx := by
  simp only [answered, List.mem_filterMap, toOption_eq_some]

/-- A round over the references of a page finds the transactions that are answered. -/
theorem mem_ofResults_of_perm {f : String → LookupResult} (hf : Carries f)
    {references : List Reference} {outcomes : List LookupResult}
    (h : outcomes.Perm ((references.map (·.txid)).map f)) {tx : Transaction} :
    tx ∈ Found.ofResults outcomes ↔ tx ∈ answered f references := by
  rw [mem_answered]
  constructor
  · intro htx
    obtain ⟨id, hid, hfid⟩ := List.mem_map.1 (h.mem_iff.1 (mem_of_mem_ofResults htx))
    obtain ⟨r, hr, rfl⟩ := List.mem_map.1 hid
    exact ⟨r, hr, hfid⟩
  · rintro ⟨r, hr, hfr⟩
    have hlookup := lookup_of_perm hf h r.txid
    rw [if_pos (List.mem_map_of_mem hr), hfr] at hlookup
    exact List.mem_of_find?_eq_some hlookup

theorem mem_takenIds {found : Found} {txid : String} :
    txid ∈ found.takenIds ↔ ∃ tx ∈ found, txid ∈ takes tx := by
  simp only [Found.takenIds, List.mem_eraseDups, List.map_flatMap, List.mem_flatMap, takes]

/-- The second round leaves what the page takes to be known of earlier transactions. -/
theorem lookup_eq_earlierOf {f : String → LookupResult} (hf : Carries f)
    {references : List Reference} {first second : List LookupResult}
    (hfirst : first.Perm ((references.map (·.txid)).map f))
    (hsecond : second.Perm ((Found.ofResults first).takenIds.map f)) :
    (Found.ofResults second).lookup = earlierOf f references := by
  funext txid
  rw [lookup_of_perm hf hsecond, earlierOf]
  refine if_congr ?_ rfl rfl
  simp only [mem_takenIds, mem_ofResults_of_perm hf hfirst, List.mem_flatMap]

/-! ## The page of two rounds -/

/-- The page of an address, given the index and the answers to all lookups. -/
def pageBy (f : String → LookupResult) (address indexKey : String) (index : List Reference)
    (page size : Nat) : Page :=
  let references := paginate index page size
  let records := entries f references address
  { address, indexKey, page, size
    total := index.length
    skipped := references.length - records.length
    records := sortRecords records }

theorem pageBy_sequential (f : String → LookupResult) (address indexKey : String)
    (index : List Reference) (page size : Nat) :
    Sequential f address indexKey index page size
      (pageBy f address indexKey index page size) where
  total := rfl
  records := sortRecords_arranges _
  skipped := by
    simp only [pageBy, sortRecords, List.length_mergeSort]
    exact Nat.sub_add_cancel (List.length_filterMap_le _ _)
  address := rfl
  indexKey := rfl
  page := rfl
  size := rfl

/-- Two rounds lead to that page, whatever the order of their answers. -/
theorem assemble_eq_pageBy {f : String → LookupResult} (hf : Carries f)
    (address indexKey : String) (index : List Reference) (page size : Nat)
    {first second : List LookupResult}
    (hfirst : first.Perm (((paginate index page size).map (·.txid)).map f))
    (hsecond : second.Perm ((Found.ofResults first).takenIds.map f)) :
    assemble address indexKey index page size
        (Found.ofResults first).lookup (Found.ofResults second).lookup
      = pageBy f address indexKey index page size := by
  have hrecords : recordsOf address (Found.ofResults first).lookup (Found.ofResults second).lookup
      (paginate index page size) = entries f (paginate index page size) address := by
    refine List.filterMap_congr fun r hr => ?_
    rw [entryOf?, lookup_of_perm hf hfirst, if_pos (List.mem_map_of_mem hr),
      lookup_eq_earlierOf hf hfirst hsecond]
  rw [assemble, pageBy, hrecords]

/-! ## Failed lookups -/

theorem takenOutputs_congr {earlier other : Earlier} {tx : Transaction}
    (h : ∀ txid ∈ takes tx, earlier txid = other txid) :
    takenOutputs earlier tx = takenOutputs other tx := by
  rw [takenOutputs, takenOutputs]
  rw [takes] at h
  generalize tx.inputs.filterMap id = points at h ⊢
  induction points with
  | nil => rfl
  | cons point rest ih =>
    rw [List.map_cons, List.forall_mem_cons] at h
    rw [List.mapM_cons, List.mapM_cons, ih h.2, takenOutput, takenOutput, h.1]

/-- An earlier transaction that is not known leaves the outputs taken unknown. -/
theorem takenOutputs_unknown {earlier : Earlier} {tx : Transaction} {txid : String}
    (ht : txid ∈ takes tx) (h : earlier txid = none) :
    (takenOutputs earlier tx).toOption = none := by
  obtain ⟨point, hpoint, rfl⟩ := List.mem_map.1 ht
  have hfails : takenOutput earlier point = .error (.notFound point.txid) := by
    rw [takenOutput, h]
  obtain ⟨error, herror⟩ := exists_mapM_eq_error.2 ⟨point, hpoint, _, hfails⟩
  rw [takenOutputs, herror]
  rfl

theorem reconcile_congr {earlier other : Earlier} {tx : Transaction}
    (h : ∀ txid ∈ takes tx, earlier txid = other txid) (address : String) :
    reconcile tx earlier address = reconcile tx other address := by
  rw [reconcile, reconcile, takenOutputs_congr h]

theorem reconcile_unknown {earlier : Earlier} {tx : Transaction} {txid : String}
    (ht : txid ∈ takes tx) (h : earlier txid = none) (address : String) :
    (reconcile tx earlier address).toOption = none := by
  have hunknown := takenOutputs_unknown ht h
  rw [reconcile]
  cases htaken : takenOutputs earlier tx with
  | error error => rfl
  | ok taken =>
    rw [htaken] at hunknown
    cases hunknown

/-- What the page knows under an id that one of its transactions takes from is the answer to it. -/
theorem earlierOf_of_takes {f : String → LookupResult} {references : List Reference}
    {r : Reference} {tx : Transaction} {txid : String} (hr : r ∈ references)
    (hfr : f r.txid = .ok tx) (ht : txid ∈ takes tx) :
    earlierOf f references txid = (f txid).toOption :=
  if_pos (List.mem_flatMap.2 ⟨tx, mem_answered.2 ⟨r, hr, hfr⟩, ht⟩)

/-- Some lookups fail, and the others end as before. -/
def failing (lost : List String) (error : String → QueryError) (f : String → LookupResult) :
    String → LookupResult :=
  fun txid => if txid ∈ lost then .error (error txid) else f txid

theorem Carries.failing {f : String → LookupResult} (hf : Carries f) (lost : List String)
    (error : String → QueryError) : Carries (failing lost error f) := by
  intro txid tx h
  rw [History.failing] at h
  split at h
  · cases h
  · exact hf txid tx h

/-- The lookups that the record of a reference hangs on. -/
def needs (f : String → LookupResult) (r : Reference) : List String :=
  r.txid :: (f r.txid).toOption.toList.flatMap takes

/-- **A failed lookup takes away the records that need it, and no other is changed.** -/
theorem entries_failing (lost : List String) (error : String → QueryError)
    (f : String → LookupResult) (references : List Reference) (address : String) :
    entries (failing lost error f) references address
      = (references.filter fun r => (needs f r).all (· ∉ lost)).filterMap
          (entryOf? f references address) := by
  rw [List.filterMap_filter]
  refine List.filterMap_congr fun r hr => ?_
  by_cases hlost : r.txid ∈ lost
  · rw [if_neg (by simp [needs, hlost]), entryOf?, failing, if_pos hlost]
    rfl
  have hown : failing lost error f r.txid = f r.txid := if_neg hlost
  cases hfr : f r.txid with
  | error cause =>
    rw [entryOf?, entryOf?, hown, hfr]
    split <;> rfl
  | ok tx =>
    have hneeds : needs f r = r.txid :: takes tx := by
      simp [needs, hfr, Except.toOption]
    rw [entryOf?, entryOf?, hown, hfr, hneeds]
    by_cases hall : ∀ txid ∈ takes tx, txid ∉ lost
    · -- Fewer transactions may be found now, but this one still is, so what it takes is asked for.
      rw [if_pos (by simpa [hlost] using hall)]
      have hsame : ∀ txid ∈ takes tx,
          earlierOf (failing lost error f) references txid = earlierOf f references txid := by
        intro txid htaken
        rw [earlierOf_of_takes hr (hown.trans hfr) htaken, earlierOf_of_takes hr hfr htaken,
          failing, if_neg (hall txid htaken)]
      simp only [Except.toOption, Option.bind_some, reconcile_congr hsame]
    · rw [if_neg (by simpa [hlost] using hall)]
      obtain ⟨txid, htaken, hgone⟩ : ∃ txid ∈ takes tx, txid ∈ lost := by simpa using hall
      refine reconcile_unknown htaken ?_ address
      rw [earlierOf_of_takes hr (hown.trans hfr) htaken, failing, if_pos hgone]
      rfl

end ChainExplorer.History
