import ChainExplorer.Proofs.History.Inquiry
import ChainExplorer.Proofs.Trace

/-!
# A store makes no difference

Inquiries one after the other may share a store. What one of them has looked up serves those after
it, or itself in its second round, and gives way to other transactions when there is no room left,
which may be in the middle of an inquiry. None of this can be told from an outcome, as long as the
servers answer in a fixed way (`store_makes_no_difference`): the store is empty at first, and no step
puts anything into it but what the node would answer.
-/

namespace ChainExplorer.History.Inquiry

variable {f : String → LookupResult} {index : String → Except QueryError (List Reference)}
  {capacity : Nat} {q r : Inquiry} {e : Event} {asks : List Ask}

/-- Inquiries one after the other that share a store, which is empty at first. -/
inductive Session (f : String → LookupResult)
    (index : String → Except QueryError (List Reference)) (capacity : Nat) : Inquiry → Prop
  | opened (config : InquiryConfig) (address : String) (page size : Nat) :
      Session f index capacity (begin config (some (.empty capacity)) false address page size).1
  | turn {q r : Inquiry} : Session f index capacity q → Turn f index q r →
      Session f index capacity r
  | again {q : Inquiry} (config : InquiryConfig) (address : String) (page size : Nat) :
      Session f index capacity q → q.outcome?.isSome →
      Session f index capacity (begin config q.store false address page size).1

theorem store_begin (config : InquiryConfig) (store : Option Store) (address : String)
    (page size : Nat) : (begin config store false address page size).1.store = store := by
  rw [begin]
  cases Address.indexKey address with
  | error error => rfl
  | ok key =>
    dsimp only
    split
    · exact store_takeIndex _
    · rfl

/-- An inquiry with a store keeps one. -/
theorem isSome_store (he : e ≠ .cancel) (hs : q.step? e = some (r, asks)) :
    r.store.isSome = q.store.isSome := by
  cases hq : q.round? with
  | none =>
    obtain ⟨answer, -, -, rfl⟩ := step?_of_round?_eq_none hq he hs
    rw [store_takeIndex]
  | some round =>
    obtain ⟨next, store, ha, rfl⟩ := (step?_iff hq he).1 ⟨asks, hs⟩
    have hask : ∀ txid, (q.askStore txid).2.store.isSome = q.store.isSome := by
      intro txid
      rw [askStore]
      cases hstore : q.store with
      | none => exact congrArg Option.isSome hstore
      | some store => rfl
    have hoffer : ∀ answer, (q.offer answer).store.isSome = q.store.isSome := by
      intro answer
      cases answer with
      | error error => rfl
      | ok tx => exact Option.isSome_map
    rw [store_proceed, advanced, store_withRound]
    cases ha with
    | next h => rfl
    | enter h => rfl
    | quit h => rfl
    | asked ht h hs => exact hask _
    | kept ht h hs hfin => exact hask _
    | found h => exact hoffer _

/-- **All along a session, the store holds nothing but what the node would answer.** -/
theorem Session.mirrors (hf : Carries f) (h : Session f index capacity q) :
    ∃ store, q.store = some store ∧ store.Mirrors f := by
  induction h with
  | opened config address page size =>
    exact ⟨_, store_begin config _ address page size, .empty f capacity⟩
  | @turn q r _ hturn ih =>
    obtain ⟨store, hstore, hmirrors⟩ := ih
    obtain ⟨e, asks, he, hs⟩ := hturn
    have hall : ∀ s ∈ q.store, s.Mirrors f := by
      intro s hmem
      rw [hstore] at hmem
      exact Option.some.inj hmem ▸ hmirrors
    have hsome : r.store.isSome := by
      rw [isSome_store he.ne_cancel hs, hstore]
      rfl
    obtain ⟨next, hnext⟩ := Option.isSome_iff_exists.1 hsome
    exact ⟨next, hnext, (he.mirrors hf hs hall).1 next hnext⟩
  | again config address page size _ _ ih =>
    rwa [store_begin]

/-- **Whatever the inquiries of a session leave in the store, the next one comes to the same outcome
as without a store.** All that is ever in the store is in a block and what the node would answer to
its id. -/
theorem store_makes_no_difference (hf : Carries f) (h : Session f index capacity q) :
    (∃ store, q.store = some store ∧
      ∀ entry ∈ store.entries, f entry.1 = .ok entry.2 ∧ entry.2.isConfirmed = true) ∧
    ∀ (config other : InquiryConfig) (address : String) (page size : Nat),
      Inevitable (Turn f index)
        (fun r => r.outcome? = some (outcomeBy f index address page size))
        (begin config q.store false address page size).1 ∧
      Inevitable (Turn f index)
        (fun r => r.outcome? = some (outcomeBy f index address page size))
        (begin other none false address page size).1 := by
  obtain ⟨store, hstore, hmirrors⟩ := h.mirrors hf
  refine ⟨⟨store, hstore, hmirrors.entries⟩, fun config other address page size => ⟨?_, ?_⟩⟩
  · refine comes_to_outcome hf index config (fun s hs => ?_) address page size
    rw [hstore] at hs
    exact Option.some.inj hs ▸ hmirrors
  · refine comes_to_outcome hf index other (fun s hs => ?_) address page size
    cases hs

theorem Session.of_retrace? {events : List Event} {ms : List (Moment Inquiry Event (List Ask))}
    (h : Session f index capacity q) (hr : Trace.retrace? step? q events = some (ms, r))
    (hs : ∀ m ∈ ms, Serves f index m.before m.event) : Session f index capacity r := by
  induction events generalizing q ms with
  | nil =>
    cases hr
    exact h
  | cons e es ih =>
    obtain ⟨out, hstep, hr⟩ := Option.bind_eq_some_iff.1 hr
    obtain ⟨⟨rest, last⟩, hrest, heq⟩ := Option.map_eq_some_iff.1 hr
    cases heq
    rw [List.forall_mem_cons] at hs
    exact ih (h.turn ⟨e, out.2, hs.1, hstep⟩) hrest hs.2

/-- An index with one reference, to new coins. -/
def mintedIndex : String → Except QueryError (List Reference) := fun _ => .ok [⟨"aa", 1⟩]

/-- An inquiry about them that begins with an empty store. -/
def visitor (key : String) : Inquiry :=
  ⟨{}, genesisAddress, key, 0, 10, some (.empty 1), false, .index⟩

/-- What happens to it from the beginning to the end. -/
def visits : List Event :=
  [.index (.ok [⟨"aa", 1⟩]), .next, .next, .start, .found 0 (minted "aa"), .next]

/-- The moments of the inquiry and what it comes to. -/
def visited (key : String) : List (Moment Inquiry Event (List Ask)) × Inquiry :=
  (Trace.retrace? step? (visitor key) visits).getD ([], visitor key)

/-- After one inquiry the store has what it has looked up, and the next comes to the same outcome
with it as without. -/
theorem store_makes_no_difference_visited : ∃ q, Session minted mintedIndex 1 q ∧
    (q.store.map fun store => store.entries.map (·.1)) = some ["aa"] ∧
    (∃ store, q.store = some store ∧
      ∀ entry ∈ store.entries, minted entry.1 = .ok entry.2 ∧ entry.2.isConfirmed = true) ∧
    (∃ shown, outcomeBy minted mintedIndex genesisAddress 0 10 = .ok shown ∧
      shown.records.map (·.txid) = ["aa"]) ∧
    Inevitable (Turn minted mintedIndex)
      (fun r => r.outcome? = some (outcomeBy minted mintedIndex genesisAddress 0 10))
      (begin {} q.store false genesisAddress 0 10).1 ∧
    Inevitable (Turn minted mintedIndex)
      (fun r => r.outcome? = some (outcomeBy minted mintedIndex genesisAddress 0 10))
      (begin {} none false genesisAddress 0 10).1 := by
  obtain ⟨key, hkey⟩ := exists_indexKey
  have hopened : Session minted mintedIndex 1 (visitor key) := by
    have h : Session minted mintedIndex 1
        (begin {} (some (.empty 1)) false genesisAddress 0 10).1 := .opened {} genesisAddress 0 10
    rw [begin, hkey] at h
    exact h
  have retraced : Trace.retrace? step? (visitor key) visits
      = some ((visited key).1, (visited key).2) := rfl
  have hserves : ∀ m ∈ (visited key).1, Serves minted mintedIndex m.before m.event := by
    refine List.forall_iff_forall_mem.1 ⟨rfl, trivial, trivial, trivial, ?_, trivial⟩
    -- There is only one lookup that can end.
    intro round hround task htask
    cases hround
    cases htask with
    | head =>
      intro hnumber
      rfl
    | tail _ hnone => cases hnone
  have h := hopened.of_retrace? retraced hserves
  obtain ⟨hentries, hsame⟩ := store_makes_no_difference carries_minted h
  have hpage : outcomeBy minted mintedIndex genesisAddress 0 10
      = .ok (pageBy minted genesisAddress key [⟨"aa", 1⟩] 0 10) := by
    rw [outcomeBy, hkey]
    rfl
  have hrecord : (entries minted (paginate [⟨"aa", 1⟩] 0 10) genesisAddress).map (·.txid)
      = ["aa"] := by decide +kernel
  have hshown := (sortRecords_arranges
    (entries minted (paginate [⟨"aa", 1⟩] 0 10) genesisAddress)).perm.map (·.txid)
  rw [hrecord] at hshown
  exact ⟨_, h, rfl, hentries, ⟨_, hpage, List.perm_singleton.1 hshown⟩,
    hsame {} {} genesisAddress 0 10⟩

end ChainExplorer.History.Inquiry
