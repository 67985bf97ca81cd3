import ChainExplorer.Proofs.History.Run
import ChainExplorer.Proofs.History.Sequential
import ChainExplorer.Proofs.Inevitable
import ChainExplorer.Proofs.Store

/-!
# Inquiries whose servers answer in a fixed way

Here the index has one answer for each script and the node one for each id. When they answer is left
open, and so is when lookups are submitted and taken up. No answer depends on it, so an inquiry can
only come to one outcome, and it does come to it (`comes_to_outcome`).

A store makes no difference as long as all that it holds is what the node would answer. That is an
invariant: what a lookup brings is kept under the id that it asked for, and what is kept is only
moved or forgotten (`Serves.mirrors`).
-/

namespace ChainExplorer

open History

/-! ## Stores that hold what the node would answer -/

/-- What a store holds is in a block and what the lookup of its id brings; no index is kept. -/
structure Store.Mirrors (f : String → LookupResult) (store : Store) : Prop where
  entries : ∀ entry ∈ store.entries, f entry.1 = .ok entry.2 ∧ entry.2.isConfirmed = true
  index : store.index = []

namespace Store.Mirrors

variable {f : String → LookupResult} {store : Store} {txid : String} {tx : Transaction}

theorem empty (f : String → LookupResult) (capacity : Nat) : (empty capacity).Mirrors f where
  entries := by
    intro entry h
    cases h
  index := rfl

theorem touch (h : store.Mirrors f) (htx : f txid = .ok tx) (hc : tx.isConfirmed = true) :
    (store.touch tx txid).Mirrors f where
  entries := by
    intro entry hentry
    rcases mem_touch hentry with rfl | ⟨hold, -⟩
    · exact ⟨htx, hc⟩
    · exact h.entries entry hold
  index := h.index

theorem put (h : store.Mirrors f) (htx : f tx.txid = .ok tx) : (store.put tx).Mirrors f := by
  rw [Store.put]
  split
  · rename_i hc
    exact h.touch htx hc
  · exact h

theorem of_find? (h : store.Mirrors f) (hfind : store.find? txid = some tx) :
    f txid = .ok tx ∧ tx.isConfirmed = true :=
  h.entries _ (mem_of_find? hfind)

theorem get (h : store.Mirrors f) (txid : String) :
    (store.get txid).2.Mirrors f ∧ ∀ tx ∈ (store.get txid).1, f txid = .ok tx := by
  rw [Store.get]
  cases hfind : store.find? txid with
  | none =>
    refine ⟨h, fun tx htx => ?_⟩
    cases htx
  | some found =>
    obtain ⟨hfound, hc⟩ := h.of_find? hfind
    refine ⟨h.touch hfound hc, fun tx htx => ?_⟩
    obtain rfl := Option.some.inj htx
    exact hfound

end Store.Mirrors

namespace History

/-- The outcome of an inquiry, said without any rounds. -/
def outcomeBy (f : String → LookupResult) (index : String → Except QueryError (List Reference))
    (address : String) (page size : Nat) : Except QueryError Page :=
  match Address.indexKey address with
  | .error error => .error (.decode error)
  | .ok key => (index key).map fun references => pageBy f address key references page size

namespace Inquiry

variable {f : String → LookupResult} {index : String → Except QueryError (List Reference)}
  {q r : Inquiry} {e : Event} {asks : List Ask}

/-- What can happen if the index answers as `index` says, each lookup ends as `f` says, and nothing
is cancelled. -/
def Serves (f : String → LookupResult) (index : String → Except QueryError (List Reference))
    (q : Inquiry) : Event → Prop
  | .index answer => answer = index q.indexKey
  | .found number answer =>
    ∀ round, q.round? = some round → FanOut.Faithful f round (.finish number answer)
  | .cancel => False
  | .next | .enter | .start | .quit _ => True

/-- An inquiry goes on. -/
def Turn (f : String → LookupResult) (index : String → Except QueryError (List Reference))
    (q r : Inquiry) : Prop :=
  ∃ e asks, Serves f index q e ∧ q.step? e = some (r, asks)

theorem Serves.ne_cancel (h : Serves f index q e) : e ≠ .cancel := by
  rintro rfl
  exact h

/-! ## What lookups bring -/

theorem store_withRound (round : FanOut String LookupResult) :
    (q.withRound round).store = q.store := by
  unfold withRound
  cases q.stage <;> rfl

theorem store_goOn (stage : Stage) : (q.goOn stage).store = q.store := by
  rw [goOn]
  split <;> rfl

theorem store_proceed : q.proceed.store = q.store := by
  unfold proceed
  split
  · split
    · exact store_goOn _
    · rfl
  · split
    · exact store_goOn _
    · rfl
  · rfl

theorem store_takeIndex (answer : Except QueryError (List Reference)) :
    (q.takeIndex answer).store = q.store := by
  cases answer with
  | error error => rfl
  | ok references => exact store_goOn _

theorem askStore_mirrors (hm : ∀ store ∈ q.store, store.Mirrors f) (txid : String) :
    (∀ store ∈ (q.askStore txid).2.store, store.Mirrors f) ∧
      ∀ tx ∈ (q.askStore txid).1, f txid = .ok tx := by
  rw [askStore]
  cases hstore : q.store with
  | none => simp [hstore]
  | some store =>
    obtain ⟨hget, htx⟩ := (hm store hstore).get txid
    refine ⟨fun other hother => ?_, htx⟩
    obtain rfl := Option.some.inj hother
    exact hget

theorem offer_mirrors (hm : ∀ store ∈ q.store, store.Mirrors f) {answer : LookupResult}
    (ha : ∀ tx, answer = .ok tx → f tx.txid = .ok tx) :
    ∀ store ∈ (q.offer answer).store, store.Mirrors f := by
  cases answer with
  | error error => exact hm
  | ok tx =>
    intro store hstore
    obtain ⟨old, hold, rfl⟩ := Option.map_eq_some_iff.1 hstore
    exact (hm old hold).put (ha tx rfl)

/-- **Each lookup ends as `f` says, with or without a store**, and the store holds nothing else. -/
theorem Serves.mirrors (hf : Carries f) (he : Serves f index q e)
    (hs : q.step? e = some (r, asks)) (hm : ∀ store ∈ q.store, store.Mirrors f) :
    (∀ store ∈ r.store, store.Mirrors f) ∧ ∀ entry ∈ q.endedBy e, entry.2 = f entry.1 := by
  cases hq : q.round? with
  | none =>
    obtain ⟨answer, -, rfl, rfl⟩ := step?_of_round?_eq_none hq he.ne_cancel hs
    rw [store_takeIndex]
    refine ⟨hm, fun entry hentry => ?_⟩
    cases hentry
  | some round =>
    obtain ⟨next, store, ha, rfl⟩ := (step?_iff hq he.ne_cancel).1 ⟨asks, hs⟩
    rw [store_proceed, advanced, store_withRound]
    cases ha with
    | next h => exact ⟨hm, by simp [endedBy]⟩
    | enter h => exact ⟨hm, by simp [endedBy]⟩
    | quit h => exact ⟨hm, by simp [endedBy]⟩
    | asked ht h hnone => exact ⟨(askStore_mirrors hm _).1, by simp [endedBy, hq, ht, hnone]⟩
    | @kept started next task tx ht h hkept hfin =>
      obtain ⟨hstore, htx⟩ := askStore_mirrors hm task.input
      refine ⟨hstore, ?_⟩
      simpa [endedBy, hq, ht, hkept] using (htx tx hkept).symm
    | @found next number answer h =>
      have hfaithful := he round hq
      refine ⟨offer_mirrors hm ?_, by simpa [endedBy, hq] using hfaithful.endedBy⟩
      -- The lookup is a running one, so its answer carries the id that it asked for.
      cases FanOut.happens h with
      | @finish task rest _ hu hx =>
        rintro tx rfl
        have htx := hfaithful task ((mem_of_extract? hx).2 (.inl rfl)) rfl
        rw [hf task.input tx htx.symm]
        exact htx.symm

/-! ## The way to the outcome -/

/-- As long as its round is not over, an inquiry goes on. -/
theorem turn_of_round {round : FanOut String LookupResult} {ids : List String} {log : Lookups}
    (hq : q.round? = some round) (hr : round.Logged ids log) (hd : round.isDone = false) :
    ∃ r, Turn f index q r := by
  have hturn : ∀ {e next store}, Serves f index q e → Advances q round e next store →
      ∃ r, Turn f index q r := by
    intro e next store he ha
    obtain ⟨asks, hs⟩ := (step?_iff hq he.ne_cancel).2 ⟨next, store, ha, rfl⟩
    exact ⟨_, e, asks, he, hs⟩
  rcases hr.progress hd with ⟨e, next, he, hnext⟩ | ⟨task, ht, hfinish⟩
  · simp only [List.mem_cons, List.not_mem_nil, or_false] at he
    rcases he with rfl | rfl | rfl
    · exact hturn (e := .next) trivial (.next hnext)
    · exact hturn (e := .enter) trivial (.enter hnext)
    · obtain ⟨task, ht, hrunning⟩ := nextLookup?_of_start hnext
      cases hstore : (q.askStore task.input).1 with
      | none => exact hturn (e := .start) trivial (.asked ht hnext hstore)
      | some tx =>
        -- What has just been started can end at once.
        have hstarted := hr.event (e := .start) rfl hnext
        obtain ⟨last, hlast⟩ := hstarted.exists_finish hrunning (.ok tx)
        exact hturn (e := .start) trivial (.kept ht hnext hstore hlast)
  · obtain ⟨next, hnext⟩ := hfinish (f task.input)
    have hserves : Serves f index q (.found task.number (f task.input)) := by
      intro other hother
      obtain rfl := Option.some.inj (hq.symm.trans hother)
      exact hr.faithful_finish ht
    exact hturn hserves (.found hnext)

/-- Where the log has what `f` says, what the two rounds have found makes the page that is said
without rounds. -/
theorem pageOf_eq_pageBy (hf : Carries f) {p : Inquiry} {references : List Reference}
    {first second : Lookups} (hlog : ∀ entry ∈ first ++ second, entry.2 = f entry.1)
    (hfirst : (first.map (·.1)).Perm ((p.references references).map (·.txid)))
    (hsecond : (second.map (·.1)).Perm first.found.takenIds) :
    p.pageOf references first.found second.found
      = pageBy f p.address p.indexKey references p.page p.size := by
  have hmap : ∀ {log : Lookups}, (∀ entry ∈ log, entry.2 = f entry.1) →
      log.map (·.2) = (log.map (·.1)).map f := by
    intro log h
    rw [List.map_map]
    exact List.map_congr_left h
  have hone := hmap fun entry h => hlog entry (List.mem_append_left second h)
  have htwo := hmap fun entry h => hlog entry (List.mem_append_right first h)
  refine assemble_eq_pageBy hf p.address p.indexKey references p.page p.size ?_ ?_
  · rw [hone]
    exact hfirst.map f
  · rw [htwo]
    exact hsecond.map f

/-- An inquiry that has its index, and whose lookups have all ended as `f` says. -/
def Served (f : String → LookupResult) (p : Inquiry) (references : List Reference)
    (q : Inquiry) : Prop :=
  ∃ log, Accounted p references q log ∧ (∀ entry ∈ log, entry.2 = f entry.1) ∧
    ∀ store ∈ q.store, store.Mirrors f

section Served

variable {p : Inquiry} {references : List Reference}

theorem Served.turn (hf : Carries f) (hp : p.cancelled = false) (h : Served f p references q)
    (hturn : Turn f index q r) :
    Served f p references r ∧ Prod.Lex (· < ·) (· < ·) r.remaining q.remaining := by
  obtain ⟨log, hacc, hlog, hmirrors⟩ := h
  obtain ⟨e, asks, he, hs⟩ := hturn
  obtain ⟨hkept, hless⟩ := hacc.step hp he.ne_cancel hs
  obtain ⟨hstore, hended⟩ := he.mirrors hf hs hmirrors
  refine ⟨⟨_, hkept, fun entry hentry => ?_, hstore⟩, hless⟩
  rcases List.mem_append.1 hentry with hold | hnew
  · exact hlog entry hold
  · exact hended entry hnew

theorem Served.comes_to_page (hf : Carries f) (hp : p.cancelled = false)
    (h : Served f p references q) : Inevitable (Turn f index)
      (fun q => q.outcome? = some (.ok (pageBy f p.address p.indexKey references p.page p.size)))
      q := by
  -- The rank is lexicographic, as the size of the second round is not known before it begins.
  refine Inevitable.of_rank (Prod.lex Nat.lt_wfRel Nat.lt_wfRel).wf remaining ?_
    (fun _ _ hserved hturn => hserved.turn hf hp hturn) h
  rintro q ⟨log, hacc, hlog, -⟩
  cases hacc with
  | first hr hd => exact .inr (turn_of_round rfl hr hd)
  | second hfirst hr hd => exact .inr (turn_of_round rfl hr hd)
  | done hfirst hsecond =>
    refine .inl ?_
    rw [← pageOf_eq_pageBy hf hlog hfirst hsecond]
    rfl

/-- An inquiry that has not asked for anything yet comes to its page, or ends with the error of the
index. -/
theorem comes_to_page_of_index (hf : Carries f) (hs : p.stage = .index) (hp : p.cancelled = false)
    (hm : ∀ store ∈ p.store, store.Mirrors f) : Inevitable (Turn f index)
      (fun q => q.outcome? = some ((index p.indexKey).map fun references =>
        pageBy f p.address p.indexKey references p.page p.size)) p := by
  have hround : p.round? = none := by
    rw [round?, hs]
  refine .later ⟨p.takeIndex (index p.indexKey), .index (index p.indexKey), [], rfl, ?_⟩ ?_
  · rw [step?, hs]
  rintro r ⟨e, asks, he, hstep⟩
  obtain ⟨answer, -, rfl, rfl⟩ := step?_of_round?_eq_none hround he.ne_cancel hstep
  obtain rfl : answer = index p.indexKey := he
  cases hanswer : index p.indexKey with
  | error error => exact .now rfl
  | ok references =>
    have hserved : Served f p references (p.takeIndex (.ok references)) :=
      ⟨[], .ofIndex hp references, by simp, (store_takeIndex _).symm ▸ hm⟩
    exact hserved.comes_to_page hf hp

end Served

/-- **An inquiry comes to the one outcome that is said without rounds**, whatever the order in which
its lookups end and whatever the store holds already. -/
theorem comes_to_outcome (hf : Carries f) (index : String → Except QueryError (List Reference))
    (config : InquiryConfig) {store : Option Store} (hm : ∀ s ∈ store, s.Mirrors f)
    (address : String) (page size : Nat) :
    Inevitable (Turn f index)
      (fun q => q.outcome? = some (outcomeBy f index address page size))
      (begin config store false address page size).1 := by
  rw [begin, outcomeBy]
  cases Address.indexKey address with
  | error error => exact .now rfl
  | ok key =>
    have hnone : store.bind (·.references? key) = none := by
      cases store with
      | none => rfl
      | some store =>
        rw [Option.bind_some, Store.references?, (hm store rfl).index]
        rfl
    simp only [hnone]
    exact comes_to_page_of_index (p := ⟨config, address, key, page, size, store, false, .index⟩) hf
      rfl rfl hm

end Inquiry

end History

end ChainExplorer
