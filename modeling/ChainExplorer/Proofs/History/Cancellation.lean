import ChainExplorer.Proofs.History.Resolution
import ChainExplorer.Proofs.Tasks.Accounting

/-!
# Cancelled inquiries

A cancellation makes a round drop what it has not looked up yet, and a table that misses an id looks
the same whether its lookup has failed or was dropped. What keeps the two apart is that an inquiry
looks at its token whenever it goes on to another stage: a round in which something was dropped is
followed by no other stage but the end, with an error.

So from the moment of its cancellation an inquiry is doomed (`Doomed`): it waits for its index, or
its round drains, while the workers quit one by one and the submitter hands in what nobody will take
up, or it has ended with an error. Nothing leads out of this but the end (`Doomed.comes_to_error`).
If it comes to a page nevertheless, the page was there already when the token was cancelled
(`cancelled_never_partial`).
-/

namespace ChainExplorer.History.Inquiry

variable {q r : Inquiry} {round : FanOut String LookupResult} {e : Event} {asks : List Ask}
  {error : QueryError}

/-! ## What a cancellation leaves -/

/-- The inquiry after its token is cancelled. One that has ended does not notice. -/
def struck (q : Inquiry) : Inquiry := if q.outcome?.isSome then q else q.cancel

/-- Cancelled, and unable to come to a page any more. -/
inductive Doomed (q : Inquiry) : Prop
  | ended {error : QueryError} (h : q.outcome? = some (.error error))
  | waiting (hc : q.cancelled = true) (h : q.stage = .index)
  | draining {round : FanOut String LookupResult} (hc : q.cancelled = true)
      (hq : q.round? = some round) (hu : round.tasks.cancelled = true)
      (ht : round.tasks.Tended) (hd : round.isDone = false)

theorem outcome?_of_round? (hq : q.round? = some round) : q.outcome? = none := by
  unfold round? at hq
  unfold outcome?
  cases hs : q.stage with
  | done outcome => simp [hs] at hq
  | _ => rfl

theorem cancelled_advanced (store : Option Store) (next : FanOut String LookupResult) :
    (q.advanced store next).cancelled = q.cancelled := by
  unfold advanced withRound
  cases q.stage <;> rfl

/-- A round that is over is the end of an inquiry that has been cancelled. -/
theorem proceed_of_cancelled (hc : q.cancelled = true) (hq : q.round? = some round)
    (hd : round.isDone = true) : q.proceed = q.finish (.error .cancelled) := by
  unfold round? at hq
  unfold proceed
  cases hs : q.stage with
  | index => simp [hs] at hq
  | first index current =>
    obtain rfl : current = round := by simpa [hs] using hq
    simp [hd, goOn, hc]
  | second index found current =>
    obtain rfl : current = round := by simpa [hs] using hq
    simp [hd, goOn, hc]
  | done outcome => simp [hs] at hq

theorem cancel_of_round? (hq : q.round? = some round) :
    q.cancel =
      { q.withRound { round with tasks := round.tasks.cancel } with cancelled := true } := by
  rw [cancel, roundStep?_eq hq]
  rfl

theorem cancel_of_round?_eq_none (hq : q.round? = none) :
    q.cancel = { q with cancelled := true } := by
  simp only [cancel, roundStep?, hq, Option.bind_eq_bind, Option.bind_none, Option.getD_none]

/-- A cancellation does not end an inquiry, nor does it undo its end. -/
theorem outcome?_cancel (q : Inquiry) : q.cancel.outcome? = q.outcome? := by
  cases hq : q.round? with
  | none =>
    rw [cancel_of_round?_eq_none hq]
    rfl
  | some round =>
    rw [cancel_of_round? hq, outcome?_of_round? hq]
    exact outcome?_of_round? (round?_withRound hq _)

/-- An inquiry whose round is going on is doomed by a cancellation. -/
theorem doomed_of_round (hq : q.round? = some round) (ht : round.tasks.Tended)
    (hd : round.isDone = false) : Doomed q.cancel := by
  rw [cancel_of_round? hq]
  exact .draining rfl (round?_withRound hq _) rfl ⟨ht.forsaken, ht.entered⟩ hd

/-- So is one that waits for its index. -/
theorem doomed_of_index (hs : q.stage = .index) : Doomed q.cancel := by
  have hq : q.round? = none := by
    rw [round?, hs]
  rw [cancel_of_round?_eq_none hq]
  exact .waiting rfl hs

/-- **From the moment of its cancellation an inquiry is doomed**, unless it has ended. -/
theorem Stands.doomed_cancel {p : Inquiry} {ms : Moments} (h : Stands p ms q)
    (hnone : q.outcome? = none) : Doomed q.cancel := by
  cases h with
  | begun hstage => exact doomed_of_index hstage
  | failed hfailed =>
    rw [hnone] at hfailed
    cases hfailed
  | under hi hacc =>
    generalize lookups ms = log at hacc
    cases hacc with
    | first hr hd => exact doomed_of_round rfl hr.tended hd
    | second hf hr hd => exact doomed_of_round rfl hr.tended hd
    | done => cases hnone

theorem doomed_takeIndex (hc : q.cancelled = true) (answer : Except QueryError (List Reference)) :
    Doomed (q.takeIndex answer) := by
  cases answer with
  | error error => exact .ended rfl
  | ok index =>
    rw [takeIndex, goOn, if_pos hc]
    exact .ended rfl

/-- An inquiry whose token is cancelled before it begins is doomed. -/
theorem doomed_begin (config : InquiryConfig) (store : Option Store) (address : String)
    (page size : Nat) : Doomed (begin config store true address page size).1 := by
  rw [begin]
  cases Address.indexKey address with
  | error error => exact .ended rfl
  | ok key =>
    cases hkept : store.bind (·.references? key) with
    | none =>
      simp only [hkept]
      exact .waiting rfl rfl
    | some index =>
      simp only [hkept]
      exact doomed_takeIndex rfl (.ok index)

/-! ## Nothing leads out of it -/

/-- In a round that has been cancelled nothing is looked up any more. -/
theorem drains_of_advances {next : FanOut String LookupResult} {store : Option Store}
    (hu : round.tasks.cancelled = true) (ht : round.tasks.Tended)
    (ha : Advances q round e next store) : ∃ inner, FanOut.Drains round inner next := by
  have ruledOut {inner : FanOut.Event LookupResult} {next : FanOut String LookupResult}
      (h : round.step? inner = some next) (hc : inner ≠ .cancel) (hn : inner ≠ .next)
      (hq : ∀ party, inner ≠ .quit party) : False := by
    rcases ((FanOut.happens h).drains hc hu ht).event with rfl | ⟨party, rfl⟩
    · exact hn rfl
    · exact hq party rfl
  cases ha with
  | next h => exact ⟨_, (FanOut.happens h).drains nofun hu ht⟩
  | quit h => exact ⟨_, (FanOut.happens h).drains nofun hu ht⟩
  | enter h | found h => exact (ruledOut h nofun nofun nofun).elim
  | asked _ h | kept _ h => exact (ruledOut h nofun nofun nofun).elim

/-- The stages to come, and what is left of the round. -/
def leftover (q : Inquiry) : Nat × Nat :=
  (q.remaining.1, (q.round?.map FanOut.leftover).getD 0)

theorem leftover_of_round? (hq : q.round? = some round) :
    0 < q.remaining.1 ∧ q.leftover = (q.remaining.1, round.leftover) ∧
      ∀ store next, (q.advanced store next).leftover = (q.remaining.1, next.leftover) := by
  have hstages : 0 < q.remaining.1 ∧
      ∀ store next, (q.advanced store next).remaining.1 = q.remaining.1 := by
    unfold round? at hq
    unfold remaining advanced withRound
    cases hs : q.stage with
    | index => simp [hs] at hq
    | first index current => exact ⟨Nat.two_pos, fun _ _ => rfl⟩
    | second index found current => exact ⟨Nat.one_pos, fun _ _ => rfl⟩
    | done outcome => simp [hs] at hq
  refine ⟨hstages.1, ?_, fun store next => ?_⟩
  · rw [leftover, hq]
    rfl
  · rw [leftover, hstages.2, round?_advanced hq]
    rfl

/-- **Whatever happens to a doomed inquiry, it is doomed**, and it is nearer to its end. -/
theorem Doomed.step (h : Doomed q) (he : e ≠ .cancel) (hs : q.step? e = some (r, asks)) :
    Doomed r ∧ Prod.Lex (· < ·) (· < ·) r.leftover q.leftover := by
  cases h with
  | ended hended =>
    rw [step?_of_outcome? hended] at hs
    cases hs
  | waiting hc hstage =>
    have hround : q.round? = none := by
      rw [round?, hstage]
    obtain ⟨answer, -, rfl, rfl⟩ := step?_of_round?_eq_none hround he hs
    refine ⟨doomed_takeIndex hc answer, ?_⟩
    have hindex : q.leftover = (3, 0) := by
      rw [leftover, remaining, hstage, hround]
      rfl
    have hdone : (q.takeIndex answer).leftover = (0, 0) := by
      cases answer with
      | error error => rfl
      | ok index =>
        rw [takeIndex, goOn, if_pos hc]
        rfl
    rw [hindex, hdone]
    exact .left _ _ (by decide)
  | @draining round hc hq hu ht hd =>
    obtain ⟨next, store, ha, rfl⟩ := (step?_iff hq he).1 ⟨asks, hs⟩
    obtain ⟨inner, hdrains⟩ := drains_of_advances hu ht ha
    obtain ⟨hpos, hbefore, hafter⟩ := leftover_of_round? hq
    have hround := round?_advanced hq store next
    have hflag : (q.advanced store next).cancelled = true := (cancelled_advanced store next).trans hc
    cases hdone : next.isDone with
    | true =>
      rw [proceed_of_cancelled hflag hround hdone, hbefore]
      exact ⟨.ended rfl, .left _ _ hpos⟩
    | false =>
      rw [proceed_of_isDone_eq_false hround hdone, hafter, hbefore]
      exact ⟨.draining hflag hround hdrains.cancelled hdrains.tended hdone,
        .right _ hdrains.leftover_lt⟩

/-- A further cancellation changes nothing about that. -/
theorem Doomed.event (h : Doomed q) (hs : q.step? e = some (r, asks)) : Doomed r := by
  by_cases he : e = .cancel
  · subst he
    rw [step?] at hs
    split at hs
    · cases hs
    · rename_i hnone
      cases hs
      cases h with
      | ended hended => simp [hended] at hnone
      | waiting hc hstage => exact doomed_of_index hstage
      | draining hc hq hu ht hd => exact doomed_of_round hq ht hd
  · exact (h.step he hs).1

theorem Doomed.run {ms : Moments} (h : Doomed q) (run : Traced q ms r) : Doomed r :=
  run.keeps (I := fun _ r => Doomed r) h (fun ih hs => ih.event hs) fun _ hd => hd.elim

theorem Doomed.ne_ok (h : Doomed q) (shown : Page) : q.outcome? ≠ some (.ok shown) := by
  intro hshown
  cases h with
  | ended hended =>
    rw [hended] at hshown
    cases hshown
  | waiting hc hstage => simp [outcome?, hstage] at hshown
  | draining hc hq => simp [outcome?_of_round? hq] at hshown

/-! ## The end -/

/-- An inquiry goes on, whatever its servers answer. -/
def Goes (q r : Inquiry) : Prop := ∃ e asks, e ≠ .cancel ∧ q.step? e = some (r, asks)

theorem Doomed.goes_on (h : Doomed q) :
    (∃ error, q.outcome? = some (.error error)) ∨ ∃ r, Goes q r := by
  cases h with
  | ended hended => exact .inl ⟨_, hended⟩
  | waiting hc hstage =>
    have hstep : q.step? (.index (.ok [])) = some (q.takeIndex (.ok []), []) := by
      rw [step?, hstage]
    exact .inr ⟨_, .index (.ok []), [], by simp, hstep⟩
  | draining hc hq hu ht hd =>
    rcases FanOut.drains_on hu ht hd with ⟨next, hnext⟩ | ⟨party, next, hnext⟩
    · obtain ⟨asks, hstep⟩ := (step?_iff hq (by simp)).2 ⟨next, _, .next hnext, rfl⟩
      exact .inr ⟨_, .next, asks, by simp, hstep⟩
    · obtain ⟨asks, hstep⟩ := (step?_iff hq (by simp)).2 ⟨next, _, .quit hnext, rfl⟩
      exact .inr ⟨_, .quit party, asks, by simp, hstep⟩

/-- **A doomed inquiry comes to an error**, whatever happens and whatever its servers answer. -/
theorem Doomed.comes_to_error (h : Doomed q) :
    Inevitable Goes (fun r => ∃ error, r.outcome? = some (.error error)) q := by
  refine Inevitable.of_rank (I := Doomed) (Prod.lex Nat.lt_wfRel Nat.lt_wfRel).wf leftover
    (fun _ hdoomed => hdoomed.goes_on) ?_ h
  rintro q r hdoomed ⟨e, asks, he, hs⟩
  exact hdoomed.step he hs

/-! ## Which error it is -/

/-- Why an inquiry ends with an error: its address has no index key, or its index was answered with
an error, and else because it was cancelled. -/
inductive Reason (address : String) (ms : Moments) : QueryError → Prop
  | address {fault : DecodeError} (h : Address.indexKey address = .error fault) :
      Reason address ms (.decode fault)
  | index {key : String} {error : QueryError} (hkey : Address.indexKey address = .ok key)
      (h : ∃ m ∈ ms, m.event = .index (.error error)) : Reason address ms error
  | cancelled {key : String} (hkey : Address.indexKey address = .ok key)
      (h : ∀ m ∈ ms, ∀ error, m.event ≠ .index (.error error)) : Reason address ms .cancelled

/-- As long as an inquiry has not ended, there is no reason for an error but a cancellation, and an
error that it has ended with has its reason. -/
structure Explained (address : String) (ms : Moments) (q : Inquiry) : Prop where
  going : q.outcome? = none → (∃ key, Address.indexKey address = .ok key) ∧
    ∀ m ∈ ms, ∀ error, m.event ≠ .index (.error error)
  ended : ∀ error, q.outcome? = some (.error error) → Reason address ms error

/-- An inquiry stays in its stage or goes on to another, which is not an error. -/
theorem proceed_cases (q : Inquiry) : q.proceed = q ∨
    ∃ stage, (∀ error, stage ≠ .done (.error error)) ∧ q.proceed = q.goOn stage := by
  unfold proceed
  split
  · split
    · refine .inr ⟨_, ?_, rfl⟩
      nofun
    · exact .inl rfl
  · split
    · refine .inr ⟨_, ?_, rfl⟩
      nofun
    · exact .inl rfl
  · exact .inl rfl

theorem error_of_goOn {stage : Stage} (hs : ∀ error, stage ≠ .done (.error error))
    (h : (q.goOn stage).outcome? = some (.error error)) : error = .cancelled := by
  rw [goOn] at h
  split at h
  · cases h
    rfl
  · cases stage with
    | done outcome =>
      cases h
      exact absurd rfl (hs error)
    | _ => cases h

theorem error_of_proceed (hq : q.outcome? = none) (h : q.proceed.outcome? = some (.error error)) :
    error = .cancelled := by
  rcases q.proceed_cases with hstay | ⟨stage, hstage, hgoes⟩
  · rw [hstay, hq] at h
    cases h
  · rw [hgoes] at h
    exact error_of_goOn hstage h

/-- Only an error of the index and a cancellation end an inquiry with an error. -/
theorem error_of_step (hs : q.step? e = some (r, asks)) :
    (∃ error, e = .index (.error error) ∧ r.outcome? = some (.error error)) ∨
      (∀ error, e ≠ .index (.error error)) ∧
        ∀ error, r.outcome? = some (.error error) → error = .cancelled := by
  by_cases he : e = .cancel
  · subst he
    rw [step?] at hs
    split at hs
    · cases hs
    · rename_i hnone
      cases hs
      refine .inr ⟨by simp, fun error herror => ?_⟩
      rw [outcome?_cancel] at herror
      simp [herror] at hnone
  · cases hq : q.round? with
    | none =>
      obtain ⟨answer, -, rfl, rfl⟩ := step?_of_round?_eq_none hq he hs
      cases answer with
      | error error => exact .inl ⟨error, rfl, rfl⟩
      | ok index => exact .inr ⟨by simp, fun error => error_of_goOn (by simp)⟩
    | some round =>
      obtain ⟨next, store, ha, rfl⟩ := (step?_iff hq he).1 ⟨asks, hs⟩
      have hnone := outcome?_of_round? (round?_advanced hq store next)
      refine .inr ⟨?_, fun error => error_of_proceed hnone⟩
      rintro error rfl
      cases ha

theorem Explained.step {address : String} {ms : Moments} {m : Moment Inquiry Event (List Ask)}
    (h : Explained address ms m.before) (hs : m.before.step? m.event = some (m.after, m.output)) :
    Explained address (ms ++ [m]) m.after := by
  have hnone : m.before.outcome? = none := by
    cases hended : m.before.outcome? with
    | none => rfl
    | some outcome =>
      rw [step?_of_outcome? hended] at hs
      cases hs
  obtain ⟨⟨key, hkey⟩, hquiet⟩ := h.going hnone
  rcases error_of_step hs with ⟨error, hevent, hafter⟩ | ⟨hevent, hafter⟩
  · refine ⟨fun hgoing => ?_, fun other hother => ?_⟩
    · rw [hgoing] at hafter
      cases hafter
    · rw [hother] at hafter
      cases hafter
      exact .index hkey ⟨m, List.mem_append_right _ List.mem_cons_self, hevent⟩
  · have hall : ∀ n ∈ ms ++ [m], ∀ error, n.event ≠ .index (.error error) :=
      List.forall_mem_append.2 ⟨hquiet, List.forall_mem_singleton.2 hevent⟩
    refine ⟨fun _ => ⟨⟨key, hkey⟩, hall⟩, fun error herror => ?_⟩
    rw [hafter error herror]
    exact .cancelled hkey hall

theorem Explained.struck {address : String} {ms : Moments} (h : Explained address ms q) :
    Explained address ms q.struck := by
  rw [Inquiry.struck]
  split
  · exact h
  · rename_i hnone
    have hgoing : q.outcome? = none := by simpa using hnone
    obtain ⟨⟨key, hkey⟩, hquiet⟩ := h.going hgoing
    refine ⟨fun _ => ⟨⟨key, hkey⟩, hquiet⟩, fun error herror => ?_⟩
    rw [outcome?_cancel, hgoing] at herror
    cases herror

theorem explained_begin (config : InquiryConfig) (store : Option Store) (cancelled : Bool)
    (address : String) (page size : Nat) :
    Explained address [] (begin config store cancelled address page size).1 := by
  rw [begin]
  cases hkey : Address.indexKey address with
  | error fault =>
    refine ⟨by simp [outcome?], fun error herror => ?_⟩
    cases herror
    exact .address hkey
  | ok key =>
    have hgoing : (∃ key, Address.indexKey address = .ok key) ∧
        ∀ m ∈ ([] : Moments), ∀ error, m.event ≠ .index (.error error) :=
      ⟨⟨key, hkey⟩, List.forall_mem_nil _⟩
    refine ⟨fun _ => hgoing, fun error herror => ?_⟩
    cases hkept : store.bind (·.references? key) with
    | none =>
      simp only [hkept] at herror
      cases herror
    | some index =>
      simp only [hkept] at herror
      rw [error_of_goOn (by simp) herror]
      exact .cancelled hkey (List.forall_mem_nil _)

theorem Explained.run {address : String} {ms ns : Moments} (h : Explained address ms q)
    (run : Traced q ns r) : Explained address (ms ++ ns) r := by
  refine run.keeps (I := fun ns r => Explained address (ms ++ ns) r) ?_ ?_ fun _ hd => hd.elim
  · rwa [List.append_nil]
  · intro ns m ih hs
    rw [← List.append_assoc]
    exact ih.step hs

/-! ## The two runs -/

/-- A run in which the token is not cancelled. -/
def Undisturbed (q : Inquiry) (ms : Moments) (r : Inquiry) : Prop :=
  Traced q ms r ∧ ∀ m ∈ ms, m.event ≠ .cancel

section Runs

variable {config : InquiryConfig} {store : Option Store} {address : String} {page size : Nat}
  {earlier later ns : Moments} {cut whole last : Inquiry} {shown : Page}

/-- The token is cancelled when `earlier` has happened and the inquiry stands at `q`, or before it
begins, which leaves it at `cut`. -/
inductive Interrupts (config : InquiryConfig) (store : Option Store) (address : String)
    (page size : Nat) : Moments → Inquiry → Inquiry → Prop
  | before : Interrupts config store address page size []
      (begin config store false address page size).1 (begin config store true address page size).1
  | during {earlier : Moments} {q : Inquiry}
      (run : Undisturbed (begin config store false address page size).1 earlier q) :
      Interrupts config store address page size earlier q q.struck

theorem Interrupts.undisturbed (h : Interrupts config store address page size earlier q cut) :
    Undisturbed (begin config store false address page size).1 earlier q := by
  cases h with
  | before => exact ⟨.start, List.forall_mem_nil _⟩
  | during run => exact run

/-- Either the inquiry is doomed from then on, or it had ended. -/
theorem Interrupts.doomed_or_ended (h : Interrupts config store address page size earlier q cut) :
    Doomed cut ∨ cut = q ∧ ∃ outcome, q.outcome? = some outcome := by
  cases h with
  | before => exact .inl (doomed_begin config store address page size)
  | during run =>
    rw [struck]
    split
    · rename_i hended
      exact .inr ⟨rfl, Option.isSome_iff_exists.1 hended⟩
    · rename_i hnone
      have hgoing : q.outcome? = none := by simpa using hnone
      rcases failed_or_stands run.1 run.2 with ⟨error, hfailed⟩ | ⟨key, hstands⟩
      · rw [hgoing] at hfailed
        cases hfailed
      · exact .inl (hstands.doomed_cancel hgoing)

theorem Interrupts.explained (h : Interrupts config store address page size earlier q cut) :
    Explained address earlier cut := by
  cases h with
  | before => exact explained_begin config store true address page size
  | during run => exact ((explained_begin config store false address page size).run run.1).struck

/-- **A cancellation never leaves a part of a page.** Whenever the token of an inquiry is cancelled,
and whatever happens then:

* if it comes to a page, it is the page that it comes to when the token is not cancelled. For each
  reference, and for each transaction that one of them takes from, a lookup has ended, and where the
  answers carry the ids that were asked for, a reference is skipped exactly if a lookup that it needs
  has failed or its transaction cannot be reconciled;
* if it comes to an error, it is that of its address, or else that of its index, or else that of the
  cancellation;
* it does come to one of the two, and to a page only if it had come to it by then. -/
theorem cancelled_never_partial (h : Interrupts config store address page size earlier q cut)
    (uncut : Undisturbed q later whole) (run : Traced cut ns last) :
    (∀ shown, last.outcome? = some (.ok shown) → whole.outcome? = some (.ok shown) ∧
      ∃ index first second, Indexed store shown.indexKey earlier index ∧
        lookups earlier = first ++ second ∧ MadeOf address page size index first second shown ∧
        (first.Consistent → second.Consistent → ∀ r ∈ paginate index page size,
          (skips address first second r = true ↔ Excused address first second r))) ∧
    (∀ error, last.outcome? = some (.error error) → Reason address (earlier ++ ns) error) ∧
    Inevitable Goes (fun r => (∃ error, r.outcome? = some (.error error)) ∨
      ∃ shown, r.outcome? = some (.ok shown) ∧ q.outcome? = some (.ok shown)) last := by
  refine ⟨fun shown hshown => ?_, (h.explained.run run).ended, ?_⟩
  · rcases h.doomed_or_ended with hdoomed | ⟨rfl, outcome, hended⟩
    · exact absurd hshown ((hdoomed.run run).ne_ok shown)
    · rw [outcome?_of_traced hended run] at hshown
      rw [hshown] at hended
      obtain ⟨before, calm⟩ := h.undisturbed
      obtain ⟨index, first, second, hi, hlog, hmade⟩ := madeOf_of_traced before calm hended
      refine ⟨outcome?_of_traced hended uncut.1, index, first, second, hi, hlog, hmade, ?_⟩
      intro hfirst hsecond r hr
      exact skips_iff_excused (first.keyed_iff.2 hfirst) (second.keyed_iff.2 hsecond)
        hmade.first_asked hmade.second_asked hr
  · rcases h.doomed_or_ended with hdoomed | ⟨rfl, outcome, hended⟩
    · exact (hdoomed.run run).comes_to_error.mono fun r herror => .inl herror
    · refine .now ?_
      have hlast := outcome?_of_traced hended run
      cases outcome with
      | error error => exact .inl ⟨error, hlast⟩
      | ok shown => exact .inr ⟨shown, hlast, hended⟩

end Runs

/-! ## One lookup, with and without a cancellation -/

/-- The moments of some events and the inquiry after them. -/
def onward (q : Inquiry) (events : List Event) : Moments × Inquiry :=
  (Trace.retrace? step? q events).getD ([], q)

section Onward

variable {events : List Event}

theorem retrace?_eq_onward (h : (Trace.retrace? step? q events).isSome = true) :
    Trace.retrace? step? q events = some ((onward q events).1, (onward q events).2) := by
  obtain ⟨run, hrun⟩ := Option.isSome_iff_exists.1 h
  rw [onward, hrun]
  rfl

theorem traced_onward (h : (Trace.retrace? step? q events).isSome = true) :
    Traced q (onward q events).1 (onward q events).2 :=
  Trace.of_retrace? (retrace?_eq_onward h)

theorem undisturbed_onward (h : (Trace.retrace? step? q events).isSome = true)
    (hc : Event.cancel ∉ events) : Undisturbed q (onward q events).1 (onward q events).2 := by
  refine ⟨traced_onward h, fun m hm hcancel => hc ?_⟩
  rw [← hcancel]
  exact Trace.event_mem_of_retrace? (retrace?_eq_onward h) hm

end Onward

/-- The index has one id and its lookup is started. -/
def onset : List Event := [.index (.ok [⟨capitals, 1⟩]), .next, .start]

/-- The lookup is answered, and the submitter finds the list at its end, once in each round. -/
def remainder : List Event := [.found 0 (.ok coins), .next, .next]

/-- The inquiry while its lookup is running. -/
def looking (key : String) : Inquiry :=
  { inquirer key with
    stage := .first [⟨capitals, 1⟩] ⟨[], { (Tasks.fresh 8 64) with
      idle := 7, running := [⟨0, capitals⟩], submitted := 1, started := 1 }⟩ }

/-- What it comes to. -/
def concluded (key : String) : Moments × Inquiry := onward (looking key) remainder

/-- What it comes to when the token is cancelled: the worker gives its lookup up, and all that is
left is to find the list at its end. -/
def abandoned (key : String) : Moments × Inquiry :=
  onward (looking key).struck [.quit (.running 0), .next]

/-- While the lookup is running, a cancellation makes an error of what would have been a page. Once
the page is there, it is made of the one answer, and a cancellation leaves it as it is. -/
theorem cancelled_never_partial_concluded : ∃ key earlier,
    Interrupts {} none genesisAddress 0 10 earlier (looking key) (looking key).struck ∧
    Undisturbed (looking key) (concluded key).1 (concluded key).2 ∧
    (concluded key).2.outcome? = some (.ok (inquiredPage key)) ∧
    Traced (looking key).struck (abandoned key).1 (abandoned key).2 ∧
    (abandoned key).1.map (·.output) = [[.drop 0], []] ∧
    (abandoned key).2.outcome? = some (.error .cancelled) ∧
    Reason genesisAddress (earlier ++ (abandoned key).1) .cancelled ∧
    (concluded key).2.struck.outcome? = some (.ok (inquiredPage key)) ∧
    ∃ index first second, lookups (earlier ++ (concluded key).1) = first ++ second ∧
      MadeOf genesisAddress 0 10 index first second (inquiredPage key) := by
  obtain ⟨key, hkey⟩ := exists_indexKey
  have hbegin : (begin {} none false genesisAddress 0 10).1 = inquirer key := by
    rw [begin, hkey]
    rfl
  have hlooking : (onward (inquirer key) onset).2 = looking key := rfl
  have begun : Undisturbed (begin {} none false genesisAddress 0 10).1
      (onward (inquirer key) onset).1 (looking key) := by
    rw [hbegin, ← hlooking]
    exact undisturbed_onward rfl (by simp [onset])
  have ended : Undisturbed (looking key) (concluded key).1 (concluded key).2 :=
    undisturbed_onward rfl (by simp [remainder])
  have cut : Traced (looking key).struck (abandoned key).1 (abandoned key).2 := traced_onward rfl
  have whole : Undisturbed (begin {} none false genesisAddress 0 10).1
      ((onward (inquirer key) onset).1 ++ (concluded key).1) (concluded key).2 :=
    ⟨begun.1.trans ended.1, List.forall_mem_append.2 ⟨begun.2, ended.2⟩⟩
  have hnothing : Undisturbed (concluded key).2 [] (concluded key).2 :=
    ⟨.start, List.forall_mem_nil _⟩
  have hshown : (concluded key).2.outcome? = some (.ok (inquiredPage key)) := rfl
  have hfailed : (abandoned key).2.outcome? = some (.error .cancelled) := rfl
  have hstays : (concluded key).2.struck = (concluded key).2 := by
    rw [struck, hshown]
    rfl
  obtain ⟨-, hreason, -⟩ := cancelled_never_partial (.during begun) ended cut
  obtain ⟨hpage, -, -⟩ := cancelled_never_partial (.during whole) hnothing .start
  rw [hstays] at hpage
  obtain ⟨-, index, first, second, -, hlog, hmade, -⟩ := hpage (inquiredPage key) hshown
  refine ⟨key, _, .during begun, ended, hshown, cut, rfl, hfailed, hreason _ hfailed, ?_, index,
    first, second, hlog, hmade⟩
  rw [hstays]
  exact hshown

end ChainExplorer.History.Inquiry
