import ChainExplorer.History.Inquiry
import ChainExplorer.Proofs.Tasks.Round

/-!
# How an inquiry runs

Once the index is in, an inquiry does nothing but what its round of lookups does, and goes on to the
next stage when the round is over (`step?_iff`). A lookup ends in one of two ways: with what the
node answers, or at once with what the store has. Whichever it is, the log of the inquiry has it
under the id that was asked for.

The log is the whole truth about an inquiry: at each moment it says what the rounds so far have
found, and in the end what the page is made of (`Accounted.step`). No step can be put off for ever,
as each takes something off what remains.
-/

namespace ChainExplorer.History

/-- Lookups that have ended, each under the id that it asked for. -/
abbrev Lookups := List (String × LookupResult)

/-- What a round with these lookups has found. -/
def Lookups.found (lookups : Lookups) : Found := .ofResults (lookups.map (·.2))

namespace Inquiry

/-- The lookups that end with an event: one that the node has answered, or one that starts and finds
its transaction in the store. -/
def endedBy (q : Inquiry) : Event → Lookups
  | .found number answer =>
    q.round?.toList.flatMap fun round => round.endedBy (.finish number answer)
  | .start =>
    (q.round?.bind nextLookup?).toList.flatMap fun task =>
      (q.askStore task.input).1.toList.map fun tx => (task.input, .ok tx)
  | .index _ | .next | .enter | .cancel | .quit _ => []

section Round

variable {q r : Inquiry} {round next : FanOut String LookupResult} {store : Option Store}
  {e : Event} {asks : List Ask}

/-! ## An inquiry and its round -/

theorem round?_withRound (hq : q.round? = some round) (other : FanOut String LookupResult) :
    (q.withRound other).round? = some other := by
  unfold withRound round? at *
  cases hs : q.stage with
  | index => simp [hs] at hq
  | first index current => rfl
  | second index found current => rfl
  | done outcome => simp [hs] at hq

theorem withRound_withRound (one two : FanOut String LookupResult) :
    (q.withRound one).withRound two = q.withRound two := by
  unfold withRound
  cases hs : q.stage <;> simp [hs]

theorem roundStep?_eq (hq : q.round? = some round) (e : FanOut.Event LookupResult) :
    q.roundStep? e = (round.step? e).map q.withRound := by
  simp only [roundStep?, hq, Option.bind_eq_bind, Option.bind_some]
  cases round.step? e <;> rfl

/-- As long as its round is not over, an inquiry stays in its stage. -/
theorem proceed_of_isDone_eq_false (hq : q.round? = some round) (hd : round.isDone = false) :
    q.proceed = q := by
  unfold proceed
  unfold round? at hq
  cases hs : q.stage with
  | index => rfl
  | first index current =>
    obtain rfl : current = round := by simpa [hs] using hq
    simp [hd]
  | second index found current =>
    obtain rfl : current = round := by simpa [hs] using hq
    simp [hd]
  | done outcome => rfl

theorem isDone_of_enter (h : round.step? .enter = some next) : next.isDone = false := by
  cases FanOut.happens h with
  | enter hu hb hr => simp [FanOut.isDone, Tasks.isDone]

theorem isDone_of_start (h : round.step? .start = some next) : next.isDone = false := by
  cases FanOut.happens h with
  | start hu hq hi => simp [FanOut.isDone, Tasks.isDone]

/-- The inquiry with another store and another round. -/
def advanced (q : Inquiry) (store : Option Store) (round : FanOut String LookupResult) : Inquiry :=
  { q with store }.withRound round

theorem round?_advanced (hq : q.round? = some round) (store : Option Store)
    (next : FanOut String LookupResult) : (q.advanced store next).round? = some next :=
  round?_withRound (q := { q with store }) hq next

theorem withRound_advanced (one two : FanOut String LookupResult) :
    (q.advanced store one).withRound two = q.advanced store two :=
  withRound_withRound one two

theorem offer_withRound (next : FanOut String LookupResult) (answer : LookupResult) :
    (q.withRound next).offer answer = q.advanced (q.offer answer).store next := by
  obtain ⟨config, address, key, page, size, store, cancelled, stage⟩ := q
  cases stage <;> cases answer <;> rfl

theorem askStore_withRound (next : FanOut String LookupResult) (txid : String) :
    (q.withRound next).askStore txid
      = ((q.askStore txid).1, q.advanced (q.askStore txid).2.store next) := by
  obtain ⟨config, address, key, page, size, store, cancelled, stage⟩ := q
  cases stage <;> cases store <;> rfl

/-! ## What each event does to the round -/

/-- How an event goes while there is a round. -/
inductive Advances (q : Inquiry) (round : FanOut String LookupResult) :
    Event → FanOut String LookupResult → Option Store → Prop
  | next {next : FanOut String LookupResult} (h : round.step? .next = some next) :
      Advances q round .next next q.store
  | enter {next : FanOut String LookupResult} (h : round.step? .enter = some next) :
      Advances q round .enter next q.store
  | asked {next : FanOut String LookupResult} {task : TaskItem String}
      (ht : nextLookup? round = some task) (h : round.step? .start = some next)
      (hs : (q.askStore task.input).1 = none) :
      Advances q round .start next (q.askStore task.input).2.store
  | kept {started next : FanOut String LookupResult} {task : TaskItem String} {tx : Transaction}
      (ht : nextLookup? round = some task) (h : round.step? .start = some started)
      (hs : (q.askStore task.input).1 = some tx)
      (hf : started.step? (.finish task.number (.ok tx)) = some next) :
      Advances q round .start next (q.askStore task.input).2.store
  | found {next : FanOut String LookupResult} {number : Nat} {answer : LookupResult}
      (h : round.step? (.finish number answer) = some next) :
      Advances q round (.found number answer) next (q.offer answer).store
  | quit {next : FanOut String LookupResult} {party : Tasks.Party}
      (h : round.step? (.quit party) = some next) : Advances q round (.quit party) next q.store

theorem step?_next (hq : q.round? = some round) : q.step? .next
    = (round.step? .next).map fun next => ((q.withRound next).proceed, []) := by
  rw [step?, roundStep?_eq hq, Option.map_map]
  rfl

theorem step?_quit (hq : q.round? = some round) (party : Tasks.Party) : q.step? (.quit party)
    = (round.step? (.quit party)).map fun next =>
        ((q.withRound next).proceed, dropped party) := by
  rw [step?, roundStep?_eq hq, Option.map_map]
  rfl

theorem step?_enter (hq : q.round? = some round) : q.step? .enter
    = (round.step? .enter).map fun next => ((q.withRound next).proceed, []) := by
  rw [step?, roundStep?_eq hq, Option.map_map]
  cases h : round.step? .enter with
  | none => rfl
  | some next =>
    -- The inquiry does not look whether its round is over, but it would not find it so.
    have hstay := proceed_of_isDone_eq_false (round?_withRound hq next) (isDone_of_enter h)
    rw [Option.map_some, Option.map_some, hstay]
    rfl

theorem step?_found (hq : q.round? = some round) (number : Nat) (answer : LookupResult) :
    q.step? (.found number answer) = (round.step? (.finish number answer)).map fun next =>
      ((q.advanced (q.offer answer).store next).proceed, []) := by
  rw [step?, roundStep?_eq hq, Option.map_map]
  congr 1
  funext next
  rw [Function.comp_apply, offer_withRound]

/-- The start of a lookup that the store cannot answer. -/
theorem step?_start_asked (hq : q.round? = some round) {task : TaskItem String}
    (ht : nextLookup? round = some task) (h : round.step? .start = some next)
    (hs : (q.askStore task.input).1 = none) : q.step? .start
      = some ((q.advanced (q.askStore task.input).2.store next).proceed,
          [.lookup task.number task.input]) := by
  have hstay := proceed_of_isDone_eq_false
    (round?_advanced hq (q.askStore task.input).2.store next) (isDone_of_start h)
  rw [hstay]
  simp only [step?, start?, hq, ht, roundStep?_eq hq, h, Option.bind_eq_bind, Option.bind_some,
    Option.map_some, askStore_withRound, hs]
  rfl

/-- The start of a lookup that the store can answer. -/
theorem step?_start_kept (hq : q.round? = some round) {task : TaskItem String}
    {started : FanOut String LookupResult} {tx : Transaction}
    (ht : nextLookup? round = some task) (h : round.step? .start = some started)
    (hs : (q.askStore task.input).1 = some tx) : q.step? .start
      = (started.step? (.finish task.number (.ok tx))).map fun next =>
          ((q.advanced (q.askStore task.input).2.store next).proceed, []) := by
  have hstarted := round?_advanced hq (q.askStore task.input).2.store started
  simp only [step?, start?, hq, ht, roundStep?_eq hq, h, Option.bind_eq_bind, Option.bind_some,
    Option.map_some, askStore_withRound, hs, roundStep?_eq hstarted]
  cases started.step? (.finish task.number (.ok tx)) with
  | none => rfl
  | some next =>
    rw [Option.map_some, Option.map_some, withRound_advanced]
    rfl

theorem step?_start_eq_none (hq : q.round? = some round) (h : round.step? .start = none) :
    q.step? .start = none := by
  simp only [step?, start?, hq, roundStep?_eq hq, h, Option.bind_eq_bind, Option.bind_some,
    Option.map_none, Option.bind_none]
  cases nextLookup? round <;> rfl

theorem nextLookup?_of_start (h : round.step? .start = some next) :
    ∃ task, nextLookup? round = some task ∧ task ∈ next.tasks.running := by
  cases FanOut.happens h with
  | @start task rest hu hqueue hi =>
    refine ⟨task, ?_, List.mem_append_right _ List.mem_cons_self⟩
    rw [nextLookup?, hqueue]
    rfl

/-- **While there is a round, an inquiry does what its round does**, and goes on to the next stage
when the round is over. -/
theorem step?_iff (hq : q.round? = some round) (he : e ≠ .cancel) :
    (∃ asks, q.step? e = some (r, asks)) ↔
      ∃ next store, Advances q round e next store ∧ r = (q.advanced store next).proceed := by
  constructor
  · rintro ⟨asks, hs⟩
    cases e with
    | index answer =>
      rw [round?] at hq
      rw [step?] at hs
      split at hs
      · rename_i hstage
        rw [hstage] at hq
        cases hq
      · cases hs
    | next =>
      rw [step?_next hq] at hs
      obtain ⟨next, hnext, heq⟩ := Option.map_eq_some_iff.1 hs
      cases heq
      exact ⟨next, _, .next hnext, rfl⟩
    | enter =>
      rw [step?_enter hq] at hs
      obtain ⟨next, hnext, heq⟩ := Option.map_eq_some_iff.1 hs
      cases heq
      exact ⟨next, _, .enter hnext, rfl⟩
    | start =>
      cases hstart : round.step? .start with
      | none =>
        rw [step?_start_eq_none hq hstart] at hs
        cases hs
      | some started =>
        obtain ⟨task, ht, -⟩ := nextLookup?_of_start hstart
        cases hstore : (q.askStore task.input).1 with
        | none =>
          rw [step?_start_asked hq ht hstart hstore] at hs
          cases hs
          exact ⟨started, _, .asked ht hstart hstore, rfl⟩
        | some tx =>
          rw [step?_start_kept hq ht hstart hstore] at hs
          obtain ⟨next, hnext, heq⟩ := Option.map_eq_some_iff.1 hs
          cases heq
          exact ⟨next, _, .kept ht hstart hstore hnext, rfl⟩
    | found number answer =>
      rw [step?_found hq] at hs
      obtain ⟨next, hnext, heq⟩ := Option.map_eq_some_iff.1 hs
      cases heq
      exact ⟨next, _, .found hnext, rfl⟩
    | quit party =>
      rw [step?_quit hq] at hs
      obtain ⟨next, hnext, heq⟩ := Option.map_eq_some_iff.1 hs
      cases heq
      exact ⟨next, _, .quit hnext, rfl⟩
    | cancel => exact absurd rfl he
  · rintro ⟨next, store, ha, rfl⟩
    cases ha with
    | next h => exact ⟨[], by rw [step?_next hq, h]; rfl⟩
    | enter h => exact ⟨[], by rw [step?_enter hq, h]; rfl⟩
    | asked ht h hs => exact ⟨_, step?_start_asked hq ht h hs⟩
    | kept ht h hs hf => exact ⟨[], by rw [step?_start_kept hq ht h hs, hf]; rfl⟩
    | found h => exact ⟨[], by rw [step?_found hq, h]; rfl⟩
    | quit h => exact ⟨_, by rw [step?_quit hq, h]; rfl⟩

/-- Where there is no round, nothing happens but that the index comes in. -/
theorem step?_of_round?_eq_none (hq : q.round? = none) (he : e ≠ .cancel)
    (hs : q.step? e = some (r, asks)) :
    ∃ answer, q.stage = .index ∧ e = .index answer ∧ r = q.takeIndex answer := by
  have hidle : ∀ e, q.roundStep? e = none := by
    intro e
    rw [roundStep?, hq]
    rfl
  cases e with
  | index answer =>
    rw [step?] at hs
    split at hs
    · rename_i hstage
      cases hs
      exact ⟨answer, hstage, rfl, rfl⟩
    · cases hs
  | next => simp [step?, hidle] at hs
  | enter => simp [step?, hidle] at hs
  | start => simp [step?, start?, hq] at hs
  | found number answer => simp [step?, hidle] at hs
  | quit party => simp [step?, hidle] at hs
  | cancel => exact absurd rfl he

/-- The log of a round goes on with the lookups that end. -/
theorem Advances.logged {ids : List String} {log : Lookups} (ha : Advances q round e next store)
    (hq : q.round? = some round) (hr : round.Logged ids log) :
    next.Logged ids (log ++ q.endedBy e) ∧ next.weight < round.weight := by
  cases ha with
  | next h => exact ⟨hr.event rfl h, hr.weight_lt rfl h⟩
  | enter h => exact ⟨hr.event rfl h, hr.weight_lt rfl h⟩
  | asked ht h hs =>
    have hended : q.endedBy .start = [] := by
      simp [endedBy, hq, ht, hs]
    rw [hended]
    exact ⟨hr.event rfl h, hr.weight_lt rfl h⟩
  | @kept started next task tx ht h hs hf =>
    -- Two events of the round at once: the lookup starts, and ends with what the store has.
    have hstarted : started.Logged ids log := by
      simpa [FanOut.endedBy] using hr.event (e := .start) rfl h
    obtain ⟨other, hother, hrunning⟩ := nextLookup?_of_start h
    obtain rfl : task = other := Option.some.inj (ht.symm.trans hother)
    obtain ⟨rest, hx⟩ := hstarted.whole.extract?_running hrunning
    have hended : q.endedBy .start = started.endedBy (.finish task.number (.ok tx)) := by
      rw [FanOut.endedBy_finish hx]
      simp [endedBy, hq, ht, hs]
    rw [hended]
    exact ⟨hstarted.event rfl hf, Nat.lt_trans (hstarted.weight_lt rfl hf) (hr.weight_lt rfl h)⟩
  | @found next number answer h =>
    have hended : q.endedBy (.found number answer) = round.endedBy (.finish number answer) := by
      simp [endedBy, hq]
    rw [hended]
    exact ⟨hr.event rfl h, hr.weight_lt rfl h⟩
  | quit h => exact (hr.not_quit h).elim

end Round

/-! ## From stage to stage -/

/-- Where an inquiry stands that began as `p` and has its index, with all lookups that have ended:
those of the first round, then those of the second. -/
inductive Accounted (p : Inquiry) (index : List Reference) : Inquiry → Lookups → Prop
  | first {store : Option Store} {round : FanOut String LookupResult} {first : Lookups}
      (hr : round.Logged ((p.references index).map (·.txid)) first) (hd : round.isDone = false) :
      Accounted p index { p with store, stage := .first index round } first
  | second {store : Option Store} {round : FanOut String LookupResult} {first second : Lookups}
      (hf : (first.map (·.1)).Perm ((p.references index).map (·.txid)))
      (hr : round.Logged (p.laterIds first.found) second) (hd : round.isDone = false) :
      Accounted p index { p with store, stage := .second index first.found round }
        (first ++ second)
  | done {store : Option Store} {first second : Lookups}
      (hf : (first.map (·.1)).Perm ((p.references index).map (·.txid)))
      (hs : (second.map (·.1)).Perm first.found.takenIds) :
      Accounted p index { p with store, stage := .done (.ok (p.pageOf index first.found second.found)) }
        (first ++ second)

/-- Whatever the order, the second round asks for what is taken. -/
theorem laterIds_perm (q : Inquiry) (found : Found) : (q.laterIds found).Perm found.takenIds :=
  q.config.order.perm _

/-- The stages to come, and what is left to happen in this one. -/
def remaining (q : Inquiry) : Nat × Nat :=
  match q.stage with
  | .index => (3, 0)
  | .first _ round => (2, round.weight)
  | .second _ _ round => (1, round.weight)
  | .done _ => (0, 0)

section Stages

variable {p q r : Inquiry} {index : List Reference} {store : Option Store} {ids : List String}
  {round : FanOut String LookupResult} {log : Lookups} {e : Event} {asks : List Ask}

/-- An inquiry that takes its index in begins the first round. -/
theorem Accounted.ofIndex (hp : p.cancelled = false) (index : List Reference) :
    Accounted p index (p.takeIndex (.ok index)) [] := by
  rw [takeIndex, goOn, if_neg (by simp [hp])]
  exact .first (.ofInputs _ _ _) rfl

/-- The second round begins with no lookups of its own behind it. -/
theorem Accounted.ofFirst (hf : (log.map (·.1)).Perm ((p.references index).map (·.txid))) :
    Accounted p index
      { p with store, stage := .second index log.found (p.roundOf (p.laterIds log.found)) } log := by
  have h : Accounted p index
      { p with store, stage := .second index log.found (p.roundOf (p.laterIds log.found)) }
      (log ++ []) := .second hf (.ofInputs _ _ _) rfl
  rwa [List.append_nil] at h

/-- Nothing happens any more to an inquiry that has ended. -/
theorem step?_of_outcome? {outcome : Except QueryError Page} (h : q.outcome? = some outcome)
    (e : Event) : q.step? e = none := by
  obtain ⟨config, address, key, page, size, store, cancelled, stage⟩ := q
  cases stage with
  | done outcome => cases e <;> rfl
  | _ => cases h

/-- When the first round is over, its log says what it has found, and the second begins. -/
theorem proceed_of_first (hp : p.cancelled = false) (hr : round.Logged ids log)
    (hd : round.isDone = true) : proceed { p with store, stage := .first index round }
      = { p with
          store := store
          stage := .second index log.found (p.roundOf (p.laterIds log.found)) } := by
  rw [Lookups.found, ← hr.outcomes]
  simp only [proceed, hd, goOn, hp, if_true, Bool.false_eq_true, if_false]
  rfl

/-- When the second round is over, the logs of both say what the page is made of. -/
theorem proceed_of_second (hp : p.cancelled = false) {found : Found} (hr : round.Logged ids log)
    (hd : round.isDone = true) : proceed { p with store, stage := .second index found round }
      = { p with store, stage := .done (.ok (p.pageOf index found log.found)) } := by
  rw [Lookups.found, ← hr.outcomes]
  simp only [proceed, hd, goOn, hp, if_true, Bool.false_eq_true, if_false]
  rfl

/-- **Every step keeps the account, and there is less to come after it.** -/
theorem Accounted.step (hp : p.cancelled = false) (h : Accounted p index q log)
    (he : e ≠ .cancel) (hs : q.step? e = some (r, asks)) :
    Accounted p index r (log ++ q.endedBy e) ∧
      Prod.Lex (· < ·) (· < ·) r.remaining q.remaining := by
  cases h with
  | @first store round _ hr hd =>
    have hq : round? { p with store, stage := .first index round } = some round := rfl
    obtain ⟨next, store', ha, rfl⟩ := (step?_iff hq he).1 ⟨asks, hs⟩
    obtain ⟨hlog, hless⟩ := ha.logged hq hr
    generalize endedBy _ e = ended at hlog ⊢
    have hnext : advanced { p with store, stage := .first index round } store' next
        = { p with store := store', stage := .first index next } := rfl
    rw [hnext]
    cases hdone : next.isDone with
    | false =>
      rw [proceed_of_isDone_eq_false rfl hdone]
      exact ⟨.first hlog hdone, .right _ hless⟩
    | true =>
      rw [proceed_of_first hp hlog hdone]
      exact ⟨.ofFirst (hlog.perm_of_isDone hdone), .left _ _ (Nat.lt_succ_self 1)⟩
  | @second store round one two hf hr hd =>
    have hq : round? { p with store, stage := .second index one.found round } = some round := rfl
    obtain ⟨next, store', ha, rfl⟩ := (step?_iff hq he).1 ⟨asks, hs⟩
    obtain ⟨hlog, hless⟩ := ha.logged hq hr
    generalize endedBy _ e = ended at hlog ⊢
    have hnext : advanced { p with store, stage := .second index one.found round } store' next
        = { p with store := store', stage := .second index one.found next } := rfl
    rw [hnext, List.append_assoc]
    cases hdone : next.isDone with
    | false =>
      rw [proceed_of_isDone_eq_false rfl hdone]
      exact ⟨.second hf hlog hdone, .right _ hless⟩
    | true =>
      rw [proceed_of_second hp hlog hdone]
      have hasked := (hlog.perm_of_isDone hdone).trans (p.laterIds_perm one.found)
      exact ⟨.done hf hasked, .left _ _ Nat.one_pos⟩
  | done hf hperm =>
    rw [step?_of_outcome? rfl] at hs
    cases hs

end Stages

end Inquiry

end ChainExplorer.History
