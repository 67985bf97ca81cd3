import ChainExplorer.Proofs.History.Resolution
import Mathlib.Data.List.Permutation

/-!
# What an inquiry asks of the node

An inquiry without a store asks the node for exactly what its page needs (`calls_what_it_needs`).
First it asks for each reference of the page, as often as the reference stands there. When all of
these calls have been answered, it asks once for each id that the transactions found take outputs
from, and for nothing else.

What carries this is one more account of a round. A call is made when a task starts, so the calls
that have been made are the tasks that are running and those of the log (`Underway`). A run is cut
in two where the first round is over, and each part keeps its own account (`Course`).
-/

namespace ChainExplorer

namespace History

/-! ## What a round has found -/

section Lookups

variable {asked : Lookups} {tx : Transaction} {txid : String}

/-- A round has found a transaction if it is the last success with its id. -/
def Lookups.Finds (asked : Lookups) (tx : Transaction) : Prop :=
  ∃ earlier p later, asked = earlier ++ p :: later ∧ p.2 = .ok tx ∧
    ∀ other ∈ later, ∀ next, other.2 = .ok next → next.txid ≠ tx.txid

/-- A transaction takes an output of the one with an id. An input of new coins takes none. -/
def TakesFrom (tx : Transaction) (txid : String) : Prop :=
  ∃ point, some point ∈ tx.inputs ∧ point.txid = txid

/-- What a round has found takes an output of the transaction with an id. -/
def Lookups.TakesFrom (asked : Lookups) (txid : String) : Prop :=
  ∃ tx, asked.Finds tx ∧ History.TakesFrom tx txid

theorem Lookups.finds_concat {p : String × LookupResult} : Finds (asked ++ [p]) tx ↔
    p.2 = .ok tx ∨ asked.Finds tx ∧ ∀ next, p.2 = .ok next → next.txid ≠ tx.txid := by
  constructor
  · rintro ⟨earlier, found, later, heq, hfound, hlast⟩
    rcases later.eq_nil_or_concat with rfl | ⟨later, last, rfl⟩
    · obtain ⟨-, hp⟩ := List.append_inj' heq rfl
      cases hp
      exact .inl hfound
    · rw [List.concat_eq_append] at heq hlast
      rw [← List.cons_append, ← List.append_assoc] at heq
      obtain ⟨rfl, hp⟩ := List.append_inj' heq rfl
      cases hp
      refine .inr ⟨⟨earlier, found, later, rfl, hfound, fun other hother => ?_⟩, ?_⟩
      · exact hlast other (List.mem_append_left _ hother)
      · exact hlast p (List.mem_append_right _ List.mem_cons_self)
  · rintro (hp | ⟨⟨earlier, found, later, rfl, hfound, hlast⟩, hp⟩)
    · refine ⟨asked, p, [], rfl, hp, fun other hother => ?_⟩
      cases hother
    · refine ⟨earlier, found, later ++ [p], by simp, hfound, fun other hother => ?_⟩
      rcases List.mem_append.1 hother with hold | hnew
      · exact hlast other hold
      · exact List.mem_singleton.1 hnew ▸ hp

theorem Lookups.found_concat (asked : Lookups) (txid : String) (answer : LookupResult) :
    Lookups.found (asked ++ [(txid, answer)])
      = answer.toOption.toList.foldl Found.put asked.found := by
  rw [Lookups.found, Lookups.found, Found.ofResults, Found.ofResults, List.map_append,
    List.filterMap_append, List.foldl_append]
  cases answer <;> rfl

theorem Lookups.mem_found_concat {p : String × LookupResult} : tx ∈ Lookups.found (asked ++ [p]) ↔
    p.2 = .ok tx ∨ tx ∈ asked.found ∧ ∀ next, p.2 = .ok next → next.txid ≠ tx.txid := by
  obtain ⟨txid, answer⟩ := p
  rw [found_concat]
  cases answer with
  | error error => simp [Except.toOption]
  | ok next =>
    have hput : tx ∈ asked.found.put next ↔ tx = next ∨ tx ∈ asked.found ∧ tx.txid ≠ next.txid := by
      rw [Found.put, List.mem_append, List.mem_filter, List.mem_singleton, decide_eq_true_iff,
        or_comm]
    simp only [Except.toOption, Option.toList_some, List.foldl_cons, List.foldl_nil, hput,
      Except.ok.injEq, forall_eq', eq_comm (a := tx), ne_comm (a := tx.txid)]

theorem Lookups.mem_found : tx ∈ asked.found ↔ asked.Finds tx := by
  induction asked using List.reverseRecOn with
  | nil => simp [Lookups.found, Found.ofResults, Lookups.Finds]
  | append_singleton asked p ih => rw [mem_found_concat, finds_concat, ih]

theorem mem_takes : txid ∈ takes tx ↔ TakesFrom tx txid := by
  simp [takes, TakesFrom]

theorem Lookups.mem_takenIds : txid ∈ asked.found.takenIds ↔ asked.TakesFrom txid := by
  rw [History.mem_takenIds, Lookups.TakesFrom]
  exact exists_congr fun tx => and_congr mem_found mem_takes

/-- If there is one answer to each id, which carries it, a round over some references has found all
that are answered. -/
theorem Lookups.takesFrom_of_answers {f : String → LookupResult} (hf : Carries f)
    {references : List Reference} (hasked : (asked.map (·.1)).Perm (references.map (·.txid)))
    (hanswers : ∀ p ∈ asked, p.2 = f p.1) : asked.TakesFrom txid ↔
      ∃ r ∈ references, ∃ tx, f r.txid = .ok tx ∧ History.TakesFrom tx txid := by
  have houtcomes : (asked.map (·.2)).Perm ((references.map (·.txid)).map f) := by
    have hmap : asked.map (·.2) = (asked.map (·.1)).map f := by
      rw [List.map_map]
      exact List.map_congr_left hanswers
    rw [hmap]
    exact hasked.map f
  constructor
  · rintro ⟨tx, htx, htaken⟩
    obtain ⟨r, hr, hanswer⟩ := mem_answered.1
      ((mem_ofResults_of_perm hf houtcomes).1 (mem_found.2 htx))
    exact ⟨r, hr, tx, hanswer, htaken⟩
  · rintro ⟨r, hr, tx, hanswer, htaken⟩
    have htx := (mem_ofResults_of_perm hf houtcomes).2 (mem_answered.2 ⟨r, hr, hanswer⟩)
    exact ⟨tx, mem_found.1 htx, htaken⟩

theorem nodup_eraseDups (ids : List String) : ids.eraseDups.Nodup := by
  induction hlength : ids.length using Nat.strongRecOn generalizing ids with
  | ind length ih =>
    cases ids with
    | nil => exact List.nodup_nil
    | cons txid rest =>
      rw [List.eraseDups_cons, List.nodup_cons]
      refine ⟨fun hmem => ?_, ih _ ?_ _ rfl⟩
      · rw [List.mem_eraseDups] at hmem
        simpa using (List.mem_filter.1 hmem).2
      · rw [← hlength]
        exact Nat.lt_succ_of_le (List.length_filter_le _ _)

end Lookups

namespace Inquiry

variable {p q r : Inquiry} {round next : FanOut String LookupResult} {store : Option Store}
  {e : Event} {asks : List Ask} {ids : List String} {index : List Reference} {ms one two : Moments}
  {m : Moment Inquiry Event (List Ask)}

/-! ## Calls of the node -/

/-- The id that the node is asked for. -/
def called? : Ask → Option String
  | .lookup _ txid => some txid
  | .index _ | .drop _ => none

/-- The calls of the node during a run, in their order. -/
def calls (ms : Moments) : List String := ms.flatMap fun m => m.output.filterMap called?

theorem calls_append (ms ns : Moments) : calls (ms ++ ns) = calls ms ++ calls ns :=
  List.flatMap_append

theorem lookups_append (ms ns : Moments) : lookups (ms ++ ns) = lookups ms ++ lookups ns :=
  List.flatMap_append

/-- Without a store there is one event of the round to each of the inquiry, and the node is asked
for the task that starts. -/
theorem Advances.event {log : Lookups} (ha : Advances q round e next store)
    (hq : q.round? = some round) (hr : round.Logged ids log) (hstore : q.store = none)
    (hs : q.step? e = some (r, asks)) :
    store = none ∧ ∃ inner : FanOut.Event LookupResult, inner.isCalm = true ∧
      round.step? inner = some next ∧ q.endedBy e = round.endedBy inner ∧
      asks = (round.startedBy inner).map fun task => .lookup task.number task.input := by
  have hask : ∀ txid, q.askStore txid = (none, q) := by
    intro txid
    rw [askStore, hstore]
  cases ha with
  | next h =>
    rw [step?_next hq, h] at hs
    cases hs
    exact ⟨hstore, .next, rfl, h, rfl, rfl⟩
  | enter h =>
    rw [step?_enter hq, h] at hs
    cases hs
    exact ⟨hstore, .enter, rfl, h, rfl, rfl⟩
  | @asked next task ht h hnone =>
    rw [step?_start_asked hq ht h hnone] at hs
    cases hs
    refine ⟨by rw [hask, hstore], .start, rfl, h, ?_, ?_⟩
    · simp [endedBy, hq, ht, hnone, FanOut.endedBy]
    · rw [nextLookup?] at ht
      rw [FanOut.startedBy, ht]
      rfl
  | kept ht h hkept hf =>
    rw [hask] at hkept
    cases hkept
  | @found next number answer h =>
    rw [step?_found hq, h] at hs
    cases hs
    refine ⟨?_, .finish number answer, rfl, h, ?_, rfl⟩
    · cases answer with
      | error error => exact hstore
      | ok tx => rw [offer, hstore, Option.map_none]
    · simp [endedBy, hq]
  | quit h => exact (hr.not_quit h).elim

/-- The invariant of a round in which every lookup is a call, with what has happened in it. -/
structure Underway (ids : List String) (round : FanOut String LookupResult) (ms : Moments) :
    Prop where
  logged : round.Logged ids (lookups ms)
  called : (calls ms).Perm (round.tasks.running.map (·.input) ++ (lookups ms).map (·.1))

/-- The ids have been asked for, each as often as it is listed, and all calls have been answered. -/
structure Settled (ids : List String) (ms : Moments) : Prop where
  called : (calls ms).Perm ids
  answered : ((lookups ms).map (·.1)).Perm ids

theorem Settled.of_perm {ids' : List String} (h : Settled ids ms) (hids : ids.Perm ids') :
    Settled ids' ms :=
  ⟨h.called.trans hids, h.answered.trans hids⟩

theorem Underway.ofInputs (ids : List String) (workers capacity : Nat)
    (hcalls : calls ms = []) (hlookups : lookups ms = []) :
    Underway ids (.ofInputs ids workers capacity) ms where
  logged := by
    rw [hlookups]
    exact .ofInputs ids workers capacity
  called := by
    rw [hcalls, hlookups]
    exact .refl _

theorem Underway.subperm (h : Underway ids round ms) : (calls ms).Subperm ids := by
  -- What has not been called yet stands in front: the inputs to come and the tasks that wait.
  have haccount := h.logged.account
  rw [Tasks.pending, List.map_append, List.append_assoc, ← List.append_assoc] at haccount
  exact h.called.subperm.trans
    ((List.sublist_append_right _ _).subperm.trans haccount.subperm)

theorem Underway.settled (h : Underway ids round ms) (hd : round.isDone = true) :
    Settled ids ms := by
  have hlog := h.logged.perm_of_isDone hd
  have hrunning : round.tasks.running = [] := by
    simp only [FanOut.isDone, Tasks.isDone, Bool.and_eq_true, List.isEmpty_iff] at hd
    exact hd.1.2
  have hcalled := h.called
  rw [hrunning] at hcalled
  exact ⟨hcalled.trans hlog, hlog⟩

/-- **Whatever happens in a round keeps its account**, and nobody is asked but the node. -/
theorem Underway.moment (h : Underway ids round ms) (hq : m.before.round? = some round)
    (hstore : m.before.store = none) (hc : m.event ≠ .cancel)
    (hs : m.before.step? m.event = some (m.after, m.output)) :
    (∃ next, Underway ids next (ms ++ [m]) ∧ m.after = (m.before.advanced none next).proceed) ∧
      ∀ ask ∈ m.output, ∃ number txid, ask = .lookup number txid := by
  obtain ⟨next, store, ha, hafter⟩ := (step?_iff hq hc).1 ⟨_, hs⟩
  obtain ⟨rfl, inner, hcalm, hstep, hended, hasks⟩ := ha.event hq h.logged hstore hs
  have hcalled : calls [m] = (round.startedBy inner).map (·.input) := by
    rw [calls, List.flatMap_singleton, hasks, List.filterMap_map]
    exact List.filterMap_eq_map_iff_forall_eq_some.2 fun task _ => rfl
  refine ⟨⟨next, ⟨?_, ?_⟩, hafter⟩, fun ask hask => ?_⟩
  · rw [lookups_concat, hended]
    exact h.logged.event hcalm hstep
  · rw [calls_append, lookups_concat, hended, hcalled, List.map_append]
    -- What starts is called and runs; what ends leaves those that run for the log.
    refine List.perm_iff_count.2 fun txid => ?_
    have hbefore := h.called.count_eq txid
    have hround := (FanOut.perm_running hcalm hstep).count_eq txid
    simp only [List.count_append] at hbefore hround ⊢
    omega
  · rw [hasks] at hask
    obtain ⟨task, -, rfl⟩ := List.mem_map.1 hask
    exact ⟨_, _, rfl⟩

/-! ## From round to round -/

/-- Where an inquiry without a store stands that began as `p` and has its index, with what happened
before its second round and since. -/
inductive Course (p : Inquiry) (index : List Reference) : Moments → Moments → Inquiry → Prop
  | first {one : Moments} {round : FanOut String LookupResult}
      (hr : Underway ((p.references index).map (·.txid)) round one) (hd : round.isDone = false) :
      Course p index one [] { p with store := none, stage := .first index round }
  | second {one two : Moments} {round : FanOut String LookupResult}
      (hf : Settled ((p.references index).map (·.txid)) one)
      (hr : Underway (p.laterIds (lookups one).found) round two) (hd : round.isDone = false) :
      Course p index one two
        { p with store := none, stage := .second index (lookups one).found round }
  | done {one two : Moments} {shown : Page}
      (hf : Settled ((p.references index).map (·.txid)) one)
      (hs : Settled (lookups one).found.takenIds two) :
      Course p index one two { p with store := none, stage := .done (.ok shown) }

theorem Course.ofIndex (hp : p.cancelled = false) (hstore : p.store = none)
    (index : List Reference) (hcalls : calls ms = []) (hlookups : lookups ms = []) :
    Course p index ms [] (p.takeIndex (.ok index)) := by
  obtain ⟨config, address, key, page, size, store, cancelled, stage⟩ := p
  obtain rfl : store = none := hstore
  obtain rfl : cancelled = false := hp
  exact .first (.ofInputs _ _ _ hcalls hlookups) rfl

/-- **Every step keeps the accounts of both rounds**, and the second begins only when all that the
first has asked is answered. -/
theorem Course.moment (hp : p.cancelled = false) (h : Course p index one two m.before)
    (hc : m.event ≠ .cancel) (hs : m.before.step? m.event = some (m.after, m.output)) :
    (∃ one' two', one' ++ two' = one ++ two ++ [m] ∧ Course p index one' two' m.after) ∧
      ∀ ask ∈ m.output, ∃ number txid, ask = .lookup number txid := by
  -- The accounts speak of the moment itself, so only the state before it is taken apart.
  generalize hbefore : m.before = before at h
  cases h with
  | @first round hr hd =>
    obtain ⟨⟨next, hnext, hafter⟩, honly⟩ :=
      hr.moment (by rw [hbefore]; rfl) (by rw [hbefore]) hc hs
    have hadvanced : m.before.advanced none next
        = { p with store := none, stage := .first index next } := by
      rw [hbefore]
      rfl
    rw [hafter, hadvanced, List.append_nil]
    refine ⟨?_, honly⟩
    cases hdone : next.isDone with
    | false =>
      rw [proceed_of_isDone_eq_false rfl hdone]
      exact ⟨_, [], List.append_nil _, .first hnext hdone⟩
    | true =>
      rw [proceed_of_first hp hnext.logged hdone]
      exact ⟨_, [], List.append_nil _,
        .second (hnext.settled hdone) (.ofInputs _ _ _ rfl rfl) rfl⟩
  | @second _ round hf hr hd =>
    obtain ⟨⟨next, hnext, hafter⟩, honly⟩ :=
      hr.moment (by rw [hbefore]; rfl) (by rw [hbefore]) hc hs
    have hadvanced : m.before.advanced none next
        = { p with store := none, stage := .second index (lookups one).found next } := by
      rw [hbefore]
      rfl
    rw [hafter, hadvanced, List.append_assoc]
    refine ⟨⟨one, _, rfl, ?_⟩, honly⟩
    cases hdone : next.isDone with
    | false =>
      rw [proceed_of_isDone_eq_false rfl hdone]
      exact .second hf hnext hdone
    | true =>
      rw [proceed_of_second hp hnext.logged hdone]
      exact .done hf ((hnext.settled hdone).of_perm (p.laterIds_perm _))
  | done hf hover =>
    rw [hbefore, step?_of_outcome? rfl] at hs
    cases hs

/-- The index, if the server answers with it. -/
def indexed? : Event → Option (List Reference)
  | .index (.ok index) => some index
  | _ => none

/-- The index during a run, if it has answered. -/
def indexIn? (ms : Moments) : Option (List Reference) := (ms.map (·.event)).findSome? indexed?

/-- The references of the page; there are none before the index has answered. -/
def referencesIn (ms : Moments) (page size : Nat) : List Reference :=
  paginate ((indexIn? ms).getD []) page size

/-- How far an inquiry without a store has come that began as `p`. -/
inductive Follows (p : Inquiry) : Moments → Inquiry → Prop
  | begun (h : p.stage = .index) (hstore : p.store = none) : Follows p [] p
  | under {one two : Moments} {q : Inquiry} {index : List Reference}
      (hi : indexIn? (one ++ two) = some index) (h : Course p index one two q) :
      Follows p (one ++ two) q
  | failed {ms : Moments} {q : Inquiry} {error : QueryError}
      (hi : indexIn? ms = none) (hcalls : calls ms = []) (hlookups : lookups ms = [])
      (h : q.outcome? = some (.error error)) : Follows p ms q

theorem Follows.moment (hp : p.cancelled = false) (h : Follows p ms m.before)
    (hc : m.event ≠ .cancel) (hs : m.before.step? m.event = some (m.after, m.output)) :
    Follows p (ms ++ [m]) m.after ∧ ∀ ask ∈ m.output, ∃ number txid, ask = .lookup number txid := by
  obtain ⟨before, e, asks, after⟩ := m
  cases h with
  | begun hstage hstore =>
    have hround : round? before = none := by
      rw [round?, hstage]
    obtain ⟨answer, -, rfl, rfl⟩ := step?_of_round?_eq_none hround hc hs
    obtain rfl : asks = [] := by
      rw [step?, hstage] at hs
      cases hs
      rfl
    refine ⟨?_, fun ask hask => by cases hask⟩
    cases answer with
    | error error => exact .failed rfl rfl rfl rfl
    | ok index =>
      exact @Follows.under _ [_] [] _ _ rfl (.ofIndex hp hstore index rfl rfl)
  | @under one two _ index hi hcourse =>
    obtain ⟨⟨one', two', heq, hnext⟩, honly⟩ := hcourse.moment hp hc hs
    refine ⟨?_, honly⟩
    rw [← heq]
    refine .under ?_ hnext
    rw [heq, indexIn?, List.map_append, List.findSome?_append, ← indexIn?, hi]
    rfl
  | failed hi hcalls hlookups hfailed =>
    rw [step?_of_outcome? hfailed] at hs
    cases hs

/-! ## What is asked and what is needed -/

/-- What an inquiry has asked of the node before its second round and since, `ended` saying that it
is over: each reference as often as it stands on the page, and when all of these calls have been
answered, each of the ids `earlier`. -/
structure Asked (references : List Reference) (earlier : List String) (first second : Moments)
    (ended : Prop) : Prop where
  first_called : (calls first).Subperm (references.map (·.txid))
  first_settled : second ≠ [] ∨ ended → Settled (references.map (·.txid)) first
  second_called : (calls second).Subperm earlier
  second_settled : ended → Settled earlier second

theorem Follows.asked (h : Follows p ms q) : ∃ first second, ms = first ++ second ∧
    Asked (referencesIn ms p.page p.size) (lookups first).found.takenIds first second
      q.outcome?.isSome := by
  cases h with
  | begun hstage hstore =>
    have hopen : p.outcome? = none := by
      rw [outcome?, hstage]
    refine ⟨[], [], rfl, List.nil_subperm, fun h => ?_, List.nil_subperm, fun h => ?_⟩ <;>
      simp [hopen] at h
  | @under one two _ index hi hcourse =>
    have hreferences : referencesIn (one ++ two) p.page p.size = p.references index := by
      rw [referencesIn, hi]
      rfl
    rw [hreferences]
    refine ⟨one, two, rfl, ?_⟩
    cases hcourse with
    | first hr hd =>
      exact ⟨hr.subperm, fun h => by simp [outcome?] at h, List.nil_subperm,
        fun h => by simp [outcome?] at h⟩
    | second hf hr hd =>
      exact ⟨hf.called.subperm, fun _ => hf, hr.subperm.trans (p.laterIds_perm _).subperm,
        fun h => by simp [outcome?] at h⟩
    | done hf hover =>
      exact ⟨hf.called.subperm, fun _ => hf, hover.called.subperm, fun _ => hover⟩
  | failed hi hcalls hlookups hfailed =>
    -- Nothing has been asked, and there is nothing that had to be.
    have hreferences : referencesIn ms p.page p.size = [] := by
      rw [referencesIn, hi]
      simp [paginate]
    have htaken : (lookups ms).found.takenIds = [] := by
      rw [hlookups]
      rfl
    have hsettled : Settled [] ms := ⟨.of_eq hcalls, .of_eq (by rw [hlookups]; rfl)⟩
    rw [hreferences]
    refine ⟨ms, [], (List.append_nil ms).symm, hsettled.called.subperm, fun _ => hsettled,
      List.nil_subperm, fun _ => ?_⟩
    rw [htaken]
    exact ⟨.refl _, .refl _⟩

/-- Something happens to an inquiry, and it is not cancelled. -/
def Moves (q r : Inquiry) : Prop := ∃ e asks, e ≠ .cancel ∧ q.step? e = some (r, asks)

/-- Whatever an inquiry is answered and when, it comes to an end. -/
theorem comes_to_an_end (config : InquiryConfig) (address : String) (page size : Nat) :
    Inevitable Moves (fun q => q.outcome?.isSome)
      (begin config none false address page size).1 := by
  rw [begin]
  cases Address.indexKey address with
  | error error => exact .now rfl
  | ok key =>
    have hindex : Event.index (.ok []) ≠ .cancel := by
      intro h
      cases h
    refine .later ⟨_, _, [], hindex, rfl⟩ ?_
    rintro r ⟨e, asks, hc, hs⟩
    obtain ⟨answer, -, rfl, rfl⟩ := step?_of_round?_eq_none rfl hc hs
    cases answer with
    | error error => exact .now rfl
    | ok index =>
      -- A step that is possible with one kind of answers is possible.
      have hmoves : ∀ {q r}, Turn (fun txid => .error (.notFound txid)) (fun _ => .ok []) q r →
          Moves q r := by
        rintro q r ⟨e, asks, he, hs⟩
        exact ⟨e, asks, he.ne_cancel, hs⟩
      refine Inevitable.of_rank (I := fun q => ∃ log, Accounted _ index q log)
        (Prod.lex Nat.lt_wfRel Nat.lt_wfRel).wf remaining ?_ ?_ ⟨_, .ofIndex rfl index⟩
      · rintro q ⟨log, hacc⟩
        cases hacc with
        | first hr hd => exact .inr ((turn_of_round rfl hr hd).imp fun _ => hmoves)
        | second hf hr hd => exact .inr ((turn_of_round rfl hr hd).imp fun _ => hmoves)
        | done hf hover => exact .inl rfl
      · rintro q r ⟨log, hacc⟩ ⟨e, asks, hc, hs⟩
        obtain ⟨hkept, hless⟩ := hacc.step rfl hc hs
        exact ⟨⟨_, hkept⟩, hless⟩

theorem follows_of_traced {config : InquiryConfig} {address : String} {page size : Nat}
    (run : Traced (begin config none false address page size).1 ms q)
    (hc : ∀ m ∈ ms, m.event ≠ .cancel) :
    (∃ p, p.page = page ∧ p.size = size ∧ Follows p ms q) ∧
      ∀ m ∈ ms, ∀ ask ∈ m.output, ∃ number txid, ask = .lookup number txid := by
  obtain ⟨p, hp, hpage, hsize, hstart⟩ : ∃ p : Inquiry, p.cancelled = false ∧ p.page = page ∧
      p.size = size ∧ Follows p [] (begin config none false address page size).1 := by
    rw [begin]
    cases Address.indexKey address with
    | error error =>
      exact ⟨⟨config, address, "", page, size, none, false, .index⟩, rfl, rfl, rfl,
        .failed rfl rfl rfl rfl⟩
    | ok key => exact ⟨_, rfl, rfl, rfl, .begun rfl rfl⟩
  have hall := keeps_uncancelled (I := fun ms q => Follows p ms q ∧
    ∀ m ∈ ms, ∀ ask ∈ m.output, ∃ number txid, ask = .lookup number txid)
    ⟨hstart, fun m hm => by cases hm⟩ ?_ run hc
  · exact ⟨⟨p, hpage, hsize, hall.1⟩, hall.2⟩
  · rintro ms m ⟨hfollows, honly⟩ hm hs
    obtain ⟨hnext, hask⟩ := hfollows.moment hp hm hs
    rw [List.forall_mem_append, List.forall_mem_singleton]
    exact ⟨hnext, honly, hask⟩

/-- **An inquiry without a store asks the node for exactly what it needs.** It comes to an end
whatever it is answered, and a run can be cut where the first round is over: before, the node is
asked for each reference of the page as often as it stands there, and since then once for each id
that the transactions found take outputs from. If there is one answer to each id, which carries it,
those are all the transactions of the page that are answered. -/
theorem calls_what_it_needs (config : InquiryConfig) (address : String) (page size : Nat) :
    (∀ ask ∈ (begin config none false address page size).2, ∃ key, ask = .index key) ∧
    Inevitable Moves (fun q => q.outcome?.isSome)
      (begin config none false address page size).1 ∧
    ∀ ms q, Traced (begin config none false address page size).1 ms q →
      (∀ m ∈ ms, m.event ≠ .cancel) →
      (∀ m ∈ ms, ∀ ask ∈ m.output, ∃ number txid, ask = .lookup number txid) ∧
      ∃ first second earlier, ms = first ++ second ∧ earlier.Nodup ∧
        (∀ txid, txid ∈ earlier ↔ (lookups first).TakesFrom txid) ∧
        Asked (referencesIn ms page size) earlier first second q.outcome?.isSome ∧
        ∀ f, Carries f → (∀ p ∈ lookups first, p.2 = f p.1) → second ≠ [] ∨ q.outcome?.isSome →
          ∀ txid, txid ∈ earlier ↔
            ∃ r ∈ referencesIn ms page size, ∃ tx, f r.txid = .ok tx ∧ TakesFrom tx txid := by
  refine ⟨?_, comes_to_an_end config address page size, fun ms q run hc => ?_⟩
  · rw [begin]
    cases Address.indexKey address with
    | error error =>
      intro ask hask
      cases hask
    | ok key => exact fun ask hask => ⟨key, List.mem_singleton.1 hask⟩
  · obtain ⟨⟨p, rfl, rfl, hfollows⟩, honly⟩ := follows_of_traced run hc
    obtain ⟨first, second, hsplit, hasked⟩ := hfollows.asked
    refine ⟨honly, first, second, (lookups first).found.takenIds, hsplit, nodup_eraseDups _,
      fun _ => Lookups.mem_takenIds, hasked, fun f hf hanswers hpast txid => ?_⟩
    rw [Lookups.mem_takenIds]
    exact Lookups.takesFrom_of_answers hf (hasked.first_settled hpast).answered hanswers

/-- An index in which one reference stands twice, to what takes from the other. -/
def doubledIndex : List Reference := [⟨"aa", 1⟩, ⟨"bb", 2⟩, ⟨"bb", 2⟩]

/-- What happens in the first round of an inquiry about it, and in the second. -/
def doubledRounds : List Event × List Event :=
  ([.index (.ok doubledIndex), .next, .next, .next, .next, .start, .start, .start,
    .found 2 (minted "aa"), .found 1 (minted "bb"), .found 0 (minted "bb")],
  [.next, .next, .start, .found 0 (minted "aa")])

/-- The inquiry between its rounds. -/
def halfway (key : String) : Inquiry :=
  let output : TxOutput := ⟨50, 0, ⟨"", "", .unknown⟩⟩
  let found : Found :=
    [⟨"aa", none, 2, 7, [none], [output]⟩, ⟨"bb", none, 1, 9, [some ⟨"aa", 0⟩], [output]⟩]
  ⟨{}, genesisAddress, key, 0, 10, none, false, .second doubledIndex found (.ofInputs ["aa"] 8 64)⟩

set_option maxRecDepth 8000 in
theorem retrace?_doubled (key : String) :
    (Trace.retrace? step? (inquirer key) doubledRounds.1).map
        (fun out => (calls out.1, lookups out.1, out.2))
      = some (["bb", "bb", "aa"],
          [("aa", minted "aa"), ("bb", minted "bb"), ("bb", minted "bb")], halfway key) := by
  cbv

theorem retrace?_halfway (key : String) :
    (Trace.retrace? step? (halfway key) doubledRounds.2).map
        (fun out => (calls out.1, lookups out.1, out.2.outcome?.isSome))
      = some (["aa"], [("aa", minted "aa")], true) := rfl

/-- Each reference is asked for, and what two of them take from is asked for once more. -/
theorem calls_what_it_needs_doubled : ∃ ms q,
    Traced (begin {} none false genesisAddress 0 10).1 ms q ∧ (∀ m ∈ ms, m.event ≠ .cancel) ∧
    q.outcome?.isSome ∧ Carries minted ∧ (∀ p ∈ lookups ms, p.2 = minted p.1) ∧
    calls ms = ["bb", "bb", "aa", "aa"] ∧
    (∀ m ∈ ms, ∀ ask ∈ m.output, ∃ number txid, ask = .lookup number txid) ∧
    ∃ first second, ms = first ++ second ∧ (calls first).Perm ["bb", "bb", "aa"] ∧
      calls second = ["aa"] := by
  obtain ⟨key, hkey⟩ := exists_indexKey
  obtain ⟨⟨one, middle⟩, hone, hfound⟩ := Option.map_eq_some_iff.1 (retrace?_doubled key)
  obtain ⟨⟨two, last⟩, htwo, hended⟩ := Option.map_eq_some_iff.1 (retrace?_halfway key)
  simp only [Prod.mk.injEq] at hfound hended
  obtain ⟨hcallsOne, hlookupsOne, rfl⟩ := hfound
  obtain ⟨hcallsTwo, hlookupsTwo, hover⟩ := hended
  have run : Traced (begin {} none false genesisAddress 0 10).1 (one ++ two) last := by
    rw [begin, hkey]
    exact (Trace.of_retrace? hone).trans (Trace.of_retrace? htwo)
  have hevents : (one ++ two).map (·.event) = doubledRounds.1 ++ doubledRounds.2 := by
    rw [List.map_append, Trace.map_event_of_retrace? hone, Trace.map_event_of_retrace? htwo]
  have hc : ∀ m ∈ one ++ two, m.event ≠ .cancel := by
    intro m hm hcancel
    have hevent := List.mem_map_of_mem (f := (·.event)) hm
    rw [hevents, hcancel] at hevent
    simp [doubledRounds] at hevent
  have hcalls : calls (one ++ two) = ["bb", "bb", "aa", "aa"] := by
    rw [calls_append, hcallsOne, hcallsTwo]
    rfl
  have hanswers : ∀ p ∈ lookups (one ++ two), p.2 = minted p.1 := by
    rw [lookups_append, hlookupsOne, hlookupsTwo]
    simp
  obtain ⟨honly, first, second, earlier, hsplit, hdistinct, -, hasked, htaken⟩ :=
    (calls_what_it_needs {} genesisAddress 0 10).2.2 _ _ run hc
  have hreferences : referencesIn (one ++ two) 0 10 = [⟨"bb", 2⟩, ⟨"bb", 2⟩, ⟨"aa", 1⟩] := by
    rw [referencesIn, indexIn?, hevents]
    rfl
  have hfirst : ∀ p ∈ lookups first, p.2 = minted p.1 := by
    intro p hp
    refine hanswers p ?_
    rw [hsplit, lookups_append]
    exact List.mem_append_left _ hp
  have hearlier : earlier.Perm ["aa"] := by
    refine (List.perm_ext_iff_of_nodup hdistinct (List.nodup_singleton _)).2 fun txid => ?_
    rw [htaken minted carries_minted hfirst (.inr hover) txid, hreferences]
    simp [minted, TakesFrom, eq_comm]
  have hcalled := (hasked.first_settled (.inr hover)).called
  rw [hreferences] at hcalled
  exact ⟨_, _, run, hc, hover, carries_minted, hanswers, hcalls, honly, first, second, hsplit,
    hcalled, List.perm_singleton.1 ((hasked.second_settled hover).called.trans hearlier)⟩

end Inquiry

end History

end ChainExplorer
