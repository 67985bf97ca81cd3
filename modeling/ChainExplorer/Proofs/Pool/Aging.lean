import ChainExplorer.Proofs.Pool.Closing
import ChainExplorer.Proofs.Pool.IdleOrder

/-!
# How old idle connections get

A connection comes back at any time and is idle from then on. Sweeps come at times of their own, one
interval apart, and a connection that is just too young for one is closed by the next. So it gets
older than the idle timeout, but by less than an interval. What carries this is where the next sweep
stands (`Timely`): within an interval of the present, and within an interval of the time at which
any idle connection becomes too old. A return keeps the second because of the first.

The bound holds wherever no sweep is due, however late the sweeps before were. On a clock that waits
they are never late, and come at the multiples of the interval (`sweepTimes_eq`). To such a state a
pool comes by its own turns before any time has passed (`settled_inevitable`).
-/

namespace ChainExplorer
namespace Pool

/-! ## The next sweep -/

section NextSweep

variable (p : Pool)

theorem nextSweep_wakeOne : p.wakeOne.nextSweep = p.nextSweep := by rw [wakeOne_eq]

theorem nextSweep_giveBack (c : Nat) (invalid : Bool) :
    (p.giveBack c invalid).nextSweep = p.nextSweep := by
  rw [giveBack, nextSweep_wakeOne]
  split <;> rfl

theorem nextSweep_giveUpRoom : p.giveUpRoom.nextSweep = p.nextSweep := nextSweep_wakeOne _

theorem nextSweep_look (w : Waiter) : (p.look w).1.nextSweep = p.nextSweep := by
  have hl := p.looked w
  generalize p.look w = out at hl
  cases hl <;> rfl

theorem nextSweep_evict : p.evict.nextSweep = p.nextSweep := by
  simp only [evict]
  split <;> rfl

theorem nextSweep_shut : p.shut.nextSweep = p.nextSweep := by
  unfold shut
  split <;> rfl

end NextSweep

section Events

variable {p q : Pool} {e : Event} {out : Pool × Move}

/-- The time of the next sweep after an event. -/
def Event.nextSweepAfter (p : Pool) : Event → Nat
  | .sweep => p.nextSweep + p.config.evictionInterval
  | _ => p.nextSweep

/-- **Only a sweep puts off the next one**, by an interval. -/
theorem nextSweep_event (hs : p.step? e = some out) : out.1.nextSweep = e.nextSweepAfter p := by
  cases happens hs with
  | acquire | resume => exact nextSweep_look _ _
  | probeFailed => exact (nextSweep_look _ _).trans (nextSweep_giveBack _ _ _)
  | connectFailed | expireConnecting | abandonConnecting => exact nextSweep_giveUpRoom _
  | expireProbing | abandonProbing | release => exact nextSweep_giveBack _ _ _
  | abandonAlone => exact nextSweep_wakeOne _
  | sweep => exact nextSweep_evict _
  | close => exact nextSweep_shut p
  | _ => rfl

theorem nextSweep_kept (hs : p.step? e = some out) (he : e ≠ .sweep) :
    out.1.nextSweep = p.nextSweep := by
  rw [nextSweep_event hs]
  cases e <;> first | rfl | exact absurd rfl he

/-! ## Sweeps come in time -/

/-- The next sweep is within an interval of the present, and of the time at which any idle
connection becomes too old. -/
structure Timely (p : Pool) : Prop where
  soon : p.nextSweep ≤ p.now + p.config.evictionInterval
  reached : ∀ i ∈ p.idle,
    p.nextSweep ≤ i.since + p.config.idleTimeout + p.config.evictionInterval

/-- What a sweep leaves is young. -/
theorem young_of_evict {i : Idle} (hi : i ∈ p.evict.idle) :
    p.now - i.since < p.config.idleTimeout := by
  have hmem : i ∈ p.idle.filter p.isYoung := by
    simp only [evict] at hi
    split at hi <;> exact List.mem_of_mem_drop hi
  simpa [isYoung] using (List.mem_filter.1 hmem).2

theorem Timely.sweep (hs : p.step? .sweep = some out) : Timely out.1 := by
  obtain ⟨-, due, rfl⟩ := sweep_eq hs
  have hnow := (remembers_evict (p := { p with
    nextSweep := p.nextSweep + p.config.evictionInterval })).now
  constructor
  · rw [nextSweep_evict, config_evict, hnow]
    exact Nat.add_le_add_right due _
  · intro i hi
    have hyoung := young_of_evict hi
    rw [nextSweep_evict, config_evict]
    dsimp only at hyoung ⊢
    omega

theorem Timely.event (h : Timely p) (hs : p.step? e = some out) : Timely out.1 := by
  by_cases he : e = .sweep
  · exact Timely.sweep (he ▸ hs)
  have hnext := nextSweep_kept hs he
  have hnow := now_le_event hs
  have hsoon := h.soon
  constructor
  · rw [hnext, config_event hs]
    omega
  · rw [hnext, config_event hs]
    rcases stirs_event hs with hsub | ⟨-, c, hput⟩
    · exact fun i hi => h.reached i (hsub.subset hi)
    · rw [hput]
      refine List.forall_mem_append.2 ⟨h.reached, List.forall_mem_singleton.2 ?_⟩
      dsimp only
      omega

theorem timely_of_traced {config : PoolConfig} {ms : Moments} (run : Traced (fresh config) ms q) :
    Timely q := by
  refine run.keeps (I := fun _ q => Timely q) ?_ (fun h hs => h.event hs) ?_
  · exact ⟨Nat.le_add_left _ _, fun i hi => nomatch hi⟩
  · rintro ms q r h ⟨time, hle, rfl⟩
    exact ⟨Nat.le_trans h.soon (Nat.add_le_add_right hle _), h.reached⟩

/-! ## States in which nothing can go on -/

/-- Nothing can go on without time passing, neither an acquire nor a sweep. -/
def Settled (p : Pool) : Prop := p.AtRest ∧ p.step? .sweep = none

theorem sweep_eq_none : p.step? .sweep = none ↔ p.closed = true ∨ p.now < p.nextSweep := by
  simp only [step?]
  split
  · rename_i hn
    simpa using hn
  · rename_i hn
    simpa using hn

/-- **Where nothing can go on, every idle connection is younger than the idle timeout and an
interval.** -/
theorem Settled.age_lt (h : Settled p) (hsound : Sound p {}) (htimely : Timely p)
    (horder : InOrder p) {i : Idle} (hi : i ∈ p.idle) : i.since ≤ p.now ∧
      p.now - i.since < p.config.idleTimeout + p.config.evictionInterval := by
  have hpast := horder.past i hi
  refine ⟨hpast, ?_⟩
  rcases sweep_eq_none.1 h.2 with hclosed | hwaits
  · rw [(hsound.drained hclosed).1] at hi
    cases hi
  · have hreached := htimely.reached i hi
    omega

/-- A turn of an acquire, or a sweep that is due. -/
def Goes (p q : Pool) : Prop := Turn p q ∨ ∃ out, p.step? .sweep = some out ∧ out.1 = q

theorem goes_of_not_settled (h : ¬ Settled p) : ∃ q, Goes p q := by
  rw [Settled, not_and_or] at h
  rcases h with hturn | hsweep
  · obtain ⟨q, hq⟩ := turn_of_not_atRest hturn
    exact ⟨q, .inl hq⟩
  · obtain ⟨out, hout⟩ := Option.ne_none_iff_exists'.1 hsweep
    exact ⟨out.1, .inr ⟨out, hout, rfl⟩⟩

/-- What goes on brings sweeps that are due to an end, and acquires between them. -/
def overdue (p : Pool) : Nat × Nat := (p.now + 1 - p.nextSweep, p.potential)

theorem Goes.lowers (h : Goes p q) (hpos : 0 < p.config.evictionInterval) :
    (q.now = p.now ∧ q.config = p.config) ∧
      Prod.Lex (· < ·) (· < ·) q.overdue p.overdue := by
  rcases h with hturn | ⟨out, hs, rfl⟩
  · obtain ⟨hless, hnow⟩ := hturn.lowers
    obtain ⟨e, out, hisTurn, hs, rfl⟩ := hturn
    have hnext : out.1.nextSweep = p.nextSweep :=
      nextSweep_kept hs fun he => by rw [he] at hisTurn; cases hisTurn
    refine ⟨⟨hnow, config_event hs⟩, ?_⟩
    rw [overdue, overdue, hnext, hnow]
    exact .right _ hless
  · obtain ⟨-, due, -⟩ := sweep_eq hs
    have hnow : out.1.now = p.now := (memory_event hs).1
    have hnext : out.1.nextSweep = p.nextSweep + p.config.evictionInterval := nextSweep_event hs
    refine ⟨⟨hnow, config_event hs⟩, .left _ _ ?_⟩
    omega

/-- **Whatever goes on first, a pool settles before any time has passed.** -/
theorem settled_inevitable (hpos : 0 < p.config.evictionInterval) :
    Inevitable Goes (fun r => Settled r ∧ r.now = p.now) p := by
  refine Inevitable.of_rank (Prod.lex Nat.lt_wfRel Nat.lt_wfRel).wf overdue
    (I := fun r => r.now = p.now ∧ r.config = p.config) ?_ ?_ ⟨rfl, rfl⟩
  · rintro r ⟨hnow, -⟩
    by_cases hsettled : Settled r
    · exact .inl ⟨hsettled, hnow⟩
    · exact .inr (goes_of_not_settled hsettled)
  · rintro r s ⟨hnow, hconfig⟩ hgoes
    obtain ⟨⟨hnow', hconfig'⟩, hless⟩ := hgoes.lowers (hconfig ▸ hpos)
    exact ⟨⟨hnow'.trans hnow, hconfig'.trans hconfig⟩, hless⟩

/-- Time does not pass the next sweep of an open pool. -/
theorem now_le_nextSweep (hs : p.step? e = some out) (hle : p.now ≤ p.nextSweep) :
    p.closed = true ∨ out.1.now ≤ p.nextSweep := by
  rw [(memory_event hs).1]
  cases happens hs with
  | advance may =>
    simp only [mayAdvance, Bool.and_eq_true, Bool.or_eq_true, decide_eq_true_eq] at may
    exact may.2
  | _ => exact .inr hle

end Events

/-! ## The times of sweeps -/

/-- The time of a sweep. -/
def sweepTime? (m : Moment Pool Event Move) : Option Nat :=
  match m.event with
  | .sweep => some m.before.now
  | _ => none

/-- The times of the sweeps so far, in their order. -/
def sweepTimes (ms : Moments) : List Nat := ms.filterMap sweepTime?

/-- The first multiples of an interval. -/
def multiples (interval count : Nat) : List Nat :=
  (List.range count).map fun k => (k + 1) * interval

/-- So many sweeps have come, one interval apart, and the next has not been missed. -/
structure Swept (interval count : Nat) (ms : Moments) (p : Pool) : Prop where
  times : sweepTimes ms = multiples interval count
  next : p.nextSweep = (count + 1) * interval
  last : count * interval ≤ p.now
  inTime : p.closed = true ∨ p.now ≤ p.nextSweep

section Swept

variable {interval count : Nat} {ms : Moments} {m : Moment Pool Event Move}

theorem Swept.sweep (h : Swept interval count ms m.before)
    (hconfig : m.before.config.evictionInterval = interval) (hm : m.event = .sweep)
    (hs : m.before.step? m.event = some (m.after, m.output)) :
    Swept interval (count + 1) (ms ++ [m]) m.after := by
  have hnext : m.after.nextSweep = m.event.nextSweepAfter m.before := nextSweep_event hs
  rw [hm] at hs hnext
  have hnow : m.after.now = m.before.now := (memory_event hs).1
  obtain ⟨hopen, due, -⟩ := sweep_eq hs
  have hlast := h.next
  -- The sweep is due and has not been missed, so this is its time.
  have htime : m.before.now = (count + 1) * interval := by
    rcases h.inTime with hclosed | hle
    · rw [hopen] at hclosed
      cases hclosed
    · omega
  rw [Event.nextSweepAfter, hconfig, hlast] at hnext
  rw [htime] at hnow
  refine ⟨?_, ?_, Nat.le_of_eq hnow.symm, .inr ?_⟩
  · have hsweep : sweepTime? m = some ((count + 1) * interval) := by
      rw [sweepTime?, hm, htime]
    rw [sweepTimes, List.filterMap_append, ← sweepTimes, h.times, multiples, multiples,
      List.filterMap_cons_some hsweep, List.range_succ, List.map_append]
    rfl
  · rw [hnext, Nat.succ_mul (count + 1)]
  · rw [hnow, hnext]
    exact Nat.le_add_right _ _

theorem Swept.wait (h : Swept interval count ms m.before) (hsound : Sound m.before {})
    (hm : m.event ≠ .sweep) (hs : m.before.step? m.event = some (m.after, m.output)) :
    Swept interval count (ms ++ [m]) m.after := by
  have hnext : m.after.nextSweep = m.before.nextSweep := nextSweep_kept hs hm
  refine ⟨?_, hnext.trans h.next, Nat.le_trans h.last (now_le_event hs), ?_⟩
  · have hnone : sweepTime? m = none := by
      unfold sweepTime?
      split
      · rename_i hsweep
        exact absurd hsweep hm
      · rfl
    rw [sweepTimes, List.filterMap_append, ← sweepTimes, h.times,
      List.filterMap_cons_none hnone]
    exact List.append_nil _
  · have hclosed (hc : m.before.closed = true) : m.after.closed = true :=
      (hsound.dwindles_event hc hs).closed
    rw [hnext]
    rcases h.inTime with hc | hle
    · exact .inl (hclosed hc)
    · exact (now_le_nextSweep hs hle).imp_left hclosed

end Swept

theorem swept_of_onClock {config : PoolConfig} {ms : Moments} {q : Pool}
    (run : OnClock (fresh config) ms q) :
    ∃ count, Swept config.evictionInterval count ms q := by
  have hall := run.keeps (I := fun ms q => (Sound q {} ∧ q.config = config) ∧
    ∃ count, Swept config.evictionInterval count ms q) ?_ ?_ fun _ hdrift => hdrift.elim
  · exact hall.2
  · refine ⟨⟨.fresh config, rfl⟩, 0, rfl, (Nat.one_mul _).symm, ?_, .inr (Nat.zero_le _)⟩
    exact Nat.le_of_eq (Nat.zero_mul _)
  · rintro ms m ⟨⟨hsound, hconfig⟩, count, h⟩ hs
    refine ⟨⟨hsound.event hs, (config_event hs).trans hconfig⟩, ?_⟩
    by_cases hm : m.event = .sweep
    · exact ⟨_, h.sweep (congrArg PoolConfig.evictionInterval hconfig) hm hs⟩
    · exact ⟨_, h.wait hsound hm hs⟩

/-- On a clock that waits, an open pool that has settled has been swept at every multiple of the
interval up to then, and at no other time. -/
theorem sweepTimes_eq {config : PoolConfig} {ms : Moments} {q : Pool}
    (run : OnClock (fresh config) ms q) (hopen : q.closed = false) (hsettled : Settled q) :
    sweepTimes ms = multiples config.evictionInterval (q.now / config.evictionInterval) := by
  obtain ⟨count, h⟩ := swept_of_onClock run
  have hwaits : q.now < (count + 1) * config.evictionInterval := by
    rcases sweep_eq_none.1 hsettled.2 with hclosed | hwaits
    · rw [hopen] at hclosed
      cases hclosed
    · exact h.next ▸ hwaits
  rw [h.times, Nat.div_eq_of_lt_le h.last hwaits]

/-- **Idle connections have a bounded age.** Whatever has happened to a pool, and however late:

* wherever nothing can go on without time passing, every idle connection has come back less than the
  idle timeout and an interval ago;
* on a clock that waits, the sweeps of an open pool have come then at every multiple of the interval
  and at no other time;
* to such a state the pool is bound to come before any time has passed. -/
theorem idle_age_bounded {config : PoolConfig} {new : Pool} (hnew : ofConfig config = .ok new) :
    (∀ ms q, Traced new ms q → Settled q → ∀ i ∈ q.idle, i.since ≤ q.now ∧
      q.now - i.since < config.idleTimeout + config.evictionInterval) ∧
    (∀ ms q, OnClock new ms q → q.closed = false → Settled q →
      sweepTimes ms = multiples config.evictionInterval (q.now / config.evictionInterval)) ∧
    ∀ ms q, Traced new ms q → Inevitable Goes (fun r => Settled r ∧ r.now = q.now) q := by
  obtain ⟨rfl, -, hpos⟩ := ofConfig_eq_ok hnew
  refine ⟨fun ms q run hsettled i hi => ?_, fun ms q => sweepTimes_eq, fun ms q run => ?_⟩
  · have hage := hsettled.age_lt (sound_of_traced run) (timely_of_traced run)
      (inOrder_of_traced run) hi
    rwa [config_run (reaches_of_traced run)] at hage
  · refine settled_inevitable ?_
    rwa [config_run (reaches_of_traced run)]

/-- The one connection may be idle for ten milliseconds, and every eight there is a sweep. -/
def unhurried : PoolConfig :=
  { maxOpen := 1, maxIdle := 1, idleTimeout := 10, evictionInterval := 8 }

/-- The connection comes back just before a sweep and is just too young for the next. -/
def lingering : List Event :=
  [.acquire 0 5000, .connected 0, .advance 7, .release 0, .advance 8, .sweep, .advance 16, .sweep,
    .advance 23]

/-- The moments of that run, and the pool after it. -/
def lingered : Moments × Pool :=
  (Trace.retrace? step? (fresh unhurried) lingering).getD ([], fresh unhurried)

/-- Then the connection is older than the idle timeout, and within the bound. The third sweep closes
it. -/
theorem idle_age_bounded_lingering : OnClock (fresh unhurried) lingered.1 lingered.2 ∧
    Settled lingered.2 ∧ lingered.2.idle = [⟨0, 7⟩] ∧ unhurried.idleTimeout < lingered.2.now - 7 ∧
    lingered.2.now - 7 < unhurried.idleTimeout + unhurried.evictionInterval ∧
    sweepTimes lingered.1 = [8, 16] ∧
    (lingered.2.after? [.advance 24, .sweep]).map (·.idle) = some [] := by
  have retraced : Trace.retrace? step? (fresh unhurried) lingering
      = some (lingered.1, lingered.2) := rfl
  have run : OnClock (fresh unhurried) lingered.1 lingered.2 := Trace.of_retrace? retraced
  have hnew : ofConfig unhurried = .ok (fresh unhurried) := rfl
  have hsettled : Settled lingered.2 := ⟨atRest_iff.2 ⟨rfl, nofun⟩, rfl⟩
  obtain ⟨ages, times, -⟩ := idle_age_bounded hnew
  have hage := ages _ _ (traced_of_onClock run) hsettled ⟨0, 7⟩ List.mem_cons_self
  exact ⟨run, hsettled, rfl, by decide, hage.2, times _ _ run rfl hsettled, rfl⟩

end Pool
end ChainExplorer
