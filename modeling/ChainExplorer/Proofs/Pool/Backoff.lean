import ChainExplorer.Proofs.Pool.Clock
import ChainExplorer.Proofs.Pool.Ownership

/-!
# After a failed connect

A pool remembers how its latest connect failed until one succeeds. Several connects may be under way
when one of them ends, so what is remembered is not told by the state alone: it is the outcome of
the connect that settled last (`failure_eq_remembered`). A connect that is given up at its deadline,
or because nobody waits for it any more, settles nothing and leaves no trace.

Whoever looks around for room goes by that memory. It opens nothing until the window after the
latest failure has passed, and is refused at once until then (`connect_backs_off`).
-/

namespace ChainExplorer
namespace Pool

/-! ## How connects settle -/

/-- How a connect has ended. -/
inductive Settlement where
  | opened
  | failed (time : Nat) (error : TransportError)

/-- How a connect ended at a moment. -/
def settlement? (m : Moment Pool Event Move) : Option Settlement :=
  match m.event with
  | .connected _ => some .opened
  | .connectFailed _ error => some (.failed m.before.now error)
  | _ => none

/-- How the connect ended that was the last to end. -/
def lastSettlement? (ms : Moments) : Option Settlement := (ms.filterMap settlement?).getLast?

/-- What a pool keeps of that. -/
def remembered : Option Settlement → Option (Nat × String)
  | some (.failed time error) => some (time, error.message)
  | some .opened => none
  | none => none

theorem lastSettlement?_concat (ms : Moments) (m : Moment Pool Event Move) :
    lastSettlement? (ms ++ [m]) = (settlement? m).or (lastSettlement? ms) := by
  rw [lastSettlement?, List.filterMap_append]
  cases hm : settlement? m with
  | none =>
    rw [List.filterMap_cons_none hm, List.filterMap_nil, List.append_nil, Option.none_or,
      lastSettlement?]
  | some s =>
    rw [List.filterMap_cons_some hm, List.filterMap_nil, List.getLast?_concat, Option.some_or]

theorem failureAfter_eq (m : Moment Pool Event Move) :
    m.event.failureAfter m.before
      = if (settlement? m).isSome then remembered (settlement? m) else m.before.failure := by
  obtain ⟨p, e, move, q⟩ := m
  cases e <;> rfl

theorem time_of_settlement? {m : Moment Pool Event Move} {time : Nat} {error : TransportError}
    (h : settlement? m = some (.failed time error)) : time = m.before.now := by
  unfold settlement? at h
  split at h <;> cases h
  rfl

/-- **What a pool remembers is how the last connect settled**, and that is in the past. -/
theorem failure_eq_remembered {config : PoolConfig} {ms : Moments} {q : Pool}
    (run : Traced (fresh config) ms q) :
    q.failure = remembered (lastSettlement? ms) ∧
      ∀ time error, lastSettlement? ms = some (.failed time error) → time ≤ q.now := by
  refine run.keeps (I := fun ms q => q.failure = remembered (lastSettlement? ms) ∧
    ∀ time error, lastSettlement? ms = some (.failed time error) → time ≤ q.now) ?_ ?_ ?_
  · exact ⟨rfl, fun time error h => nomatch h⟩
  · rintro ms m ⟨hfailure, hpast⟩ hs
    have hnow : m.before.now ≤ m.after.now := now_le_event hs
    have hafter : m.after.failure = m.event.failureAfter m.before := (memory_event hs).2
    rw [failureAfter_eq] at hafter
    rw [lastSettlement?_concat]
    cases hm : settlement? m with
    | none =>
      rw [hm] at hafter
      exact ⟨hafter.trans hfailure, fun time error h => Nat.le_trans (hpast time error h) hnow⟩
    | some settled =>
      rw [hm] at hafter
      refine ⟨hafter, fun time error h => ?_⟩
      rw [time_of_settlement? (hm.trans h)]
      exact hnow
  · rintro ms q r ⟨hfailure, hpast⟩ ⟨time, hle, rfl⟩
    exact ⟨hfailure, fun time error h => Nat.le_trans (hpast time error h) hle⟩

/-! ## Looking around -/

/-- An acquire looks around at an event, and this is the pool that it finds. -/
inductive Looks (p : Pool) : Event → Pool → Waiter → Prop
  | acquire (w : Waiter) : Looks p (.acquire w.ticket w.deadline) p w
  | resume {w : Woken} {rest : List Woken}
      (hx : extract? (·.waiter.ticket = w.waiter.ticket) p.woken = some (w, rest)) :
      Looks p (.resume w.waiter.ticket) { p with woken := rest } w.waiter
  | probeFailed {a : Probe} {rest : List Probe}
      (hx : extract? (·.ticket = a.ticket) p.probing = some (a, rest)) :
      Looks p (.probeFailed a.ticket) (giveBack { p with probing := rest } a.conn true)
        ⟨a.ticket, a.deadline⟩

theorem Looks.step {p q : Pool} {e : Event} {w : Waiter} {out : Pool × Move}
    (h : Looks p e q w) (hs : p.step? e = some out) : out = q.look w := by
  cases h with
  | acquire w =>
    simp only [step?] at hs
    split at hs
    · cases hs
    · exact (Option.some.inj hs).symm
  | resume hx =>
    simp only [step?, hx, Option.map_some] at hs
    exact (Option.some.inj hs).symm
  | probeFailed hx =>
    simp only [step?, hx, Option.map_some] at hs
    exact (Option.some.inj hs).symm

theorem Looks.remembers {p q : Pool} {e : Event} {w : Waiter} (h : Looks p e q w) :
    Remembers p q ∧ q.config = p.config := by
  cases h with
  | acquire w => exact ⟨⟨rfl, rfl⟩, rfl⟩
  | resume hx => exact ⟨⟨rfl, rfl⟩, rfl⟩
  | @probeFailed a rest hx =>
    have hback := remembers_giveBack { p with probing := rest } a.conn true
    exact ⟨⟨hback.now, hback.failure⟩, config_giveBack _ _ _⟩

/-- Only whoever looks around goes on to something else. -/
theorem looks_of_goesOn {p : Pool} {e : Event} {out : Pool × Move} (hs : p.step? e = some out)
    (hon : out.2.goesOn = true) : ∃ q w, Looks p e q w := by
  cases happens hs with
  | @acquire w new => exact ⟨_, _, .acquire w⟩
  | resume hx => exact ⟨_, _, .resume hx⟩
  | probeFailed hx => exact ⟨_, _, .probeFailed hx⟩
  | _ => cases hon

theorem looks_of_connect {p : Pool} {e : Event} {out : Pool × Move} (hs : p.step? e = some out)
    (hc : out.2 = .connect) : ∃ q w, Looks p e q w :=
  looks_of_goesOn hs (hc ▸ rfl)

theorem recentFailure?_eq {p : Pool} {time : Nat} {text : String}
    (hf : p.failure = some (time, text)) (hpast : time ≤ p.now) :
    p.recentFailure? = if p.now < time + p.config.retryWindow then some text else none := by
  have hwindow : p.now - time < p.config.retryWindow ↔ p.now < time + p.config.retryWindow := by
    omega
  simp only [recentFailure?, hf, Option.bind_some, hwindow]

/-- What whoever looks around knows of the last connect, if that has failed. -/
theorem Looks.recent {config : PoolConfig} {ms : Moments} {p q : Pool} {e : Event}
    {w : Waiter} (h : Looks p e q w) (run : Traced (fresh config) ms p) {time : Nat}
    {error : TransportError} (hlast : lastSettlement? ms = some (.failed time error)) :
    q.recentFailure?
      = if p.now < time + config.retryWindow then some error.message else none := by
  obtain ⟨hfailure, hpast⟩ := failure_eq_remembered run
  obtain ⟨⟨hnow, hsame⟩, hconfig⟩ := h.remembers
  have hkept : p.config = config := config_run (reaches_of_traced run)
  have hknown : q.failure = some (time, error.message) := by
    rw [hsame, hfailure, hlast]
    rfl
  rw [recentFailure?_eq hknown (hnow ▸ hpast time error hlast), hnow, hconfig, hkept]

theorem recentFailure?_of_connect {p : Pool} {w : Waiter} (h : (p.look w).2 = .connect) :
    p.recentFailure? = none := by
  have hl := p.looked w
  generalize p.look w = out at hl h
  cases hl with
  | connect hc hi ho hf => exact hf
  | _ => cases h

/-- Within the window, whoever finds room is refused, and the pool stays as it is. -/
theorem look_of_recentFailure {p : Pool} {text : String} (hf : p.recentFailure? = some text)
    (hi : p.idle = []) (ho : p.opened < p.config.maxOpen) (w : Waiter) :
    p.look w = (p, .refuse (if p.closed then .closed else .connect (.connect text))) := by
  have hl := p.looked w
  generalize p.look w = out at hl
  cases hl with
  | closed hc => rw [hc]; rfl
  | probe hc hidle =>
    rw [hi] at hidle
    exact absurd hidle (by simp)
  | refuse hc hidle hopen hfail =>
    obtain rfl := Option.some.inj (hf.symm.trans hfail)
    rw [hc]
    rfl
  | connect hc hidle hopen hfail =>
    rw [hf] at hfail
    cases hfail
  | park hc hidle hfull => exact absurd ho (Nat.not_lt_of_le hfull)

/-! ## The result -/

/-- **A pool does not hammer a server that refuses it.** In every run, whoever begins to connect
does so where no connect has settled yet, or the last to settle has opened a connection, or has
failed at least a window before. Until then, whoever looks around a pool with nothing idle and room
for more is refused with that failure, or because the pool is closed, and leaves the pool as it
was. -/
theorem connect_backs_off {config : PoolConfig} {new q : Pool} {ms : Moments}
    (hnew : ofConfig config = .ok new) (run : Traced new ms q) :
    (∀ earlier m later, ms = earlier ++ m :: later → m.output = .connect →
      lastSettlement? earlier = none ∨ lastSettlement? earlier = some .opened ∨
        ∃ time error, lastSettlement? earlier = some (.failed time error) ∧
          time + config.retryWindow ≤ m.before.now) ∧
    (∀ earlier m later time error, ms = earlier ++ m :: later →
      lastSettlement? earlier = some (.failed time error) →
      m.before.now < time + config.retryWindow →
      ∀ found w, Looks m.before m.event found w → found.idle = [] →
        found.opened < config.maxOpen → m.after = found ∧
          m.output = .refuse
            (if found.closed then .closed else .connect (.connect error.message))) := by
  obtain ⟨rfl, _⟩ := ofConfig_eq_ok hnew
  constructor
  · rintro earlier m later rfl hconnect
    obtain ⟨first, hs, _⟩ := run.cut
    cases hlast : lastSettlement? earlier with
    | none => exact .inl rfl
    | some settled =>
      cases settled with
      | opened => exact .inr (.inl rfl)
      | failed time error =>
        obtain ⟨found, w, hlooks⟩ := looks_of_connect hs hconnect
        have hmove : (found.look w).2 = .connect := by rw [← hlooks.step hs]; exact hconnect
        have hnone := recentFailure?_of_connect hmove
        rw [hlooks.recent first hlast] at hnone
        refine .inr (.inr ⟨time, error, rfl, ?_⟩)
        by_cases hsoon : m.before.now < time + config.retryWindow
        · rw [if_pos hsoon] at hnone
          cases hnone
        · exact Nat.le_of_not_lt hsoon
  · rintro earlier m later time error rfl hlast hsoon found w hlooks hidle hroom
    obtain ⟨first, hs, _⟩ := run.cut
    have hrecent := hlooks.recent first hlast
    rw [if_pos hsoon] at hrecent
    have hkept : found.config = config :=
      hlooks.remembers.2.trans (config_run (reaches_of_traced first))
    have hout := hlooks.step hs
    rw [look_of_recentFailure hrecent hidle (hkept ▸ hroom)] at hout
    exact Prod.mk.inj hout

/-- Two connects are under way when one fails, and a third acquire comes at once. The other connect
succeeds, and a fourth acquire comes. Its connect fails, and the window passes before a fifth. -/
def refusing : List Event :=
  [.acquire 0 9000, .acquire 1 9000, .connectFailed 0 (.connect "refused"), .acquire 2 9000,
    .connected 1, .acquire 3 9000, .connectFailed 3 (.connect "gone"), .advance 2000,
    .acquire 4 9000]

/-- The moments of that run, and the pool after it. -/
def refused : Moments × Pool :=
  (Trace.retrace? step? (fresh {}) refusing).getD ([], fresh {})

/-- The pool that the third acquire finds. -/
def pressed : Pool := ((fresh {}).after? (refusing.take 3)).getD (fresh {})

/-- The third acquire is refused, the fourth connects in spite of the failure, and the fifth just
after the window of the next. -/
theorem connect_backs_off_refusing : Traced (fresh {}) refused.1 refused.2 ∧
    (∃ m, refused.1[3]? = some m ∧ m.event = .acquire 2 9000 ∧ m.after = m.before ∧
      m.output = .refuse (.connect (.connect "connect failed: refused"))) ∧
    (∃ m, refused.1[5]? = some m ∧ m.output = .connect ∧ m.before.now = 0) ∧
    ∃ m time error, refused.1[8]? = some m ∧ m.output = .connect ∧
      lastSettlement? (refused.1.take 8) = some (.failed time error) ∧
      time + 2000 ≤ m.before.now := by
  have retraced : Trace.retrace? step? (fresh {}) refusing = some (refused.1, refused.2) := rfl
  have run : Traced (fresh {}) refused.1 refused.2 := Trace.of_retrace? retraced
  have hnew : ofConfig {} = .ok (fresh {}) := rfl
  obtain ⟨connects, refuses⟩ := connect_backs_off hnew run
  obtain ⟨hafter, hmove⟩ := refuses (refused.1.take 3) _ (refused.1.drop 4) 0 (.connect "refused")
    rfl rfl (by decide) pressed ⟨2, 9000⟩ (.acquire ⟨2, 9000⟩) rfl (by decide)
  refine ⟨run, ⟨_, rfl, rfl, hafter, hmove⟩, ⟨_, rfl, rfl, rfl⟩, ?_⟩
  rcases connects (refused.1.take 8) _ (refused.1.drop 9) rfl rfl with
    hnone | hopened | ⟨time, error, hlast, hpassed⟩
  · cases hnone
  · cases hopened
  · exact ⟨_, time, error, rfl, rfl, hlast, hpassed⟩

end Pool
end ChainExplorer
