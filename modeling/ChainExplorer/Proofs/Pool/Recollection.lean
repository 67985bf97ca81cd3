import ChainExplorer.Proofs.Pool.Backoff

/-!
# How a remembered failure is told again

What a pool keeps of a failed connect is its wording, not the error. The acquire whose connect fails
is told the error itself. Whoever is refused for its sake within the window is told an error that is
made of the wording: a failed connect, whatever the first was, with the whole wording of the first as
its cause. So the two never read alike, and they are of one kind only where the first was a failed
connect as well (`remembered_failure_is_reworded`).
-/

namespace ChainExplorer

namespace TransportError

/-- The kinds of failed connections. -/
inductive Kind where
  | connect
  | io
  | http
  | timeout
  | protocol
  | tooLarge
  deriving DecidableEq, Repr

def kind : TransportError → Kind
  | .connect _ => .connect
  | .io _ => .io
  | .http _ => .http
  | .timeout _ => .timeout
  | .protocol _ => .protocol
  | .tooLarge _ => .tooLarge

/-- Nobody who gets one of the errors can tell it from the other. -/
def Alike (e f : TransportError) : Prop := e.kind = f.kind ∧ e.message = f.message

theorem message_connect_message (e : TransportError) :
    (connect e.message).message = "connect failed: " ++ e.message := rfl

/-- The wording grows each time that it is told again. -/
theorem message_connect_message_ne (e : TransportError) :
    (connect e.message).message ≠ e.message := by
  intro h
  have hlength := congrArg String.length h
  rw [message_connect_message, String.length_append] at hlength
  have hfront : "connect failed: ".length = 16 := rfl
  omega

theorem not_alike_connect_message (e : TransportError) : ¬ (connect e.message).Alike e := by
  intro h
  exact message_connect_message_ne e h.2

end TransportError

theorem PoolError.message_connect_inj {e f : TransportError} :
    (PoolError.connect e).message = (PoolError.connect f).message ↔ e.message = f.message := by
  unfold PoolError.message
  exact String.append_right_inj _

namespace Pool

/-- What an acquire fails fast on: the last connect to settle has failed with an error, less than a
window before, and the acquire finds a pool that is open and has nothing idle and room for more. -/
structure FailsFast (config : PoolConfig) (earlier : Moments) (m : Moment Pool Event Move)
    (error : TransportError) : Prop where
  recent : ∃ time, lastSettlement? earlier = some (.failed time error) ∧
    m.before.now < time + config.retryWindow
  pressed : ∃ found w, Looks m.before m.event found w ∧ found.closed = false ∧ found.idle = [] ∧
    found.opened < config.maxOpen

theorem FailsFast.output {config : PoolConfig} {earlier : Moments} {m : Moment Pool Event Move}
    {error : TransportError} (h : FailsFast config earlier m error)
    (run : Traced (fresh config) earlier m.before)
    (hs : m.before.step? m.event = some (m.after, m.output)) :
    m.output = .refuse (.connect (.connect error.message)) := by
  obtain ⟨time, hlast, hsoon⟩ := h.recent
  obtain ⟨found, w, hlooks, hopen, hidle, hroom⟩ := h.pressed
  have hrecent := hlooks.recent run hlast
  rw [if_pos hsoon] at hrecent
  have hkept : found.config = config :=
    hlooks.remembers.2.trans (config_run (reaches_of_traced run))
  have hout := hlooks.step hs
  rw [look_of_recentFailure hrecent hidle (hkept ▸ hroom), hopen] at hout
  exact (Prod.mk.inj hout).2

/-- An acquire is refused with a transport error where its own connect fails and where it looks
around. -/
theorem fails_or_looks {p : Pool} {e : Event} {out : Pool × Move} {told : TransportError}
    (hs : p.step? e = some out) (hout : out.2 = .refuse (.connect told)) :
    (∃ t, e = .connectFailed t told) ∨ ∃ found w, Looks p e found w := by
  cases happens hs with
  | @acquire w new => exact .inr ⟨_, _, .acquire w⟩
  | resume hx => exact .inr ⟨_, _, .resume hx⟩
  | probeFailed hx => exact .inr ⟨_, _, .probeFailed hx⟩
  | @connectFailed w rest error hx =>
    cases hout
    exact .inl ⟨_, rfl⟩
  | _ => cases hout

/-- Whoever looks around and is refused so has found a failure that is still remembered. -/
theorem look_refused {p : Pool} {w : Waiter} {told : TransportError}
    (h : (p.look w).2 = .refuse (.connect told)) :
    p.closed = false ∧ p.idle = [] ∧ p.opened < p.config.maxOpen ∧
      ∃ text, p.recentFailure? = some text ∧ told = .connect text := by
  have hl := p.looked w
  generalize p.look w = out at hl h
  cases hl with
  | @refuse text hc hi ho hf =>
    cases h
    exact ⟨hc, hi, ho, text, hf, rfl⟩
  | _ => cases h

theorem remembered_eq_some {settled : Option Settlement} {kept : Nat × String} :
    remembered settled = some kept ↔
      ∃ time error, settled = some (.failed time error) ∧ (time, error.message) = kept := by
  unfold remembered
  split
  · rename_i time error
    constructor
    · intro h
      exact ⟨time, error, rfl, Option.some.inj h⟩
    · rintro ⟨_, _, hsame, hkept⟩
      cases hsame
      exact congrArg some hkept
  · simp
  · simp

/-- What whoever looks around remembers is the failure of the connect that settled last. -/
theorem Looks.failed {config : PoolConfig} {ms : Moments} {p q : Pool} {e : Event} {w : Waiter}
    {text : String} (h : Looks p e q w) (run : Traced (fresh config) ms p)
    (hrecent : q.recentFailure? = some text) :
    ∃ time error, lastSettlement? ms = some (.failed time error) ∧
      p.now < time + config.retryWindow ∧ text = error.message := by
  have hrecalled := hrecent
  unfold recentFailure? at hrecalled
  obtain ⟨kept, hfailure, -⟩ := Option.bind_eq_some_iff.1 hrecalled
  rw [h.remembers.1.failure, (failure_eq_remembered run).1, remembered_eq_some] at hfailure
  obtain ⟨time, error, hlast, -⟩ := hfailure
  rw [h.recent run hlast] at hrecent
  split at hrecent
  · rename_i hsoon
    exact ⟨time, error, hlast, hsoon, (Option.some.inj hrecent).symm⟩
  · cases hrecent

theorem Looks.failsFast {config : PoolConfig} {earlier : Moments} {m : Moment Pool Event Move}
    {found : Pool} {w : Waiter} {told : TransportError} (h : Looks m.before m.event found w)
    (run : Traced (fresh config) earlier m.before)
    (hs : m.before.step? m.event = some (m.after, m.output))
    (hout : m.output = .refuse (.connect told)) :
    ∃ error, FailsFast config earlier m error ∧ told = .connect error.message := by
  have hlook : (found.look w).2 = .refuse (.connect told) := by
    rw [← h.step hs]
    exact hout
  obtain ⟨hopen, hidle, hroom, text, hrecent, rfl⟩ := look_refused hlook
  obtain ⟨time, error, hlast, hsoon, rfl⟩ := h.failed run hrecent
  have hkept : found.config = config := h.remembers.2.trans (config_run (reaches_of_traced run))
  exact ⟨error, ⟨⟨time, hlast, hsoon⟩, found, w, h, hopen, hidle, hkept ▸ hroom⟩, rfl⟩

/-- **A remembered failure is told again in other words.** In every run, the acquire whose connect
fails is told the error itself, and whoever fails fast because of it is told a failed connect that
reads as the error does behind one more "connect failed". The two read differently to every caller,
and they are of one kind exactly if the error was a failed connect. Nobody else is told that a
connect has failed. -/
theorem remembered_failure_is_reworded {config : PoolConfig} {new q : Pool} {ms : Moments}
    (hnew : ofConfig config = .ok new) (run : Traced new ms q) :
    ∀ earlier m later, ms = earlier ++ m :: later →
      (∀ t error, m.event = .connectFailed t error → m.output = .refuse (.connect error)) ∧
      (∀ error, FailsFast config earlier m error →
        ∃ told, m.output = .refuse (.connect told) ∧
          told.message = "connect failed: " ++ error.message ∧
          (PoolError.connect told).message ≠ (PoolError.connect error).message ∧
          (told.kind = error.kind ↔ error.kind = .connect)) ∧
      (∀ told, m.output = .refuse (.connect told) →
        (∃ t, m.event = .connectFailed t told) ∨
          ∃ error, FailsFast config earlier m error ∧ told = .connect error.message) := by
  obtain ⟨rfl, -⟩ := ofConfig_eq_ok hnew
  rintro earlier m later rfl
  obtain ⟨first, hs, -⟩ := run.cut
  refine ⟨?_, ?_, ?_⟩
  · intro t error he
    rw [he] at hs
    generalize hout : (m.after, m.output) = out at hs
    cases happens hs with
    | connectFailed error hx => exact (Prod.mk.inj hout).2
  · intro error hfast
    refine ⟨_, hfast.output first hs, TransportError.message_connect_message error, ?_, eq_comm⟩
    rw [Ne, PoolError.message_connect_inj]
    exact TransportError.message_connect_message_ne error
  · intro told hout
    rcases fails_or_looks hs hout with hfails | ⟨found, w, hlooks⟩
    · exact .inl hfails
    · exact .inr (hlooks.failsFast first hs hout)

/-- A connect fails with an error, and another acquire comes at once. -/
def failingWith (error : TransportError) : List Event :=
  [.acquire 0 10000, .connectFailed 0 error, .acquire 1 10000]

/-- The moments of that run, and the pool after it. -/
def failedWith (error : TransportError) : Moments × Pool :=
  (Trace.retrace? step? (fresh {}) (failingWith error)).getD ([], fresh {})

/-- The pool that the second acquire finds. -/
def recalling (error : TransportError) : Pool :=
  ((fresh {}).after? ((failingWith error).take 2)).getD (fresh {})

theorem traced_failedWith (error : TransportError) :
    Traced (fresh {}) (failedWith error).1 (failedWith error).2 := by
  have retraced : Trace.retrace? step? (fresh {}) (failingWith error)
      = some ((failedWith error).1, (failedWith error).2) := rfl
  exact Trace.of_retrace? retraced

theorem failsFast_failedWith (error : TransportError) : ∃ earlier m,
    (failedWith error).1 = earlier ++ [m] ∧ FailsFast {} earlier m error := by
  refine ⟨(failedWith error).1.take 2, _, rfl, ?_, ?_⟩
  · exact ⟨0, rfl, show 0 < 2000 by decide⟩
  · exact ⟨recalling error, _, .acquire ⟨1, 10000⟩, rfl, rfl, show 0 < 16 by decide⟩

/-- A connect that took too long is told again as one that failed. -/
theorem remembered_failure_is_reworded_timeout :
    Traced (fresh {}) (failedWith (.timeout 5000)).1 (failedWith (.timeout 5000)).2 ∧
    ∃ earlier m told, (failedWith (.timeout 5000)).1 = earlier ++ [m] ∧
      FailsFast {} earlier m (.timeout 5000) ∧ m.output = .refuse (.connect told) ∧
      (PoolError.connect told).message ≠ (PoolError.connect (.timeout 5000)).message ∧
      told.kind ≠ .timeout := by
  have run := traced_failedWith (.timeout 5000)
  obtain ⟨earlier, m, hms, hfast⟩ := failsFast_failedWith (.timeout 5000)
  have hnew : ofConfig {} = .ok (fresh {}) := rfl
  obtain ⟨-, refused, -⟩ := remembered_failure_is_reworded hnew run earlier m [] hms
  obtain ⟨told, hout, -, hreads, hkind⟩ := refused (.timeout 5000) hfast
  refine ⟨run, earlier, m, told, hms, hfast, hout, hreads, ?_⟩
  intro h
  cases hkind.1 h

/-- The failure of a connect and what the next acquire is told of it are two errors. -/
theorem retold_failure_differs : ∃ earlier m told,
    (failedWith (.connect "refused #1")).1 = earlier ++ [m] ∧
    FailsFast {} earlier m (.connect "refused #1") ∧ m.output = .refuse (.connect told) ∧
    (TransportError.connect "refused #1").message = "connect failed: refused #1" ∧
    told.message = "connect failed: connect failed: refused #1" ∧
    ¬ told.Alike (.connect "refused #1") := by
  obtain ⟨earlier, m, hms, hfast⟩ := failsFast_failedWith (.connect "refused #1")
  obtain ⟨first, hs, -⟩ := (hms ▸ traced_failedWith (.connect "refused #1")).cut
  refine ⟨earlier, m, _, hms, hfast, hfast.output first hs, rfl, rfl, ?_⟩
  exact TransportError.not_alike_connect_message _

end Pool
end ChainExplorer
