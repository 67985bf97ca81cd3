import ChainExplorer.Pool.Machine

/-!
# Runs of a pool

What is proved of a pool is proved of every state that some run leads to. Events come in any order
in which they can happen, and nothing holds the clock back: it may move on while a woken acquire has
not looked around yet, and past a deadline on which nobody has acted, because on a busy machine it
does. Runs on a clock that waits for everyone are among these.

`Run allowed` is a run in which every event is allowed where it happens. A property that fails in
general and holds of all runs without some kind of event is stated with it. There is one induction
over runs, `Run.keeps`; everything else about runs comes from what one event keeps.

What one event does is said once as well. `Looked` has a case for each way in which an acquire that
looks around can fare, and `Happens` one for each way in which an event can go, with all that is
known where it goes that way. No later proof unfolds the step.
-/

namespace ChainExplorer
namespace Pool

/-! ## What an event does -/

/-- How an acquire fares that looks around. -/
inductive Looked (p : Pool) (w : Waiter) : Pool × Move → Prop
  | closed (hc : p.closed = true) : Looked p w (p, .refuse .closed)
  | probe {last : Idle} {rest : List Idle} (hc : p.closed = false)
      (hi : p.idle = rest ++ [last]) :
      Looked p w
        ({ p with idle := rest, probing := p.probing ++ [⟨w.ticket, last.conn, w.deadline⟩] },
          .probe last.conn)
  | refuse {text : String} (hc : p.closed = false) (hi : p.idle = [])
      (ho : p.opened < p.config.maxOpen) (hf : p.recentFailure? = some text) :
      Looked p w (p, .refuse (.connect (.connect text)))
  | connect (hc : p.closed = false) (hi : p.idle = []) (ho : p.opened < p.config.maxOpen)
      (hf : p.recentFailure? = none) :
      Looked p w
        ({ p with opened := p.opened + 1, connecting := p.connecting ++ [w] }, .connect)
  | park (hc : p.closed = false) (hi : p.idle = []) (ho : p.config.maxOpen ≤ p.opened) :
      Looked p w ({ p with permit := false, parked := p.parked ++ [w] }, .park)

theorem looked (p : Pool) (w : Waiter) : Looked p w (p.look w) := by
  unfold look
  by_cases hc : p.closed = true
  · rw [if_pos hc]
    exact .closed hc
  rw [if_neg hc]
  rw [Bool.not_eq_true] at hc
  split
  · rename_i last hl
    obtain ⟨rest, hi⟩ := List.getLast?_eq_some_iff.1 hl
    have hr : p.idle.dropLast = rest := by rw [hi, List.dropLast_concat]
    rw [hr]
    exact .probe hc hi
  · rename_i hl
    have hi : p.idle = [] := List.getLast?_eq_none_iff.1 hl
    split
    · rename_i ho
      split
      · rename_i text hf
        exact .refuse hc hi ho hf
      · rename_i hf
        exact .connect hc hi ho hf
    · rename_i ho
      exact .park hc hi (Nat.le_of_not_lt ho)

/-- How an event goes. -/
inductive Happens (p : Pool) : Event → Pool × Move → Prop
  | acquire {w : Waiter} (new : w.ticket ∉ p.tickets) :
      Happens p (.acquire w.ticket w.deadline) (p.look w)
  | resume {w : Woken} {rest : List Woken}
      (hx : extract? (·.waiter.ticket = w.waiter.ticket) p.woken = some (w, rest)) :
      Happens p (.resume w.waiter.ticket) (look { p with woken := rest } w.waiter)
  | probed {a : Probe} {rest : List Probe}
      (hx : extract? (·.ticket = a.ticket) p.probing = some (a, rest)) :
      Happens p (.probed a.ticket) (lease { p with probing := rest } a.ticket a.conn)
  | probeFailed {a : Probe} {rest : List Probe}
      (hx : extract? (·.ticket = a.ticket) p.probing = some (a, rest)) :
      Happens p (.probeFailed a.ticket)
        (look (giveBack { p with probing := rest } a.conn true) ⟨a.ticket, a.deadline⟩)
  | connected {w : Waiter} {rest : List Waiter}
      (hx : extract? (·.ticket = w.ticket) p.connecting = some (w, rest)) :
      Happens p (.connected w.ticket)
        (lease { p with connecting := rest, failure := none, nextConn := p.nextConn + 1 }
          w.ticket p.nextConn)
  | connectFailed {w : Waiter} {rest : List Waiter} (error : TransportError)
      (hx : extract? (·.ticket = w.ticket) p.connecting = some (w, rest)) :
      Happens p (.connectFailed w.ticket error)
        (giveUpRoom { p with connecting := rest, failure := some (p.now, error.message) },
          .refuse (.connect error))
  | expireParked {w : Waiter} {rest : List Waiter} (due : w.deadline ≤ p.now)
      (hx : extract? (fun v => v.ticket = w.ticket && v.deadline ≤ p.now) p.parked
        = some (w, rest)) :
      Happens p (.expire w.ticket) ({ p with parked := rest }, .refuse .timeout)
  | expireProbing {a : Probe} {rest : List Probe} (due : a.deadline ≤ p.now)
      (hx : extract? (fun b => b.ticket = a.ticket && b.deadline ≤ p.now) p.probing
        = some (a, rest)) :
      Happens p (.expire a.ticket)
        (giveBack { p with probing := rest } a.conn true, .refuse .timeout)
  | expireConnecting {w : Waiter} {rest : List Waiter} (due : w.deadline ≤ p.now)
      (hx : extract? (fun v => v.ticket = w.ticket && v.deadline ≤ p.now) p.connecting
        = some (w, rest)) :
      Happens p (.expire w.ticket) (giveUpRoom { p with connecting := rest }, .refuse .timeout)
  | abandonParked {w : Waiter} {rest : List Waiter}
      (hx : extract? (·.ticket = w.ticket) p.parked = some (w, rest)) :
      Happens p (.abandon w.ticket) ({ p with parked := rest }, .rest)
  | abandonAlone {w : Woken} {rest : List Woken} (alone : w.cause = .alone)
      (hx : extract? (·.waiter.ticket = w.waiter.ticket) p.woken = some (w, rest)) :
      Happens p (.abandon w.waiter.ticket) (wakeOne { p with woken := rest }, .rest)
  | abandonTogether {w : Woken} {rest : List Woken} (together : w.cause = .together)
      (hx : extract? (·.waiter.ticket = w.waiter.ticket) p.woken = some (w, rest)) :
      Happens p (.abandon w.waiter.ticket) ({ p with woken := rest }, .rest)
  | abandonProbing {a : Probe} {rest : List Probe}
      (hx : extract? (·.ticket = a.ticket) p.probing = some (a, rest)) :
      Happens p (.abandon a.ticket) (giveBack { p with probing := rest } a.conn false, .rest)
  | abandonConnecting {w : Waiter} {rest : List Waiter}
      (hx : extract? (·.ticket = w.ticket) p.connecting = some (w, rest)) :
      Happens p (.abandon w.ticket) (giveUpRoom { p with connecting := rest }, .rest)
  | invalidate {l : Lease} {rest : List Lease}
      (hx : extract? (·.ticket = l.ticket) p.leases = some (l, rest)) :
      Happens p (.invalidate l.ticket)
        ({ p with leases := rest ++ [{ l with invalid := true }] }, .rest)
  | release {l : Lease} {rest : List Lease}
      (hx : extract? (·.ticket = l.ticket) p.leases = some (l, rest)) :
      Happens p (.release l.ticket) (giveBack { p with leases := rest } l.conn l.invalid, .rest)
  | sweep (hc : p.closed = false) (due : p.nextSweep ≤ p.now) :
      Happens p .sweep
        (evict { p with nextSweep := p.nextSweep + p.config.evictionInterval }, .rest)
  | close : Happens p .close (p.shut, .rest)
  | advance {time : Nat} (may : p.mayAdvance time = true) :
      Happens p (.advance time) ({ p with now := time }, .rest)

/-- What a test by ticket takes out has the ticket that was asked for. -/
theorem ticket_of_extract? {α : Type} {ticket : α → Nat} {t : Nat} {xs rest : List α} {x : α}
    (hx : extract? (fun y => decide (ticket y = t)) xs = some (x, rest)) : ticket x = t :=
  of_decide_eq_true (extract?_eq_some hx).1

theorem expired_of_extract? {α : Type} {ticket deadline : α → Nat} {t now : Nat}
    {xs rest : List α} {x : α}
    (hx : extract? (fun y => ticket y = t && deadline y ≤ now) xs = some (x, rest)) :
    ticket x = t ∧ deadline x ≤ now := by
  simpa using (extract?_eq_some hx).1

theorem happens_expire {p : Pool} {t : Nat} {out : Pool × Move} (h : p.expire? t = some out) :
    Happens p (.expire t) out := by
  simp only [expire?] at h
  split at h
  · rename_i w rest hx
    obtain ⟨rfl, due⟩ := expired_of_extract? hx
    obtain rfl := Option.some.inj h
    exact .expireParked due hx
  · split at h
    · rename_i a rest hx
      obtain ⟨rfl, due⟩ := expired_of_extract? hx
      obtain rfl := Option.some.inj h
      exact .expireProbing due hx
    · split at h
      · rename_i w rest hx
        obtain ⟨rfl, due⟩ := expired_of_extract? hx
        obtain rfl := Option.some.inj h
        exact .expireConnecting due hx
      · cases h

theorem happens_abandon {p q : Pool} {t : Nat} (h : p.abandon? t = some q) :
    Happens p (.abandon t) (q, .rest) := by
  unfold abandon? at h
  split at h
  · rename_i w rest hx
    obtain rfl := ticket_of_extract? hx
    obtain rfl := Option.some.inj h
    exact .abandonParked hx
  · split at h
    · rename_i w rest hx
      obtain rfl := ticket_of_extract? hx
      cases hcause : w.cause with
      | alone =>
        simp only [hcause] at h
        obtain rfl := Option.some.inj h
        exact .abandonAlone hcause hx
      | together =>
        simp only [hcause] at h
        obtain rfl := Option.some.inj h
        exact .abandonTogether hcause hx
    · split at h
      · rename_i a rest hx
        obtain rfl := ticket_of_extract? hx
        obtain rfl := Option.some.inj h
        exact .abandonProbing hx
      · split at h
        · rename_i w rest hx
          obtain rfl := ticket_of_extract? hx
          obtain rfl := Option.some.inj h
          exact .abandonConnecting hx
        · cases h

/-- **An event goes one of these ways.** -/
theorem happens {p : Pool} {e : Event} {out : Pool × Move} (h : p.step? e = some out) :
    Happens p e out := by
  cases e with
  | acquire t d =>
    simp only [step?] at h
    split at h
    · cases h
    · rename_i ht
      obtain rfl := Option.some.inj h
      exact .acquire (w := ⟨t, d⟩) ht
  | resume t =>
    obtain ⟨⟨w, rest⟩, hx, rfl⟩ := Option.map_eq_some_iff.1 h
    obtain rfl := ticket_of_extract? hx
    exact .resume hx
  | probed t =>
    obtain ⟨⟨a, rest⟩, hx, rfl⟩ := Option.map_eq_some_iff.1 h
    obtain rfl := ticket_of_extract? hx
    exact .probed hx
  | probeFailed t =>
    obtain ⟨⟨a, rest⟩, hx, rfl⟩ := Option.map_eq_some_iff.1 h
    obtain rfl := ticket_of_extract? hx
    exact .probeFailed hx
  | connected t =>
    obtain ⟨⟨w, rest⟩, hx, rfl⟩ := Option.map_eq_some_iff.1 h
    obtain rfl := ticket_of_extract? hx
    exact .connected hx
  | connectFailed t error =>
    obtain ⟨⟨w, rest⟩, hx, rfl⟩ := Option.map_eq_some_iff.1 h
    obtain rfl := ticket_of_extract? hx
    exact .connectFailed error hx
  | expire t => exact happens_expire h
  | abandon t =>
    obtain ⟨q, hq, rfl⟩ := Option.map_eq_some_iff.1 h
    exact happens_abandon hq
  | invalidate t =>
    obtain ⟨⟨l, rest⟩, hx, rfl⟩ := Option.map_eq_some_iff.1 h
    obtain rfl := ticket_of_extract? hx
    exact .invalidate hx
  | release t =>
    obtain ⟨⟨l, rest⟩, hx, rfl⟩ := Option.map_eq_some_iff.1 h
    obtain rfl := ticket_of_extract? hx
    exact .release hx
  | sweep =>
    simp only [step?] at h
    split at h
    · cases h
    · rename_i hn
      simp only [Bool.or_eq_true, decide_eq_true_eq, not_or, Bool.not_eq_true, Nat.not_lt] at hn
      obtain rfl := Option.some.inj h
      exact .sweep hn.1 hn.2
  | close =>
    obtain rfl := Option.some.inj h
    exact .close
  | advance time =>
    simp only [step?] at h
    split at h
    · rename_i may
      obtain rfl := Option.some.inj h
      exact .advance may
    · cases h

/-! ## Runs -/

/-- From one state to another by allowed events, with time passing at will. -/
inductive Run (allowed : Pool → Event → Prop) (p : Pool) : Pool → Prop
  | start : Run allowed p p
  | event {q : Pool} {e : Event} {out : Pool × Move} :
      Run allowed p q → allowed q e → q.step? e = some out → Run allowed p out.1
  | clock {q : Pool} (time : Nat) :
      Run allowed p q → q.now ≤ time → Run allowed p { q with now := time }

/-- A run of any events. -/
abbrev Reaches : Pool → Pool → Prop := Run fun _ _ => True

/-- The states of a pool with the given limits, in runs of allowed events. -/
def ReachableBy (allowed : Pool → Event → Prop) (config : PoolConfig) (p : Pool) : Prop :=
  ∃ new, ofConfig config = .ok new ∧ Run allowed new p

/-- The states of a pool with the given limits. -/
abbrev Reachable : PoolConfig → Pool → Prop := ReachableBy fun _ _ => True

theorem ofConfig_eq_ok {config : PoolConfig} {new : Pool} (h : ofConfig config = .ok new) :
    new = fresh config ∧ 0 < config.maxOpen ∧ 0 < config.evictionInterval := by
  unfold ofConfig PoolConfig.fault? at h
  by_cases hz : config.maxOpen = 0
  · simp [hz] at h
  · by_cases hi : config.evictionInterval = 0
    · simp [hz, hi] at h
    · simp only [hz, hi, if_false] at h
      exact ⟨(Except.ok.inj h).symm, Nat.pos_of_ne_zero hz, Nat.pos_of_ne_zero hi⟩

/-! ## The induction over runs -/

/-- **What every allowed event keeps and the clock does not touch holds all along a run.** -/
theorem Run.keeps {allowed : Pool → Event → Prop} {I : Pool → Prop}
    (event : ∀ {q e out}, I q → allowed q e → q.step? e = some out → I out.1)
    (clock : ∀ {q} time, I q → I { q with now := time })
    {p q : Pool} (run : Run allowed p q) (hp : I p) : I q := by
  induction run with
  | start => exact hp
  | event _ ha hs ih => exact event ih ha hs
  | clock time _ _ ih => exact clock time ih

theorem Run.trans {allowed : Pool → Event → Prop} {p q r : Pool} (first : Run allowed p q)
    (second : Run allowed q r) : Run allowed p r := by
  induction second with
  | start => exact first
  | event _ ha hs ih => exact .event ih ha hs
  | clock time _ ht ih => exact .clock time ih ht

theorem ReachableBy.run {allowed : Pool → Event → Prop} {config : PoolConfig} {p q : Pool}
    (h : ReachableBy allowed config p) (run : Run allowed p q) : ReachableBy allowed config q :=
  let ⟨new, hnew, first⟩ := h
  ⟨new, hnew, first.trans run⟩

/-! ## Runs that are given as lists of events -/

/-- The state after some events, if each can happen in its turn. -/
def after? (p : Pool) : List Event → Option Pool
  | [] => some p
  | e :: es => (p.step? e).bind fun next => next.1.after? es

theorem run_of_after? {allowed : Pool → Event → Prop} {p q : Pool} {events : List Event}
    (ha : ∀ e ∈ events, ∀ r, allowed r e) (h : p.after? events = some q) : Run allowed p q := by
  induction events generalizing p with
  | nil => exact Option.some.inj h ▸ .start
  | cons e es ih =>
    obtain ⟨out, hs, hr⟩ := Option.bind_eq_some_iff.1 h
    have first : Run allowed p out.1 := .event .start (ha e List.mem_cons_self p) hs
    exact first.trans (ih (fun f hf => ha f (List.mem_cons_of_mem e hf)) hr)

theorem reaches_of_after? {p q : Pool} {events : List Event} (h : p.after? events = some q) :
    Reaches p q := run_of_after? (fun _ _ _ => trivial) h

end Pool
end ChainExplorer
