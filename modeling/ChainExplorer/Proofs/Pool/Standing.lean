import ChainExplorer.Proofs.Pool.Holdings

/-!
# Where an acquire stands

A ticket is that of an acquire on its way, or of a lease, or of nobody. An event about a ticket says
by its move which of them comes next (`Sound.waiting_event`), and it leaves every other ticket where
it stood. So whoever runs acquires can tell from the moves alone which of them are still on their
way, which is how a client keeps its calls in step with its pool.

Waking, giving back, sweeping and closing move connections and tickets about, but they neither begin
nor end a probe, a connect or a lease (`Untouched`).
-/

namespace ChainExplorer
namespace Pool

/-- How often a ticket is that of an acquire on its way. -/
def waiting (p : Pool) (t : Nat) : Nat :=
  p.parked.countP (·.ticket = t) + p.woken.countP (·.waiter.ticket = t)
    + p.probing.countP (·.ticket = t) + p.connecting.countP (·.ticket = t)

/-- How often a ticket is that of a lease. -/
def holding (p : Pool) (t : Nat) : Nat := p.leases.countP (·.ticket = t)

/-- Whether an acquire is still on its way after a move. -/
def Move.goesOn : Move → Bool
  | .park | .connect | .probe _ => true
  | .rest | .grant _ | .refuse _ => false

theorem Sound.standing {p : Pool} (h : Sound p {}) (t : Nat) :
    p.waiting t + p.holding t ≤ 1 := h.named t

/-! ## What the smaller parts of events leave alone -/

/-- A pool with the same probes, connects and leases as another. -/
structure Untouched (p q : Pool) : Prop where
  probing : q.probing = p.probing
  connecting : q.connecting = p.connecting
  leases : q.leases = p.leases
  nextConn : q.nextConn = p.nextConn

theorem untouched_wakeOne (p : Pool) : Untouched p p.wakeOne := by
  rw [wakeOne_eq]
  exact ⟨rfl, rfl, rfl, rfl⟩

theorem untouched_giveBack (p : Pool) (c : Nat) (invalid : Bool) :
    Untouched p (p.giveBack c invalid) := by
  unfold giveBack
  split <;>
    exact ⟨(untouched_wakeOne _).probing, (untouched_wakeOne _).connecting,
      (untouched_wakeOne _).leases, (untouched_wakeOne _).nextConn⟩

theorem untouched_giveUpRoom (p : Pool) : Untouched p p.giveUpRoom :=
  ⟨(untouched_wakeOne _).probing, (untouched_wakeOne _).connecting, (untouched_wakeOne _).leases,
    (untouched_wakeOne _).nextConn⟩

theorem untouched_evict (p : Pool) : Untouched p p.evict := by
  simp only [evict]
  split <;> exact ⟨rfl, rfl, rfl, rfl⟩

theorem untouched_shut (p : Pool) : Untouched p p.shut := by
  unfold shut
  split <;> exact ⟨rfl, rfl, rfl, rfl⟩

/-- Looking around begins a probe or a connect at most, and no lease. -/
theorem leases_look (p : Pool) (w : Waiter) :
    (p.look w).1.leases = p.leases ∧ (p.look w).1.nextConn = p.nextConn := by
  have hl := p.looked w
  generalize p.look w = out at hl
  cases hl <;> exact ⟨rfl, rfl⟩

/-- Whoever looks around goes on or is refused. -/
theorem move_look (p : Pool) (w : Waiter) :
    (p.look w).2.goesOn = true ∨ ∃ error, (p.look w).2 = .refuse error := by
  have hl := p.looked w
  generalize p.look w = out at hl
  cases hl with
  | closed | refuse => exact .inr ⟨_, rfl⟩
  | probe | connect | park => exact .inl rfl

/-! ## Who is on the way -/

theorem waiting_wakeOne (p : Pool) (t : Nat) : p.wakeOne.waiting t = p.waiting t := by
  rw [wakeOne_eq]
  cases hp : p.parked with
  | nil => simp [waiting, hp]
  | cons w ws =>
    simp [waiting, hp, List.countP_cons, List.countP_append]
    omega

theorem waiting_wakeAll (p : Pool) (t : Nat) : p.wakeAll.waiting t = p.waiting t := by
  have hw : List.countP ((fun w : Woken => decide (w.waiter.ticket = t)) ∘
      fun w => ⟨w, .together⟩) p.parked = p.parked.countP (·.ticket = t) := rfl
  simp only [waiting, wakeAll, List.countP_append, List.countP_map, List.countP_nil, hw]
  omega

theorem waiting_giveBack (p : Pool) (c : Nat) (invalid : Bool) (t : Nat) :
    (p.giveBack c invalid).waiting t = p.waiting t := by
  rw [giveBack, waiting_wakeOne]
  split <;> rfl

theorem waiting_giveUpRoom (p : Pool) (t : Nat) : p.giveUpRoom.waiting t = p.waiting t := by
  rw [giveUpRoom, waiting_wakeOne]
  rfl

theorem waiting_evict (p : Pool) (t : Nat) : p.evict.waiting t = p.waiting t := by
  simp only [evict]
  split
  · rfl
  · rw [waiting_wakeAll]
    rfl

theorem waiting_shut (p : Pool) (t : Nat) : p.shut.waiting t = p.waiting t := by
  unfold shut
  split
  · rfl
  · rw [waiting_wakeAll]
    rfl

/-- Whoever looks around is on the way again if the move says so. -/
theorem waiting_look (p : Pool) (w : Waiter) (t : Nat) :
    (p.look w).1.waiting t
      = p.waiting t + if w.ticket = t ∧ (p.look w).2.goesOn = true then 1 else 0 := by
  have hl := p.looked w
  generalize p.look w = out at hl
  cases hl with
  | closed | refuse => simp [Move.goesOn]
  | probe | connect | park =>
    simp [waiting, Move.goesOn, List.countP_append, List.countP_singleton]
    omega

/-! ## Who leaves the place where it stood -/

section Leaving

variable {p : Pool}

theorem waiting_takeParked {f : Waiter → Bool} {w : Waiter} {rest : List Waiter}
    (hx : extract? f p.parked = some (w, rest)) (t : Nat) :
    p.waiting t = waiting { p with parked := rest } t + if w.ticket = t then 1 else 0 := by
  simp only [waiting, countP_of_extract? hx, decide_eq_true_eq]
  omega

theorem waiting_takeWoken {f : Woken → Bool} {w : Woken} {rest : List Woken}
    (hx : extract? f p.woken = some (w, rest)) (t : Nat) :
    p.waiting t = waiting { p with woken := rest } t + if w.waiter.ticket = t then 1 else 0 := by
  simp only [waiting, countP_of_extract? hx, decide_eq_true_eq]
  omega

theorem waiting_takeProbing {f : Probe → Bool} {a : Probe} {rest : List Probe}
    (hx : extract? f p.probing = some (a, rest)) (t : Nat) :
    p.waiting t = waiting { p with probing := rest } t + if a.ticket = t then 1 else 0 := by
  simp only [waiting, countP_of_extract? hx, decide_eq_true_eq]
  omega

theorem waiting_takeConnecting {f : Waiter → Bool} {w : Waiter} {rest : List Waiter}
    (hx : extract? f p.connecting = some (w, rest)) (t : Nat) :
    p.waiting t = waiting { p with connecting := rest } t + if w.ticket = t then 1 else 0 := by
  simp only [waiting, countP_of_extract? hx, decide_eq_true_eq]
  omega

end Leaving

/-- Whoever holds a lease is not on the way. -/
theorem Sound.waiting_of_lease {p : Pool} {l : Lease} (h : Sound p {}) (hl : l ∈ p.leases) :
    p.waiting l.ticket = 0 := by
  have hone := h.standing l.ticket
  have hpos : 0 < p.holding l.ticket := List.countP_pos_iff.2 ⟨l, hl, decide_eq_true rfl⟩
  omega

theorem standing_of_new {p : Pool} {t : Nat} (new : t ∉ p.tickets) :
    p.waiting t + p.holding t = 0 :=
  (count_tickets p t).symm.trans (List.count_eq_zero.2 new)

/-- A new ticket is on the way nowhere. -/
theorem waiting_of_new {p : Pool} {t : Nat} (new : t ∉ p.tickets) : p.waiting t = 0 :=
  Nat.eq_zero_of_add_eq_zero_right (standing_of_new new)

theorem new_of_acquire {p : Pool} {t deadline : Nat} {out : Pool × Move}
    (hs : p.step? (.acquire t deadline) = some out) : t ∉ p.tickets := by
  intro ht
  rw [step?, if_pos ht] at hs
  cases hs

/-! ## What the moves say -/

/-- After an event its own ticket is on the way if the move says so, and any other as before. -/
def Turns (p : Pool) (e : Event) (out : Pool × Move) (t : Nat) : Prop :=
  out.1.waiting t
    = if e.ticket? = some t then (if out.2.goesOn = true then 1 else 0) else p.waiting t

section Turns

variable {p q r : Pool} {e : Event} {t u : Nat}

/-- An acquire leaves the place where it stood and looks around. -/
theorem Sound.turns_look {w : Waiter} (h : Sound p {}) (he : e.ticket? = some w.ticket)
    (hq : p.waiting t = q.waiting t + if w.ticket = t then 1 else 0)
    (hr : r.waiting t = q.waiting t) : Turns p e (r.look w) t := by
  have hone := h.standing t
  rw [Turns, he, waiting_look, hr]
  by_cases ht : w.ticket = t
  · simp only [ht, if_true, true_and] at hq ⊢
    omega
  · simp [ht, hq]

/-- An acquire leaves the place where it stood for good. -/
theorem Sound.turns_over {move : Move} (h : Sound p {}) (he : e.ticket? = some u)
    (hq : p.waiting t = q.waiting t + if u = t then 1 else 0) (hr : r.waiting t = q.waiting t)
    (hm : move.goesOn = false) : Turns p e (r, move) t := by
  have hone := h.standing t
  rw [Turns, he, hr]
  by_cases ht : u = t
  · simp only [ht, if_true, hm, Bool.false_eq_true, if_false] at hq ⊢
    omega
  · simp [ht, hq]

/-- A lease is about no acquire. -/
theorem Sound.turns_lease {l : Lease} (h : Sound p {}) (hl : l ∈ p.leases)
    (he : e.ticket? = some l.ticket) (hr : r.waiting t = p.waiting t) :
    Turns p e (r, .rest) t := by
  rw [Turns, he, hr]
  by_cases ht : l.ticket = t
  · subst ht
    simp [h.waiting_of_lease hl, Move.goesOn]
  · simp [ht]

end Turns

/-- **The move of an event says whether its acquire is still on its way.** -/
theorem Sound.waiting_event {p : Pool} {e : Event} {out : Pool × Move} (h : Sound p {})
    (hs : p.step? e = some out) (t : Nat) : Turns p e out t := by
  cases happens hs with
  | @acquire w new =>
    rw [Turns, waiting_look]
    by_cases ht : w.ticket = t
    · subst ht
      simp [Event.ticket?, waiting_of_new new]
    · simp [Event.ticket?, ht]
  | resume hx => exact h.turns_look rfl (waiting_takeWoken hx t) rfl
  | probed hx => exact h.turns_over rfl (waiting_takeProbing hx t) rfl rfl
  | @probeFailed a rest hx =>
    exact h.turns_look (w := ⟨a.ticket, a.deadline⟩) rfl (waiting_takeProbing hx t)
      (waiting_giveBack _ _ _ _)
  | connected hx => exact h.turns_over rfl (waiting_takeConnecting hx t) rfl rfl
  | connectFailed error hx =>
    exact h.turns_over rfl (waiting_takeConnecting hx t) (waiting_giveUpRoom _ _) rfl
  | expireParked due hx => exact h.turns_over rfl (waiting_takeParked hx t) rfl rfl
  | expireProbing due hx =>
    exact h.turns_over rfl (waiting_takeProbing hx t) (waiting_giveBack _ _ _ _) rfl
  | expireConnecting due hx =>
    exact h.turns_over rfl (waiting_takeConnecting hx t) (waiting_giveUpRoom _ _) rfl
  | abandonParked hx => exact h.turns_over rfl (waiting_takeParked hx t) rfl rfl
  | abandonAlone alone hx =>
    exact h.turns_over rfl (waiting_takeWoken hx t) (waiting_wakeOne _ _) rfl
  | abandonTogether together hx => exact h.turns_over rfl (waiting_takeWoken hx t) rfl rfl
  | abandonProbing hx =>
    exact h.turns_over rfl (waiting_takeProbing hx t) (waiting_giveBack _ _ _ _) rfl
  | abandonConnecting hx =>
    exact h.turns_over rfl (waiting_takeConnecting hx t) (waiting_giveUpRoom _ _) rfl
  | invalidate hx => exact h.turns_lease ((mem_of_extract? hx).2 (.inl rfl)) rfl rfl
  | release hx =>
    exact h.turns_lease ((mem_of_extract? hx).2 (.inl rfl)) rfl (waiting_giveBack _ _ _ _)
  | sweep hc due => exact waiting_evict _ _
  | close => exact waiting_shut _ _
  | advance may => rfl

/-- An acquire that is on its way, or begins, is told something: to go on, what it gets, or why it
gets nothing. -/
theorem move_event {p : Pool} {e : Event} {out : Pool × Move} {t : Nat}
    (he : e.ticket? = some t) (ha : ∀ t, e ≠ .abandon t) (hi : ∀ t, e ≠ .invalidate t)
    (hr : ∀ t, e ≠ .release t) (hs : p.step? e = some out) : out.2 ≠ .rest := by
  cases happens hs with
  | acquire | resume | probeFailed =>
    rcases move_look _ _ with hon | ⟨error, hmove⟩
    · intro hrest
      rw [hrest] at hon
      cases hon
    · rw [hmove]
      exact Move.noConfusion
  | probed | connected | connectFailed | expireParked | expireProbing | expireConnecting =>
    exact Move.noConfusion
  | abandonParked | abandonAlone | abandonTogether | abandonProbing | abandonConnecting =>
    exact absurd rfl (ha _)
  | invalidate => exact absurd rfl (hi _)
  | release => exact absurd rfl (hr _)
  | sweep | close | advance => cases he

/-- Unless it begins an acquire or is about a lease, an event about a ticket is about an acquire
that is on its way. -/
theorem Sound.waiting_of_event {p : Pool} {e : Event} {out : Pool × Move} {t : Nat}
    (h : Sound p {}) (he : e.ticket? = some t) (hb : ∀ t deadline, e ≠ .acquire t deadline)
    (hi : ∀ t, e ≠ .invalidate t) (hr : ∀ t, e ≠ .release t) (hs : p.step? e = some out) :
    p.waiting t = 1 := by
  -- Wherever the event finds the ticket, that place counts it, and no ticket is counted twice.
  have one {q : Pool} {u : Nat} (hq : p.waiting u = q.waiting u + if u = u then 1 else 0) :
      p.waiting u = 1 := by
    have hle := h.standing u
    rw [if_pos rfl] at hq
    omega
  cases happens hs with
  | acquire => exact absurd rfl (hb _ _)
  | invalidate => exact absurd rfl (hi _)
  | release => exact absurd rfl (hr _)
  | sweep | close | advance => cases he
  | expireParked due hx => cases he; exact one (waiting_takeParked hx _)
  | abandonParked hx => cases he; exact one (waiting_takeParked hx _)
  | resume hx => cases he; exact one (waiting_takeWoken hx _)
  | abandonAlone cause hx => cases he; exact one (waiting_takeWoken hx _)
  | abandonTogether cause hx => cases he; exact one (waiting_takeWoken hx _)
  | probed hx => cases he; exact one (waiting_takeProbing hx _)
  | probeFailed hx => cases he; exact one (waiting_takeProbing hx _)
  | expireProbing due hx => cases he; exact one (waiting_takeProbing hx _)
  | abandonProbing hx => cases he; exact one (waiting_takeProbing hx _)
  | connected hx => cases he; exact one (waiting_takeConnecting hx _)
  | connectFailed error hx => cases he; exact one (waiting_takeConnecting hx _)
  | expireConnecting due hx => cases he; exact one (waiting_takeConnecting hx _)
  | abandonConnecting hx => cases he; exact one (waiting_takeConnecting hx _)

/-! ## Who gets a lease -/

/-- The lease that an event gives out by its move. -/
def granted (e : Event) (move : Move) : List Lease :=
  match e.ticket?, move with
  | some t, .grant c => [⟨t, c, false⟩]
  | _, _ => []

theorem granted_look (p : Pool) (w : Waiter) (e : Event) : granted e (p.look w).2 = [] := by
  have hl := p.looked w
  generalize p.look w = out at hl
  unfold granted
  cases hl <;> cases e.ticket? <;> rfl

/-- Leases come by grants alone, and only whoever holds one changes it or gives it up. -/
theorem leases_event {p : Pool} {e : Event} {out : Pool × Move} (hi : ∀ t, e ≠ .invalidate t)
    (hr : ∀ t, e ≠ .release t) (hs : p.step? e = some out) :
    out.1.leases = p.leases ++ granted e out.2 := by
  cases happens hs with
  | acquire new => rw [granted_look, List.append_nil, (leases_look _ _).1]
  | resume hx => rw [granted_look, List.append_nil, (leases_look _ _).1]
  | probed hx => rfl
  | @probeFailed a rest hx =>
    rw [granted_look, List.append_nil, (leases_look _ _).1, (untouched_giveBack _ _ _).leases]
  | connected hx => rfl
  | connectFailed | expireConnecting | abandonConnecting =>
    exact (untouched_giveUpRoom _).leases.trans (List.append_nil _).symm
  | expireProbing | abandonProbing =>
    exact (untouched_giveBack _ _ _).leases.trans (List.append_nil _).symm
  | abandonAlone => exact (untouched_wakeOne _).leases.trans (List.append_nil _).symm
  | expireParked | abandonParked | abandonTogether | advance =>
    exact (List.append_nil _).symm
  | invalidate => exact absurd rfl (hi _)
  | release => exact absurd rfl (hr _)
  | sweep hc due => exact (untouched_evict _).leases.trans (List.append_nil _).symm
  | close => exact (untouched_shut _).leases.trans (List.append_nil _).symm

end Pool
end ChainExplorer
