import ChainExplorer.Proofs.Pool.Run

/-!
# Who holds what

A connection, a reserved room and a ticket each stand in one place, and an event moves them. Between
the list that one leaves and the list that it joins, it is in the hand of whoever acts. So the
invariant is stated of a pool together with a hand: `Sound p hand` counts what stands in the lists
of the pool and what is in the hand, and finds

* the count of open connections to be the number of connections standing or in hand, plus the rooms
  reserved for connects, and within its limit;
* every connection that was ever opened exactly once, and no other one at all;
* no ticket twice.

Each part of an event then has one lemma, which says how it moves things between hand and lists, and
an event is a chain of them that begins and ends with an empty hand (`Sound.event`).
-/

namespace ChainExplorer
namespace Pool

/-- What is in hand while an event is going on. -/
structure Hand where
  tickets : List Nat := []
  conns : List Nat := []
  /-- Rooms that are reserved for a connect. -/
  rooms : Nat := 0

/-- How often a connection stands in the lists of a pool. -/
def places (p : Pool) (c : Nat) : Nat :=
  p.idle.countP (·.conn = c) + p.probing.countP (·.conn = c) + p.leases.countP (·.conn = c)
    + p.torn.count c

/-- How often a ticket is in use. -/
def uses (p : Pool) (t : Nat) : Nat :=
  p.parked.countP (·.ticket = t) + p.woken.countP (·.waiter.ticket = t)
    + p.probing.countP (·.ticket = t) + p.connecting.countP (·.ticket = t)
    + p.leases.countP (·.ticket = t)

/-- The invariant of a pool and a hand. -/
structure Sound (p : Pool) (hand : Hand) : Prop where
  count : p.opened = p.idle.length + p.probing.length + p.leases.length + p.connecting.length
    + (hand.conns.length + hand.rooms)
  within : p.opened ≤ p.config.maxOpen
  roomy : p.idle.length ≤ p.config.maxIdle
  drained : p.closed = true → p.idle = [] ∧ p.parked = []
  covered : p.overdrawn = false
  placed : ∀ c, p.places c + hand.conns.count c = if c < p.nextConn then 1 else 0
  named : ∀ t, p.uses t + hand.tickets.count t ≤ 1

theorem count_tickets (p : Pool) (t : Nat) : p.tickets.count t = p.uses t := by
  unfold tickets uses
  rw [List.count_append, List.count_append, List.count_append, List.count_append]
  simp only [List.count_eq_countP, List.countP_map]
  rfl

theorem Sound.fresh (config : PoolConfig) : Sound (fresh config) {} where
  count := rfl
  within := Nat.zero_le _
  roomy := Nat.zero_le _
  drained := by intro h; cases h
  covered := rfl
  placed := by intro c; simp [places, Pool.fresh]
  named := by intro t; simp [uses, Pool.fresh]

/-- The invariant does not look at the clock, the next sweep and the remembered failure. -/
theorem Sound.retime {p : Pool} {hand : Hand} (h : Sound p hand) (now nextSweep : Nat)
    (failure : Option (Nat × String)) : Sound { p with now, nextSweep, failure } hand :=
  ⟨h.count, h.within, h.roomy, h.drained, h.covered, h.placed, h.named⟩

/-- What is in hand need not be kept track of for its ticket. -/
theorem Sound.forget {p : Pool} {t : Nat} {ts cs : List Nat} {n : Nat}
    (h : Sound p ⟨t :: ts, cs, n⟩) : Sound p ⟨ts, cs, n⟩ where
  count := h.count
  within := h.within
  roomy := h.roomy
  drained := h.drained
  covered := h.covered
  placed := h.placed
  named := by
    intro u
    have := h.named u
    rw [List.count_cons] at this
    show p.uses u + ts.count u ≤ 1
    omega

/-! ## Waking moves tickets from the parked to the woken -/

theorem wakeOne_eq (p : Pool) : p.wakeOne = { p with
    permit := p.permit || p.parked.isEmpty
    parked := p.parked.tail
    woken := p.woken ++ (p.parked.head?.map (⟨·, .alone⟩)).toList } := by
  unfold wakeOne
  cases hp : p.parked with
  | nil => simp
  | cons w ws => simp

theorem Sound.wakeOne {p : Pool} {hand : Hand} (h : Sound p hand) : Sound p.wakeOne hand := by
  rw [wakeOne_eq]
  refine ⟨h.count, h.within, h.roomy, ?_, h.covered, h.placed, ?_⟩
  · intro hc
    obtain ⟨hi, hp⟩ := h.drained hc
    exact ⟨hi, by rw [hp]; rfl⟩
  · intro t
    refine Nat.le_trans (Nat.le_of_eq ?_) (h.named t)
    cases hp : p.parked with
    | nil => simp [uses, hp]
    | cons w ws => simp [uses, hp, List.countP_cons, List.countP_append]; omega

theorem Sound.wakeAll {p : Pool} {hand : Hand} (h : Sound p hand) : Sound p.wakeAll hand := by
  refine ⟨h.count, h.within, h.roomy, ?_, h.covered, h.placed, ?_⟩
  · intro hc
    exact ⟨(h.drained hc).1, rfl⟩
  · intro t
    refine Nat.le_trans (Nat.le_of_eq ?_) (h.named t)
    have hw : List.countP ((fun w : Woken => decide (w.waiter.ticket = t)) ∘
        fun w => ⟨w, .together⟩) p.parked = p.parked.countP (·.ticket = t) := rfl
    simp only [uses, Pool.wakeAll, List.countP_append, List.countP_map, List.countP_nil, hw]
    omega

/-! ## Between the hand and a list -/

/-- Between them, a hand and a list count the same after something is taken. -/
theorem count_taken {α : Type} {f : α → Bool} {xs rest : List α} {x : α}
    (hx : extract? f xs = some (x, rest)) (key : α → Nat) (k : Nat) (ks : List Nat) :
    rest.countP (key · = k) + (key x :: ks).count k = xs.countP (key · = k) + ks.count k := by
  rw [countP_of_extract? hx, List.count_cons]
  simp only [beq_iff_eq, decide_eq_true_eq]
  omega

/-- Between them, a hand and a list count the same after something is put down. -/
theorem count_put {α : Type} (xs : List α) (x : α) (key : α → Nat) (k : Nat) (ks : List Nat) :
    (xs ++ [x]).countP (key · = k) + ks.count k = xs.countP (key · = k) + (key x :: ks).count k := by
  rw [List.countP_append, List.countP_singleton, List.count_cons]
  simp only [beq_iff_eq, decide_eq_true_eq]
  omega

/-! ## Taking something into the hand -/

theorem Sound.takeParked {p : Pool} {f : Waiter → Bool} {w : Waiter} {rest : List Waiter}
    {ts cs : List Nat} {n : Nat} (h : Sound p ⟨ts, cs, n⟩)
    (hx : extract? f p.parked = some (w, rest)) :
    Sound { p with parked := rest } ⟨w.ticket :: ts, cs, n⟩ := by
  refine ⟨h.count, h.within, h.roomy, ?_, h.covered, h.placed, ?_⟩
  · intro hc
    have hp := (h.drained hc).2
    rw [hp] at hx
    cases hx
  · intro t
    have hn := h.named t
    have ht := count_taken hx (·.ticket) t ts
    simp only [uses] at hn ⊢
    omega

theorem Sound.takeWoken {p : Pool} {f : Woken → Bool} {w : Woken} {rest : List Woken}
    {ts cs : List Nat} {n : Nat} (h : Sound p ⟨ts, cs, n⟩)
    (hx : extract? f p.woken = some (w, rest)) :
    Sound { p with woken := rest } ⟨w.waiter.ticket :: ts, cs, n⟩ := by
  refine ⟨h.count, h.within, h.roomy, h.drained, h.covered, h.placed, ?_⟩
  intro t
  have hn := h.named t
  have ht := count_taken hx (·.waiter.ticket) t ts
  simp only [uses] at hn ⊢
  omega

theorem Sound.takeProbing {p : Pool} {f : Probe → Bool} {a : Probe} {rest : List Probe}
    {ts cs : List Nat} {n : Nat} (h : Sound p ⟨ts, cs, n⟩)
    (hx : extract? f p.probing = some (a, rest)) :
    Sound { p with probing := rest } ⟨a.ticket :: ts, a.conn :: cs, n⟩ := by
  refine ⟨?_, h.within, h.roomy, h.drained, h.covered, ?_, ?_⟩
  · have hn := h.count
    have hl := length_of_extract? hx
    simp only [List.length_cons] at hn ⊢
    omega
  · intro c
    have hn := h.placed c
    have hc := count_taken hx (·.conn) c cs
    simp only [places] at hn ⊢
    omega
  · intro t
    have hn := h.named t
    have ht := count_taken hx (·.ticket) t ts
    simp only [uses] at hn ⊢
    omega

theorem Sound.takeConnecting {p : Pool} {f : Waiter → Bool} {w : Waiter} {rest : List Waiter}
    {ts cs : List Nat} {n : Nat} (h : Sound p ⟨ts, cs, n⟩)
    (hx : extract? f p.connecting = some (w, rest)) :
    Sound { p with connecting := rest } ⟨w.ticket :: ts, cs, n + 1⟩ := by
  refine ⟨?_, h.within, h.roomy, h.drained, h.covered, h.placed, ?_⟩
  · have hn := h.count
    have hl := length_of_extract? hx
    simp only at hn ⊢
    omega
  · intro t
    have hn := h.named t
    have ht := count_taken hx (·.ticket) t ts
    simp only [uses] at hn ⊢
    omega

theorem Sound.takeLease {p : Pool} {f : Lease → Bool} {l : Lease} {rest : List Lease}
    {ts cs : List Nat} {n : Nat} (h : Sound p ⟨ts, cs, n⟩)
    (hx : extract? f p.leases = some (l, rest)) :
    Sound { p with leases := rest } ⟨l.ticket :: ts, l.conn :: cs, n⟩ := by
  refine ⟨?_, h.within, h.roomy, h.drained, h.covered, ?_, ?_⟩
  · have hn := h.count
    have hl := length_of_extract? hx
    simp only [List.length_cons] at hn ⊢
    omega
  · intro c
    have hn := h.placed c
    have hc := count_taken hx (·.conn) c cs
    simp only [places] at hn ⊢
    omega
  · intro t
    have hn := h.named t
    have ht := count_taken hx (·.ticket) t ts
    simp only [uses] at hn ⊢
    omega

/-- Some idle connections are taken and the others kept, in whatever order. -/
theorem Sound.takeIdle {p : Pool} {gone kept : List Idle} {ts cs : List Nat} {n : Nat}
    (h : Sound p ⟨ts, cs, n⟩) (hi : p.idle.Perm (gone ++ kept)) :
    Sound { p with idle := kept } ⟨ts, gone.map (·.conn) ++ cs, n⟩ := by
  have hl : p.idle.length = gone.length + kept.length := by
    rw [hi.length_eq, List.length_append]
  refine ⟨?_, h.within, ?_, ?_, h.covered, ?_, h.named⟩
  · have hn := h.count
    simp only [List.length_append, List.length_map] at hn ⊢
    omega
  · have := h.roomy
    show kept.length ≤ p.config.maxIdle
    omega
  · intro hc
    obtain ⟨hn, hp⟩ := h.drained hc
    rw [hn, List.length_nil] at hl
    have hk : kept = [] := List.eq_nil_of_length_eq_zero (by omega)
    exact ⟨hk, hp⟩
  · intro c
    have hn := h.placed c
    have hc := hi.countP_eq (·.conn = c)
    have hg : (gone.map (·.conn)).count c = gone.countP (·.conn = c) := by
      rw [List.count_eq_countP, List.countP_map]
      rfl
    rw [List.countP_append] at hc
    simp only [places, List.count_append] at hn ⊢
    omega

/-- A ticket that nobody uses. -/
theorem Sound.takeTicket {p : Pool} {t : Nat} (h : Sound p {}) (ht : t ∉ p.tickets) :
    Sound p ⟨[t], [], 0⟩ := by
  refine ⟨h.count, h.within, h.roomy, h.drained, h.covered, h.placed, ?_⟩
  intro u
  have hn := h.named u
  have hz : p.uses t = 0 := by rw [← count_tickets]; exact List.count_eq_zero.2 ht
  by_cases hu : t = u
  · subst hu
    rw [hz]
    simp
  · simpa [List.count_cons, hu] using hn

/-! ## Putting down what is in the hand -/

/-- Connections in hand are torn down. -/
theorem Sound.tear {p : Pool} {gone ts cs : List Nat} {n : Nat}
    (h : Sound p ⟨ts, gone ++ cs, n⟩) :
    Sound { p.uncount gone.length with torn := p.torn ++ gone } ⟨ts, cs, n⟩ := by
  have hn := h.count
  simp only [List.length_append] at hn
  refine ⟨?_, ?_, h.roomy, h.drained, ?_, ?_, h.named⟩
  · show p.opened - gone.length = _
    simp only [uncount]
    omega
  · exact Nat.le_trans (Nat.sub_le _ _) h.within
  · have hle : ¬ p.opened < gone.length := by omega
    simp [uncount, h.covered, hle]
  · intro c
    refine Eq.trans ?_ (h.placed c)
    simp only [places, uncount, List.count_append]
    omega

/-- A room in hand is given up. -/
theorem Sound.giveUpRoom {p : Pool} {ts cs : List Nat} {n : Nat} (h : Sound p ⟨ts, cs, n + 1⟩) :
    Sound p.giveUpRoom ⟨ts, cs, n⟩ := by
  have hn := h.count
  simp only at hn
  refine Sound.wakeOne ⟨?_, ?_, h.roomy, h.drained, ?_, h.placed, h.named⟩
  · simp only [uncount]
    omega
  · exact Nat.le_trans (Nat.sub_le _ _) h.within
  · have hle : ¬ p.opened < 1 := by omega
    simp [uncount, h.covered, hle]

theorem Sound.giveBack {p : Pool} {c : Nat} {invalid : Bool} {ts cs : List Nat} {n : Nat}
    (h : Sound p ⟨ts, c :: cs, n⟩) : Sound (p.giveBack c invalid) ⟨ts, cs, n⟩ := by
  unfold Pool.giveBack
  apply Sound.wakeOne
  by_cases hb : p.closed || invalid || p.config.maxIdle ≤ p.idle.length
  · rw [if_pos hb]
    have hc : Sound p ⟨ts, [c] ++ cs, n⟩ := h
    exact hc.tear
  · rw [if_neg hb]
    simp only [Bool.or_eq_true, decide_eq_true_eq, not_or] at hb
    obtain ⟨⟨hopen, _⟩, hroom⟩ := hb
    refine ⟨?_, h.within, ?_, fun hc => absurd hc hopen, h.covered, ?_, h.named⟩
    · have hn := h.count
      simp only [List.length_append, List.length_cons, List.length_nil] at hn ⊢
      omega
    · simp only [List.length_append, List.length_cons, List.length_nil]
      omega
    · intro d
      have hd := h.placed d
      have hput := count_put p.idle ⟨c, p.now⟩ (·.conn) d cs
      simp only [places] at hd hput ⊢
      omega

/-- A connection in hand becomes a lease. -/
theorem Sound.lease {p : Pool} {t c : Nat} {ts cs : List Nat} {n : Nat}
    (h : Sound p ⟨t :: ts, c :: cs, n⟩) (invalid : Bool) :
    Sound { p with leases := p.leases ++ [⟨t, c, invalid⟩] } ⟨ts, cs, n⟩ := by
  refine ⟨?_, h.within, h.roomy, h.drained, h.covered, ?_, ?_⟩
  · have hn := h.count
    simp only [List.length_append, List.length_cons, List.length_nil] at hn ⊢
    omega
  · intro d
    have hd := h.placed d
    have hput := count_put p.leases ⟨t, c, invalid⟩ (·.conn) d cs
    simp only [places] at hd hput ⊢
    omega
  · intro u
    have hu := h.named u
    have hput := count_put p.leases ⟨t, c, invalid⟩ (·.ticket) u ts
    simp only [uses] at hu hput ⊢
    omega

/-- A connection in hand is probed. -/
theorem Sound.probe {p : Pool} {a : Probe} {ts cs : List Nat} {n : Nat}
    (h : Sound p ⟨a.ticket :: ts, a.conn :: cs, n⟩) :
    Sound { p with probing := p.probing ++ [a] } ⟨ts, cs, n⟩ := by
  refine ⟨?_, h.within, h.roomy, h.drained, h.covered, ?_, ?_⟩
  · have hn := h.count
    simp only [List.length_append, List.length_cons, List.length_nil] at hn ⊢
    omega
  · intro d
    have hd := h.placed d
    have hput := count_put p.probing a (·.conn) d cs
    simp only [places] at hd ⊢
    omega
  · intro u
    have hu := h.named u
    have hput := count_put p.probing a (·.ticket) u ts
    simp only [uses] at hu ⊢
    omega

/-- A room in hand has become a connection, the next by number. -/
theorem Sound.opened {p : Pool} {ts cs : List Nat} {n : Nat} (h : Sound p ⟨ts, cs, n + 1⟩) :
    Sound { p with failure := none, nextConn := p.nextConn + 1 } ⟨ts, p.nextConn :: cs, n⟩ := by
  refine ⟨?_, h.within, h.roomy, h.drained, h.covered, ?_, h.named⟩
  · have hn := h.count
    simp only [List.length_cons] at hn ⊢
    omega
  · intro d
    have hd := h.placed d
    simp only [places, List.count_cons, beq_iff_eq] at hd ⊢
    -- The new connection stood nowhere before, as its number had not been given out.
    by_cases he : p.nextConn = d
    · subst he
      simp only [Nat.lt_irrefl, if_false] at hd
      simp
      omega
    · have hlt : d < p.nextConn + 1 ↔ d < p.nextConn := by omega
      simp only [he, hlt, if_false]
      omega

/-! ## The larger parts of events -/

/-- Whoever looks around has a ticket in hand, and no more. -/
theorem Sound.look {p : Pool} {w : Waiter} (h : Sound p ⟨[w.ticket], [], 0⟩) :
    Sound (p.look w).1 {} := by
  have hl := p.looked w
  generalize p.look w = out at hl
  cases hl with
  | closed hc => exact h.forget
  | refuse hc hi ho hf => exact h.forget
  | @probe last rest hc hi =>
    have hi' : p.idle.Perm ([last] ++ rest) := by
      rw [hi]
      exact List.perm_append_comm
    exact Sound.probe (a := ⟨w.ticket, last.conn, w.deadline⟩) (h.takeIdle hi')
  | connect hc hi ho hf =>
    refine ⟨?_, ho, h.roomy, h.drained, h.covered, h.placed, ?_⟩
    · have hn := h.count
      simp only [List.length_append, List.length_cons, List.length_nil] at hn ⊢
      omega
    · intro t
      refine Nat.le_trans (Nat.le_of_eq ?_) (h.named t)
      have hput := count_put p.connecting w (·.ticket) t []
      simp only [uses]
      omega
  | park hc hi ho =>
    refine ⟨h.count, h.within, h.roomy, ?_, h.covered, h.placed, ?_⟩
    · intro hc'
      rw [hc] at hc'
      cases hc'
    · intro t
      refine Nat.le_trans (Nat.le_of_eq ?_) (h.named t)
      have hput := count_put p.parked w (·.ticket) t []
      simp only [uses]
      omega

/-- A sweep parts the idle connections into those that go and those that stay. -/
theorem perm_evict (young : Idle → Bool) (idle : List Idle) (excess : Nat) :
    idle.Perm (idle.filter (!young ·) ++ (idle.filter young).take excess
      ++ (idle.filter young).drop excess) := by
  rw [List.append_assoc, List.take_append_drop]
  exact (List.filter_append_perm young idle).symm.trans List.perm_append_comm

theorem Sound.evict {p : Pool} (h : Sound p {}) : Sound p.evict {} := by
  have ht := Sound.tear ((h.takeIdle (perm_evict p.isYoung p.idle
    ((p.idle.filter p.isYoung).length - p.config.maxIdle))))
  rw [List.length_map] at ht
  simp only [Pool.evict]
  split
  · exact ht
  · exact ht.wakeAll

theorem Sound.shut {p : Pool} (h : Sound p {}) : Sound p.shut {} := by
  unfold Pool.shut
  by_cases hc : p.closed = true
  · rw [if_pos hc]
    exact h
  · rw [if_neg hc]
    have hi : p.idle.Perm (p.idle ++ []) := List.Perm.of_eq (List.append_nil _).symm
    have ht := Sound.tear (h.takeIdle hi)
    rw [List.length_map] at ht
    -- Waking everyone is what makes it right to call the pool closed.
    have hw := ht.wakeAll
    exact ⟨hw.count, hw.within, hw.roomy, fun _ => ⟨rfl, rfl⟩, hw.covered, hw.placed, hw.named⟩

/-! ## Events and runs -/

/-- **Every event keeps the invariant**, from an empty hand to an empty hand. -/
theorem Sound.event {p : Pool} {e : Event} {out : Pool × Move} (h : Sound p {})
    (hs : p.step? e = some out) : Sound out.1 {} := by
  cases happens hs with
  | acquire new => exact Sound.look (h.takeTicket new)
  | resume hx => exact Sound.look (h.takeWoken hx)
  | probed hx => exact (h.takeProbing hx).lease false
  | probeFailed hx => exact Sound.look (h.takeProbing hx).giveBack
  | connected hx => exact (h.takeConnecting hx).opened.lease false
  | connectFailed error hx => exact ((h.takeConnecting hx).retime _ _ _).giveUpRoom.forget
  | expireParked due hx => exact (h.takeParked hx).forget
  | expireProbing due hx => exact (h.takeProbing hx).giveBack.forget
  | expireConnecting due hx => exact (h.takeConnecting hx).giveUpRoom.forget
  | abandonParked hx => exact (h.takeParked hx).forget
  | abandonAlone alone hx => exact (h.takeWoken hx).wakeOne.forget
  | abandonTogether together hx => exact (h.takeWoken hx).forget
  | abandonProbing hx => exact (h.takeProbing hx).giveBack.forget
  | abandonConnecting hx => exact (h.takeConnecting hx).giveUpRoom.forget
  | invalidate hx => exact (h.takeLease hx).lease true
  | release hx => exact (h.takeLease hx).giveBack.forget
  | sweep hc due => exact (h.retime _ _ _).evict
  | close => exact h.shut
  | advance may => exact h.retime _ _ _

theorem Sound.run {allowed : Pool → Event → Prop} {p q : Pool} (run : Run allowed p q)
    (h : Sound p {}) : Sound q {} :=
  run.keeps (I := fun p => Sound p {}) (fun h _ hs => h.event hs) (fun _ h => h.retime _ _ _) h

theorem sound_of_reachable {allowed : Pool → Event → Prop} {config : PoolConfig} {p : Pool}
    (h : ReachableBy allowed config p) : Sound p {} := by
  obtain ⟨new, hnew, run⟩ := h
  obtain ⟨rfl, _⟩ := ofConfig_eq_ok hnew
  exact Sound.run run (.fresh config)

/-! ## The limits stay as they are -/

@[simp] theorem config_wakeOne (p : Pool) : p.wakeOne.config = p.config := by rw [wakeOne_eq]

@[simp] theorem config_giveBack (p : Pool) (c : Nat) (invalid : Bool) :
    (p.giveBack c invalid).config = p.config := by
  rw [giveBack, config_wakeOne]
  split <;> rfl

theorem config_giveUpRoom (p : Pool) : p.giveUpRoom.config = p.config := by
  rw [giveUpRoom, config_wakeOne]
  rfl

theorem config_look (p : Pool) (w : Waiter) : (p.look w).1.config = p.config := by
  have hl := p.looked w
  generalize p.look w = out at hl
  cases hl <;> rfl

theorem config_shut (p : Pool) : p.shut.config = p.config := by
  unfold shut
  split <;> rfl

@[simp] theorem config_evict (p : Pool) : p.evict.config = p.config := by
  simp only [evict]
  split <;> rfl

theorem config_event {p : Pool} {e : Event} {out : Pool × Move} (hs : p.step? e = some out) :
    out.1.config = p.config := by
  cases happens hs <;> simp [lease, config_giveUpRoom, config_look, config_shut]

theorem config_run {allowed : Pool → Event → Prop} {p q : Pool} (run : Run allowed p q) :
    q.config = p.config := by
  have hevent : ∀ {q e out}, q.config = p.config → allowed q e → step? q e = some out →
      out.1.config = p.config := fun h _ hs => (config_event hs).trans h
  exact run.keeps hevent (fun _ h => h) rfl

theorem config_of_reachable {allowed : Pool → Event → Prop} {config : PoolConfig} {p : Pool}
    (h : ReachableBy allowed config p) : p.config = config := by
  obtain ⟨new, hnew, run⟩ := h
  obtain ⟨rfl, _⟩ := ofConfig_eq_ok hnew
  exact config_run run

/-! ## The accounts -/

/-- **The accounts of a pool balance in every state.** Every open connection is idle, leased, under
probe or being opened, and counted once; the two limits hold; a closed pool keeps nothing idle; and
nothing was ever to be taken off the count that was not on it. -/
theorem accounts_balance {config : PoolConfig} {p : Pool} (h : Reachable config p) :
    p.opened = p.idle.length + (p.leases.length + p.probing.length) + p.connecting.length ∧
      p.opened ≤ config.maxOpen ∧ p.idle.length ≤ config.maxIdle ∧
      (p.closed = true → p.idle = []) ∧ p.overdrawn = false := by
  have hs := sound_of_reachable h
  have hc := config_of_reachable h
  have hn := hs.count
  simp only [List.length_nil] at hn
  refine ⟨by omega, hc ▸ hs.within, hc ▸ hs.roomy, fun hclosed => (hs.drained hclosed).1,
    hs.covered⟩

/-- A pool with one connection idle, one leased, one under probe and one being opened. -/
theorem accounts_balance_busy : ∃ p, Reachable { maxOpen := 4, maxIdle := 2 } p ∧
    p.idle.length = 1 ∧ p.leases.length = 1 ∧ p.probing.length = 1 ∧ p.connecting.length = 1 ∧
    p.opened = p.idle.length + (p.leases.length + p.probing.length) + p.connecting.length ∧
    p.opened ≤ 4 ∧ p.idle.length ≤ 2 ∧ (p.closed = true → p.idle = []) ∧
    p.overdrawn = false := by
  have run : after? (fresh { maxOpen := 4, maxIdle := 2 })
      [.acquire 0 9, .acquire 1 9, .acquire 2 9, .acquire 3 9, .connected 0, .connected 1,
        .connected 2, .release 0, .release 1, .acquire 4 9] = some _ := rfl
  have h : Reachable { maxOpen := 4, maxIdle := 2 } _ := ⟨_, rfl, reaches_of_after? run⟩
  exact ⟨_, h, rfl, rfl, rfl, rfl, accounts_balance h⟩

end Pool
end ChainExplorer
