import ChainExplorer.Proofs.Pool.Holdings

/-!
# Waking and waiting

An acquire parks where the pool is full, and whoever makes room wakes one that is parked. Whether
that is enough hangs on what the woken do. `Attended p owed` says how far it is: where somebody is
parked, there is no more room than wake-ups under way, or than those and `owed` more. An event that
makes room is followed by a wake-up at once, and an acquire that was woken takes the room up, passes
its wake-up on when it is abandoned, or parks where the room has gone to another.

One way out of an acquire breaks the chain. A woken acquire that finds room but remembers that a
connect has just failed is refused, and its wake-up is gone: the room stays, and with no other
wake-up under way the others stay parked beside it. `Squanders` is that event.
`parked_at_full_unless_squandered` says that it is the only cause of stranded acquires, and always
one.
-/

namespace ChainExplorer
namespace Pool

/-- How many connections could be handed out or opened. -/
def room (p : Pool) : Nat := p.idle.length + (p.config.maxOpen - p.opened)

/-- The wake-ups under way that were meant for one acquire. -/
def heralds (p : Pool) : Nat := p.woken.countP (·.cause = .alone)

/-- An open pool with nothing idle and no room left. -/
def Full (p : Pool) : Prop := p.closed = false ∧ p.idle = [] ∧ p.opened = p.config.maxOpen

/-- Whoever looks around finds room and is refused because of an earlier failure. -/
def Spurns (p : Pool) : Prop :=
  p.closed = false ∧ p.idle = [] ∧ p.opened < p.config.maxOpen ∧ p.recentFailure?.isSome

/-- An acquire that was woken alone is refused because of an earlier failure, while others are
parked and there are no more wake-ups under way than there is room. -/
def Squanders (p : Pool) : Event → Prop
  | .resume ticket =>
    (∃ w ∈ p.woken, w.waiter.ticket = ticket ∧ w.cause = .alone) ∧
      p.Spurns ∧ p.parked ≠ [] ∧ p.heralds ≤ p.room
  | _ => False

/-- Where somebody is parked, all room but so much has a wake-up under way. -/
def Attended (p : Pool) (owed : Nat) : Prop := p.parked ≠ [] → p.room ≤ p.heralds + owed

theorem Attended.of_parked_eq_nil {p : Pool} {owed : Nat} (h : p.parked = []) :
    p.Attended owed := fun hp => absurd h hp

/-! ## Each part of an event -/

theorem Attended.wakeOne {p : Pool} {owed : Nat} (h : p.Attended (owed + 1)) :
    p.wakeOne.Attended owed := by
  rw [wakeOne_eq]
  cases hp : p.parked with
  | nil => exact .of_parked_eq_nil rfl
  | cons w ws =>
    intro _
    have hr := h (by rw [hp]; exact List.cons_ne_nil w ws)
    simp only [room, heralds, List.head?_cons, Option.map_some, Option.toList_some,
      List.countP_append, List.countP_cons, List.countP_nil, decide_true, if_true] at hr ⊢
    omega

/-- Giving up a room makes room for one. -/
theorem Attended.giveUpRoom {p : Pool} {owed : Nat} (h : p.Attended owed) :
    p.giveUpRoom.Attended owed := by
  apply Attended.wakeOne
  intro hp
  have hr := h hp
  simp only [room, heralds, uncount] at hr ⊢
  omega

theorem Attended.giveBack {p : Pool} {c : Nat} {invalid : Bool} {owed : Nat}
    (h : p.Attended owed) : (p.giveBack c invalid).Attended owed := by
  unfold Pool.giveBack
  apply Attended.wakeOne
  split
  · intro hp
    have hr := h hp
    simp only [room, heralds, uncount] at hr ⊢
    omega
  · intro hp
    have hr := h hp
    simp only [room, heralds, List.length_append, List.length_cons, List.length_nil] at hr ⊢
    omega

/-- Looking around takes up room, or parks where there is none. Only whoever is turned away leaves
the room as it was, and then nothing may have been owed for it. -/
theorem Attended.look {p : Pool} {w : Waiter} {owed : Nat} (h : p.Attended owed)
    (hone : owed ≤ 1) (hc : p.closed = true → p.parked = [])
    (hs : p.Spurns → p.Attended 0) : (p.look w).1.Attended 0 := by
  have hl := p.looked w
  generalize p.look w = out at hl
  cases hl with
  | closed hclosed => exact .of_parked_eq_nil (hc hclosed)
  | @probe last rest hclosed hi =>
    intro hp
    have hr := h hp
    simp only [room, heralds, hi, List.length_append, List.length_cons, List.length_nil] at hr ⊢
    omega
  | refuse hclosed hi ho hf => exact hs ⟨hclosed, hi, ho, by rw [hf]; rfl⟩
  | connect hclosed hi ho hf =>
    intro hp
    have hr := h hp
    simp only [room, heralds] at hr ⊢
    omega
  | park hclosed hi ho =>
    intro _
    simp only [room, heralds, hi, List.length_nil]
    omega

theorem Attended.evict {p : Pool} (h : p.Attended 0) : p.evict.Attended 0 := by
  simp only [Pool.evict]
  split
  · rename_i hgone
    -- Nobody goes, so the idle connections stay as many as they were.
    intro hp
    have hr := h hp
    have hl := (perm_evict p.isYoung p.idle
      ((p.idle.filter p.isYoung).length - p.config.maxIdle)).length_eq
    rw [List.isEmpty_iff] at hgone
    rw [hgone, List.nil_append] at hl
    simp only [room, heralds, uncount, hgone, List.length_nil] at hr ⊢
    omega
  · exact .of_parked_eq_nil rfl

theorem Attended.shut {p : Pool} (h : p.Attended 0) : p.shut.Attended 0 := by
  unfold Pool.shut
  split
  · exact h
  · exact .of_parked_eq_nil rfl

/-- An acquire that was woken takes its wake-up along. -/
theorem Attended.takeWoken {p : Pool} {f : Woken → Bool} {w : Woken} {rest : List Woken}
    (h : p.Attended 0) (hx : extract? f p.woken = some (w, rest)) :
    Attended { p with woken := rest } (if w.cause = .alone then 1 else 0) := by
  intro hp
  have hr := h hp
  have hw := countP_of_extract? hx (·.cause = .alone)
  simp only [room, heralds, decide_eq_true_eq] at hr hw ⊢
  omega

theorem Attended.takeParked {p : Pool} {f : Waiter → Bool} {w : Waiter} {rest : List Waiter}
    (h : p.Attended 0) (hx : extract? f p.parked = some (w, rest)) :
    Attended { p with parked := rest } 0 := by
  intro _
  refine h fun hnil => ?_
  rw [hnil] at hx
  cases hx

/-! ## Events -/

/-- A woken acquire that looks around without squandering its wake-up. -/
theorem Attended.resume {p : Pool} {w : Woken} {rest : List Woken} (hs : Sound p {})
    (h : p.Attended 0) (hspare : ¬ p.Squanders (.resume w.waiter.ticket))
    (hx : extract? (·.waiter.ticket = w.waiter.ticket) p.woken = some (w, rest)) :
    (Pool.look { p with woken := rest } w.waiter).1.Attended 0 := by
  have ht := h.takeWoken hx
  by_cases hw : w.cause = .alone
  · rw [if_pos hw] at ht
    refine ht.look (Nat.le_refl 1) (fun hc => (hs.drained hc).2) ?_
    intro hspurn hp
    -- It would be refused, so there are more wake-ups under way than room.
    have hmem : w ∈ p.woken := (mem_of_extract? hx).2 (Or.inl rfl)
    have hmore : ¬ p.heralds ≤ p.room := fun hle =>
      hspare ⟨⟨w, hmem, rfl, hw⟩, hspurn, hp, hle⟩
    have hcount := countP_of_extract? hx (·.cause = .alone)
    simp only [room, heralds, hw, decide_true, if_true] at hmore hcount ⊢
    omega
  · rw [if_neg hw] at ht
    exact ht.look (Nat.zero_le 1) (fun hc => (hs.drained hc).2) fun _ => ht

theorem Attended.event {p : Pool} {e : Event} {out : Pool × Move} (hs : Sound p {})
    (h : p.Attended 0) (hspare : ¬ p.Squanders e) (hstep : p.step? e = some out) :
    out.1.Attended 0 := by
  cases happens hstep with
  | acquire new => exact h.look (Nat.zero_le 1) (fun hc => (hs.drained hc).2) fun _ => h
  | resume hx => exact h.resume hs hspare hx
  | probed hx => exact h
  | @probeFailed a rest hx =>
    have hback : (Pool.giveBack { p with probing := rest } a.conn true).Attended 0 :=
      Attended.giveBack h
    have hsound : Sound (Pool.giveBack { p with probing := rest } a.conn true)
        ⟨[a.ticket], [], 0⟩ := (hs.takeProbing hx).giveBack
    exact hback.look (Nat.zero_le 1) (fun hc => (hsound.drained hc).2) fun _ => hback
  | connected hx => exact h
  | connectFailed error hx => exact Attended.giveUpRoom h
  | expireParked due hx => exact h.takeParked hx
  | expireProbing due hx => exact Attended.giveBack h
  | expireConnecting due hx => exact Attended.giveUpRoom h
  | abandonParked hx => exact h.takeParked hx
  | abandonAlone alone hx =>
    have ht := h.takeWoken hx
    rw [if_pos alone] at ht
    exact ht.wakeOne
  | abandonTogether together hx =>
    have ht := h.takeWoken hx
    rw [if_neg (by rw [together]; exact WakeCause.noConfusion)] at ht
    exact ht
  | abandonProbing hx => exact Attended.giveBack h
  | abandonConnecting hx => exact Attended.giveUpRoom h
  | invalidate hx => exact h
  | release hx => exact Attended.giveBack h
  | sweep hc due => exact Attended.evict h
  | close => exact h.shut
  | advance may => exact h

/-- A run that squanders nothing attends to whoever is parked, all along. -/
theorem attended_of_reachable {config : PoolConfig} {p : Pool}
    (h : ReachableBy (fun p e => ¬ p.Squanders e) config p) : p.Attended 0 := by
  obtain ⟨new, hnew, run⟩ := h
  obtain ⟨rfl, _⟩ := ofConfig_eq_ok hnew
  have hevent : ∀ {q e out}, Sound q {} ∧ q.Attended 0 → ¬ q.Squanders e →
      step? q e = some out → Sound out.1 {} ∧ out.1.Attended 0 :=
    fun hq hspare hs => ⟨hq.1.event hs, hq.2.event hq.1 hspare hs⟩
  exact (run.keeps hevent (fun _ hq => ⟨hq.1.retime _ _ _, hq.2⟩)
    ⟨.fresh config, .of_parked_eq_nil rfl⟩).2

/-! ## Standstill -/

theorem woken_eq_nil_of_ready? {p : Pool} (h : p.ready? = none) : p.woken = [] := by
  rw [ready?, Option.map_eq_none_iff] at h
  exact List.head?_eq_none_iff.1 h

/-- Where nobody is left to look around and whoever is parked is attended to, the pool is full. -/
theorem Attended.full {p : Pool} (hs : Sound p {}) (h : p.Attended 0) (hready : p.ready? = none)
    (hp : p.parked ≠ []) : p.Full := by
  have hr := h hp
  have hwithin := hs.within
  rw [heralds, woken_eq_nil_of_ready? hready, List.countP_nil, room] at hr
  refine ⟨?_, List.eq_nil_of_length_eq_zero (by omega), by omega⟩
  cases hc : p.closed with
  | false => rfl
  | true => exact absurd (hs.drained hc).2 hp

theorem look_of_spurns {p : Pool} (h : p.Spurns) (w : Waiter) : (p.look w).1 = p := by
  obtain ⟨hc, hi, ho, hf⟩ := h
  have hl := p.looked w
  generalize p.look w = out at hl
  cases hl with
  | closed hclosed => rfl
  | refuse hclosed hidle hopen hfail => rfl
  | probe hclosed hidle =>
    rw [hi] at hidle
    exact absurd hidle (by simp)
  | connect hclosed hidle hopen hfail =>
    rw [hfail] at hf
    cases hf
  | park hclosed hidle hopen => exact absurd ho (Nat.not_lt_of_le hopen)

/-- Those woken look around one after the other, and each is refused. -/
theorem spurn_woken {p : Pool} (h : p.Spurns) (woken : List Woken) :
    after? { p with woken } ((woken.map (·.waiter.ticket)).map .resume)
      = some { p with woken := [] } := by
  induction woken with
  | nil => rfl
  | cons w ws ih =>
    -- A refusal changes nothing, so the next one is refused as well.
    have hspurns : Spurns { p with woken := ws } := h
    simp only [List.map_cons, after?, step?, extract?, decide_true, if_true, Option.map_some,
      Option.bind_some, look_of_spurns hspurns]
    exact ih

/-- After a squandered wake-up, all those woken look around without any time passing, and then
somebody is parked although there is room. -/
theorem stranded_of_squanders {p : Pool} {e : Event} {out : Pool × Move} (h : p.Squanders e)
    (hstep : p.step? e = some out) :
    ∃ (tickets : List Nat) (r : Pool), out.1.after? (tickets.map .resume) = some r ∧
      r.ready? = none ∧ r.parked ≠ [] ∧ ¬ r.Full := by
  cases happens hstep with
  | @resume w rest hx =>
    obtain ⟨_, hspurns, hparked, _⟩ := h
    have hrest : Spurns { p with woken := rest } := hspurns
    rw [look_of_spurns hrest]
    refine ⟨_, _, spurn_woken hspurns rest, rfl, hparked, fun hfull => ?_⟩
    exact absurd hspurns.2.2.1 (Nat.not_lt_of_le (Nat.le_of_eq hfull.2.2.symm))
  | _ => exact h.elim

/-- **An acquire is stranded exactly by a squandered wake-up.** In a run that squanders none,
whoever is still parked when nothing is left to run waits at a full pool. And each squandered
wake-up is followed, before any time passes, by a standstill at which somebody is parked and the
pool has room. -/
theorem parked_at_full_unless_squandered (config : PoolConfig) :
    (∀ p, ReachableBy (fun p e => ¬ p.Squanders e) config p → p.ready? = none → p.parked ≠ [] →
      p.closed = false ∧ p.idle = [] ∧ p.opened = config.maxOpen) ∧
    (∀ p e out, Reachable config p → p.Squanders e → p.step? e = some out →
      ∃ (tickets : List Nat) (r : Pool), out.1.after? (tickets.map .resume) = some r ∧
        r.ready? = none ∧ r.parked ≠ [] ∧
          ¬ (r.closed = false ∧ r.idle = [] ∧ r.opened = config.maxOpen)) := by
  constructor
  · intro p h hready hp
    have hfull := (attended_of_reachable h).full (sound_of_reachable h) hready hp
    rwa [Full, config_of_reachable h] at hfull
  · intro p e out h hsq hstep
    obtain ⟨tickets, r, hafter, hready, hp, hfull⟩ := stranded_of_squanders hsq hstep
    have hr : Reaches p r := (Run.event .start trivial hstep).trans (reaches_of_after? hafter)
    rw [Full, config_of_reachable (h.run hr)] at hfull
    exact ⟨tickets, r, hafter, hready, hp, hfull⟩

/-- Room for one connection, and a window in which a failed connect is remembered. -/
def single : PoolConfig := { maxOpen := 1, maxIdle := 1, retryWindow := 2000 }

/-- One acquire connects and two are parked behind it. The connect fails, and the first of the two
is woken. -/
def failing : List Event :=
  [.acquire 0 60000, .acquire 1 60000, .acquire 2 60000, .connectFailed 0 (.connect "refused")]

/-- Two acquires parked at a full pool, and what follows when the one being opened fails. -/
theorem parked_at_full_unless_squandered_single :
    (∃ p, ReachableBy (fun p e => ¬ p.Squanders e) single p ∧ p.ready? = none ∧
      p.parked.length = 2 ∧ p.closed = false ∧ p.idle = [] ∧ p.opened = 1) ∧
    (∃ (p : Pool) (out : Pool × Move) (tickets : List Nat) (r : Pool),
      Reachable single p ∧ p.Squanders (.resume 1) ∧ p.step? (.resume 1) = some out ∧
      out.1.after? (tickets.map .resume) = some r ∧ r.ready? = none ∧ r.parked ≠ [] ∧
      ¬ (r.closed = false ∧ r.idle = [] ∧ r.opened = 1)) := by
  obtain ⟨full, strands⟩ := parked_at_full_unless_squandered single
  constructor
  · have run : after? (fresh single) [.acquire 0 60000, .acquire 1 60000, .acquire 2 60000]
        = some _ := rfl
    have h : ReachableBy (fun p e => ¬ p.Squanders e) single _ :=
      ⟨_, rfl, run_of_after? (by simp [Squanders]) run⟩
    exact ⟨_, h, rfl, rfl, full _ h rfl (List.cons_ne_nil _ _)⟩
  · let p : Pool := ((fresh single).after? failing).getD (fresh single)
    have run : after? (fresh single) failing = some p := rfl
    have h : Reachable single p := ⟨_, rfl, reaches_of_after? run⟩
    have hsq : p.Squanders (.resume 1) :=
      ⟨⟨_, List.mem_cons_self, rfl, rfl⟩, ⟨rfl, rfl, Nat.one_pos, rfl⟩, List.cons_ne_nil _ _,
        Nat.le_refl 1⟩
    obtain ⟨tickets, r, hr⟩ := strands p _ _ h hsq rfl
    exact ⟨p, _, tickets, r, h, hsq, rfl, hr⟩

/-- An acquire can be left parked although nothing is open and nothing is left to run. -/
theorem parked_with_room : ∃ p, Reachable single p ∧ p.ready? = none ∧ p.parked ≠ [] ∧
    ¬ (p.closed = false ∧ p.idle = [] ∧ p.opened = single.maxOpen) := by
  have run : after? (fresh single) (failing ++ [.resume 1]) = some _ := rfl
  exact ⟨_, ⟨_, rfl, reaches_of_after? run⟩, rfl, List.cons_ne_nil _ _, fun h => nomatch h.2.2⟩

end Pool
end ChainExplorer
