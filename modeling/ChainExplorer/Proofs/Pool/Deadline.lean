import ChainExplorer.Proofs.Pool.Turns

/-!
# No acquire outlives its deadline

An acquire awaits something all along its way, and each of these waits ends at its deadline. So a
pool in which nobody can go on without time passing has no acquire whose deadline is over, and on a
clock that waits for whoever can go on, an acquire is over by its deadline, or at once if it begins
later than that.

What is left to show is that a pool does come to rest. An acquire may go round many times before it
ends: probes fail, wake-ups turn out to be for nothing, and a permit that nobody took sends whoever
parks next round once more. Each turn lowers the potential of the pool, which other events raise by
a fixed amount, or by the number of the parked where they are all woken. So no acquire goes round for
ever, at rest others or not (`never_past_deadline`).
-/

namespace ChainExplorer
namespace Pool

/-! ## Who is on the way -/

/-- Every acquire on its way, with its deadline. -/
def pending (p : Pool) : List Waiter := p.waiters ++ p.woken.map (·.waiter)

section Pending

variable {p q : Pool} {w : Waiter}

theorem mem_pending : w ∈ p.pending ↔ w ∈ p.parked ∨
    w ∈ p.probing.map (fun a => ⟨a.ticket, a.deadline⟩) ∨ w ∈ p.connecting ∨
      w ∈ p.woken.map (·.waiter) := by
  simp only [pending, waiters, List.mem_append, or_assoc]

theorem pending_wakeOne (p : Pool) : p.wakeOne.pending ⊆ p.pending := by
  intro w hw
  rw [wakeOne_eq, mem_pending] at hw
  rw [mem_pending]
  cases hp : p.parked with
  | nil => simpa [hp] using hw
  | cons v vs =>
    simp only [hp, List.tail_cons, List.head?_cons, Option.map_some, Option.toList_some,
      List.map_append, List.map_cons, List.map_nil, List.mem_append, List.mem_cons] at hw ⊢
    tauto

theorem pending_wakeAll (p : Pool) : p.wakeAll.pending ⊆ p.pending := by
  intro w hw
  rw [mem_pending] at hw ⊢
  simp only [wakeAll, List.map_append, List.map_map, List.mem_append, List.not_mem_nil,
    false_or, Function.comp_def, List.map_id'] at hw
  tauto

theorem pending_giveBack (p : Pool) (c : Nat) (invalid : Bool) :
    (p.giveBack c invalid).pending ⊆ p.pending := by
  unfold giveBack
  split <;> exact pending_wakeOne _

theorem pending_giveUpRoom (p : Pool) : p.giveUpRoom.pending ⊆ p.pending := pending_wakeOne _

theorem pending_evict (p : Pool) : p.evict.pending ⊆ p.pending := by
  simp only [evict]
  split
  · exact List.Subset.refl _
  · exact pending_wakeAll _

theorem pending_shut (p : Pool) : p.shut.pending ⊆ p.pending := by
  unfold shut
  split
  · exact List.Subset.refl _
  · exact pending_wakeAll _

theorem pending_look (p : Pool) (w : Waiter) : (p.look w).1.pending ⊆ w :: p.pending := by
  intro v hv
  have hl := p.looked w
  generalize p.look w = out at hl hv
  rw [List.mem_cons, mem_pending]
  rw [mem_pending] at hv
  cases hl with
  | closed | refuse => exact .inr hv
  | probe | connect | park =>
    simp only [List.map_append, List.map_cons, List.map_nil, List.mem_append,
      List.mem_singleton] at hv
    tauto

theorem pending_takeParked {f : Waiter → Bool} {rest : List Waiter}
    (hx : extract? f p.parked = some (w, rest)) :
    w ∈ p.pending ∧ pending { p with parked := rest } ⊆ p.pending := by
  refine ⟨mem_pending.2 (.inl ((mem_of_extract? hx).2 (.inl rfl))), fun v hv => ?_⟩
  rw [mem_pending] at hv ⊢
  exact hv.imp_left fun h => (mem_of_extract? hx).2 (.inr h)

theorem pending_takeProbing {f : Probe → Bool} {a : Probe} {rest : List Probe}
    (hx : extract? f p.probing = some (a, rest)) :
    ⟨a.ticket, a.deadline⟩ ∈ p.pending ∧ pending { p with probing := rest } ⊆ p.pending := by
  have ha : a ∈ p.probing := (mem_of_extract? hx).2 (.inl rfl)
  refine ⟨mem_pending.2 (.inr (.inl (List.mem_map_of_mem ha))), fun v hv => ?_⟩
  rw [mem_pending] at hv ⊢
  exact hv.imp_right (.imp_left fun h => List.map_subset _ (sublist_of_extract? hx).subset h)

theorem pending_takeConnecting {f : Waiter → Bool} {rest : List Waiter}
    (hx : extract? f p.connecting = some (w, rest)) :
    w ∈ p.pending ∧ pending { p with connecting := rest } ⊆ p.pending := by
  refine ⟨mem_pending.2 (.inr (.inr (.inl ((mem_of_extract? hx).2 (.inl rfl))))), fun v hv => ?_⟩
  rw [mem_pending] at hv ⊢
  exact hv.imp_right (.imp_right (.imp_left fun h => (mem_of_extract? hx).2 (.inr h)))

theorem pending_takeWoken {f : Woken → Bool} {v : Woken} {rest : List Woken}
    (hx : extract? f p.woken = some (v, rest)) :
    v.waiter ∈ p.pending ∧ pending { p with woken := rest } ⊆ p.pending := by
  have hv : v ∈ p.woken := (mem_of_extract? hx).2 (.inl rfl)
  refine ⟨mem_pending.2 (.inr (.inr (.inr (List.mem_map_of_mem hv)))), fun u hu => ?_⟩
  rw [mem_pending] at hu ⊢
  exact hu.imp_right (.imp_right (.imp_right
    fun h => List.map_subset _ (sublist_of_extract? hx).subset h))

/-- **Whoever is on the way was so before, or has just begun**, and with the same deadline. -/
theorem pending_event {e : Event} {out : Pool × Move} (hs : p.step? e = some out)
    (hw : w ∈ out.1.pending) : w ∈ p.pending ∨ e = .acquire w.ticket w.deadline := by
  cases happens hs with
  | acquire new =>
    rcases List.mem_cons.1 (pending_look _ _ hw) with rfl | hold
    · exact .inr rfl
    · exact .inl hold
  | resume hx =>
    obtain ⟨hwoken, hrest⟩ := pending_takeWoken hx
    rcases List.mem_cons.1 (pending_look _ _ hw) with rfl | hold
    · exact .inl hwoken
    · exact .inl (hrest hold)
  | probeFailed hx =>
    obtain ⟨hprobing, hrest⟩ := pending_takeProbing hx
    rcases List.mem_cons.1 (pending_look _ _ hw) with rfl | hold
    · exact .inl hprobing
    · exact .inl (hrest (pending_giveBack _ _ _ hold))
  | probed hx => exact .inl ((pending_takeProbing hx).2 hw)
  | connected hx => exact .inl ((pending_takeConnecting hx).2 hw)
  | connectFailed error hx =>
    have hold := pending_giveUpRoom _ hw
    exact .inl ((pending_takeConnecting hx).2 hold)
  | expireParked due hx | abandonParked hx => exact .inl ((pending_takeParked hx).2 hw)
  | expireProbing due hx | abandonProbing hx =>
    exact .inl ((pending_takeProbing hx).2 (pending_giveBack _ _ _ hw))
  | expireConnecting due hx | abandonConnecting hx =>
    exact .inl ((pending_takeConnecting hx).2 (pending_giveUpRoom _ hw))
  | abandonAlone alone hx => exact .inl ((pending_takeWoken hx).2 (pending_wakeOne _ hw))
  | abandonTogether together hx => exact .inl ((pending_takeWoken hx).2 hw)
  | release hx =>
    have hold := pending_giveBack _ _ _ hw
    exact .inl hold
  | sweep =>
    have hold := pending_evict _ hw
    exact .inl hold
  | close => exact .inl (pending_shut _ hw)
  | invalidate | advance => exact .inl hw

/-! ## Rest -/

/-- An acquire can be ended at its deadline wherever it waits. -/
theorem expire?_eq_none {t : Nat} :
    p.expire? t = none ↔ ∀ w ∈ p.waiters, w.ticket = t → p.now < w.deadline := by
  have hlists : p.expire? t = none ↔
      extract? (fun w => w.ticket = t && w.deadline ≤ p.now) p.parked = none ∧
      extract? (fun a => a.ticket = t && a.deadline ≤ p.now) p.probing = none ∧
      extract? (fun w => w.ticket = t && w.deadline ≤ p.now) p.connecting = none := by
    simp only [expire?]
    split
    · simp_all
    · split
      · simp_all
      · split <;> simp_all
  simp only [hlists, extract?_eq_none, waiters, List.mem_append, List.mem_map, Bool.and_eq_false_imp,
    decide_eq_true_eq, decide_eq_false_iff_not, Nat.not_le]
  constructor
  · rintro ⟨hparked, hprobing, hconnecting⟩ w ((hw | ⟨a, ha, rfl⟩) | hw)
    · exact hparked w hw
    · exact hprobing a ha
    · exact hconnecting w hw
  · intro h
    exact ⟨fun w hw => h w (.inl (.inl hw)), fun a ha => h _ (.inl (.inr ⟨a, ha, rfl⟩)),
      fun w hw => h w (.inr hw)⟩

/-- A pool is at rest where nobody is left to look around and no deadline is over. -/
theorem atRest_iff : p.AtRest ↔ p.woken = [] ∧ ∀ w ∈ p.waiters, p.now < w.deadline := by
  have hresume : ∀ t, p.step? (.resume t) = none ↔ ∀ v ∈ p.woken, v.waiter.ticket ≠ t := by
    intro t
    rw [step?, Option.map_eq_none_iff, extract?_eq_none]
    simp only [decide_eq_false_iff_not, ne_eq]
  simp only [AtRest, hresume]
  constructor
  · intro h
    refine ⟨List.eq_nil_iff_forall_not_mem.2 fun v hv => (h v.waiter.ticket).1 v hv rfl, ?_⟩
    exact fun w hw => expire?_eq_none.1 (h w.ticket).2 w hw rfl
  · rintro ⟨hwoken, hwaiters⟩ t
    refine ⟨fun v hv => ?_, expire?_eq_none.2 fun w hw _ => hwaiters w hw⟩
    rw [hwoken] at hv
    cases hv

instance : Decidable p.AtRest := decidable_of_iff _ atRest_iff.symm

theorem AtRest.in_time (h : p.AtRest) : ∀ w ∈ p.pending, p.now < w.deadline := by
  obtain ⟨hwoken, hwaiters⟩ := atRest_iff.1 h
  rw [pending, hwoken, List.map_nil, List.append_nil]
  exact hwaiters

/-! ## On a clock that waits -/

/-- A run in which time passes only where the pool lets it. -/
abbrev OnClock : Pool → Moments → Pool → Prop := Trace step? fun _ _ => False

/-- The moment at which an acquire began that has been on its way ever since. -/
def Underway (ms : Moments) (w : Waiter) (m : Moment Pool Event Move) : Prop :=
  ∃ earlier later, ms = earlier ++ m :: later ∧ m.event = .acquire w.ticket w.deadline ∧
    w ∈ m.after.pending ∧ ∀ n ∈ later, w ∈ n.before.pending ∧ w ∈ n.after.pending

/-- Time passes no deadline. -/
theorem now_event_le {e : Event} {out : Pool × Move} (hs : p.step? e = some out)
    (hw : w ∈ p.pending) : out.1.now ≤ max p.now w.deadline := by
  rw [(memory_event hs).1]
  cases happens hs with
  | @advance time may =>
    simp only [mayAdvance, Bool.and_eq_true, List.isEmpty_iff, List.all_eq_true,
      decide_eq_true_eq] at may
    obtain ⟨⟨⟨_, hwoken⟩, hwaiters⟩, _⟩ := may
    rw [pending, hwoken, List.map_nil, List.append_nil] at hw
    exact Nat.le_trans (hwaiters w hw) (Nat.le_max_right _ _)
  | _ => exact Nat.le_max_left _ _

theorem underway_of_pending {ms : Moments} (hnew : p.pending = [])
    (run : OnClock p ms q) :
    ∀ w ∈ q.pending, ∃ m, Underway ms w m ∧ q.now ≤ max m.before.now w.deadline := by
  refine run.keeps (I := fun ms q => ∀ w ∈ q.pending,
    ∃ m, Underway ms w m ∧ q.now ≤ max m.before.now w.deadline) ?_ ?_ ?_
  · intro w hw
    rw [hnew] at hw
    cases hw
  · intro ms last ih hs w hw
    rcases pending_event hs hw with hold | hbegins
    · obtain ⟨m, ⟨earlier, later, rfl, hevent, hfirst, hheld⟩, hnow⟩ := ih w hold
      have hlast : last.after.now ≤ max last.before.now w.deadline := now_event_le hs hold
      refine ⟨m, ⟨earlier, later ++ [last], by simp, hevent, hfirst, ?_⟩, by omega⟩
      exact List.forall_mem_append.2 ⟨hheld, List.forall_mem_singleton.2 ⟨hold, hw⟩⟩
    · refine ⟨last, ⟨ms, [], rfl, hbegins, hw, fun n hn => nomatch hn⟩, ?_⟩
      have hlast : last.after.now = last.event.timeAfter last.before := (memory_event hs).1
      rw [hlast, hbegins]
      exact Nat.le_max_left _ _
  · intro ms q r _ hdrift
    exact hdrift.elim

end Pending

/-! ## The result -/

/-- **No acquire outlives its deadline.** In every run on a clock that waits for whoever can go on,
an acquire that is on its way has its deadline still before it, or began only now. In every run at
all, however late the clock lets everyone be, a pool at rest has nobody on the way whose deadline is
over. And a pool does come to rest, before any time passes and whatever turns are taken: from any
of its states on, acquires go round no more often than its potential and the events of others
allow. -/
theorem never_past_deadline {config : PoolConfig} {new : Pool} (hnew : ofConfig config = .ok new) :
    (∀ ms q, OnClock new ms q → ∀ w ∈ q.pending,
      ∃ m, Underway ms w m ∧ q.now ≤ max m.before.now w.deadline) ∧
    (∀ ms q, Traced new ms q →
      (q.AtRest → ∀ w ∈ q.pending, q.now < w.deadline) ∧
      Inevitable Turn (fun r => r.AtRest ∧ r.now = q.now) q ∧
      ∀ later r, Traced q later r →
        (later.map rounds).sum + r.potential ≤ q.potential + (later.map charge).sum) := by
  obtain ⟨rfl, _⟩ := ofConfig_eq_ok hnew
  exact ⟨fun ms q => underway_of_pending rfl, fun ms q _ =>
    ⟨AtRest.in_time, rest_inevitable q, fun later r => rounds_le⟩⟩

/-- One acquire probes the only connection, and its deadline comes. At that time another begins that
is too late already. -/
def stalling : List Event :=
  [.acquire 0 9000, .connected 0, .release 0, .advance 100, .acquire 1 150, .advance 150,
    .acquire 2 50]

/-- Room for one connection. -/
def narrow : PoolConfig := { maxOpen := 1 }

/-- The moments of so many events of that run, and the pool after them. -/
def stalled (n : Nat) : Moments × Pool :=
  (Trace.retrace? step? (fresh narrow) (stalling.take n)).getD ([], fresh narrow)

/-- Both are on the way at the deadline of the first, and the pool is not at rest but comes to it.
Before, it is at rest with the first on its way. -/
theorem never_past_deadline_stalling :
    ((stalled 7).2.now = 150 ∧ (stalled 7).2.pending = [⟨2, 50⟩, ⟨1, 150⟩] ∧
      (∃ m, Underway (stalled 7).1 ⟨1, 150⟩ m ∧ 150 ≤ max m.before.now 150) ∧
      ∃ m, Underway (stalled 7).1 ⟨2, 50⟩ m ∧ 150 ≤ max m.before.now 50) ∧
    (¬ (stalled 7).2.AtRest ∧
      Inevitable Turn (fun r => r.AtRest ∧ r.now = 150) (stalled 7).2) ∧
    ((stalled 5).2.AtRest ∧ (stalled 5).2.pending = [⟨1, 150⟩] ∧
      ∀ w ∈ (stalled 5).2.pending, 100 < w.deadline) := by
  have hnew : ofConfig narrow = .ok (fresh narrow) := rfl
  obtain ⟨onClock, always⟩ := never_past_deadline hnew
  have five : Trace.retrace? step? (fresh narrow) (stalling.take 5)
      = some ((stalled 5).1, (stalled 5).2) := rfl
  have seven : Trace.retrace? step? (fresh narrow) (stalling.take 7)
      = some ((stalled 7).1, (stalled 7).2) := rfl
  have hpending : (stalled 7).2.pending = [⟨2, 50⟩, ⟨1, 150⟩] := rfl
  have hunderway := onClock (stalled 7).1 (stalled 7).2 (Trace.of_retrace? seven)
  obtain ⟨-, hrest, -⟩ := always (stalled 7).1 (stalled 7).2 (Trace.of_retrace? seven)
  have hatRest : (stalled 5).2.AtRest := by decide
  obtain ⟨hin, -⟩ := always (stalled 5).1 (stalled 5).2 (Trace.of_retrace? five)
  rw [hpending] at hunderway
  refine ⟨⟨rfl, hpending, hunderway _ ?_, hunderway _ ?_⟩, ⟨by decide, hrest⟩, hatRest, rfl,
    hin hatRest⟩
  · exact List.mem_cons_of_mem _ List.mem_cons_self
  · exact List.mem_cons_self

end Pool
end ChainExplorer
