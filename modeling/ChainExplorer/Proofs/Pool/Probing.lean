import ChainExplorer.Proofs.Pool.Holdings

/-!
# Probes that do not end well

A connection whose probe has begun and not succeeded may still carry the reply of the probe, so it
must not be used again. A failed probe and one that outlives the deadline close it. An acquire that
is abandoned in mid-probe gives it back unmarked instead, and an open pool with room among its idle
connections keeps it. `Slips` is that event. `unfinished_probe_closes_unless_abandoned` says that
without it no such connection is idle or leased again, and that with it the connection always is
idle at once.

What is torn down stays so (`torn_of_run`), and where a connection stands it stands alone
(`Sound.alone_of_torn`, `Sound.alone_of_probing`), so it is enough to follow a probe to its end.
-/

namespace ChainExplorer
namespace Pool

/-- A probe succeeds. -/
def Passes (a : Probe) (p : Pool) (e : Event) : Prop := a ∈ p.probing ∧ e = .probed a.ticket

/-- An acquire is abandoned in mid-probe while the pool would keep the connection. -/
def Slips (a : Probe) (p : Pool) (e : Event) : Prop :=
  a ∈ p.probing ∧ e = .abandon a.ticket ∧ p.closed = false ∧ p.idle.length < p.config.maxIdle

/-- A connection is neither idle nor leased. -/
def Unused (p : Pool) (c : Nat) : Prop :=
  (∀ i ∈ p.idle, i.conn ≠ c) ∧ ∀ l ∈ p.leases, l.conn ≠ c

/-! ## What is torn down stays torn down -/

@[simp] theorem torn_wakeOne (p : Pool) : p.wakeOne.torn = p.torn := by rw [wakeOne_eq]

@[simp] theorem torn_giveUpRoom (p : Pool) : p.giveUpRoom.torn = p.torn := by
  rw [giveUpRoom, torn_wakeOne]
  rfl

@[simp] theorem torn_look (p : Pool) (w : Waiter) : (p.look w).1.torn = p.torn := by
  have hl := p.looked w
  generalize p.look w = out at hl
  cases hl <;> rfl

theorem torn_giveBack {p : Pool} {l : List Nat} {c : Nat} {invalid : Bool} (h : l <+: p.torn) :
    l <+: (p.giveBack c invalid).torn := by
  rw [giveBack, torn_wakeOne]
  split
  · exact h.trans (List.prefix_append p.torn [c])
  · exact h

theorem torn_evict {p : Pool} {l : List Nat} (h : l <+: p.torn) : l <+: p.evict.torn := by
  simp only [evict]
  split <;> exact h.trans (List.prefix_append p.torn _)

theorem torn_shut {p : Pool} {l : List Nat} (h : l <+: p.torn) : l <+: p.shut.torn := by
  unfold shut
  split
  · exact h
  · exact h.trans (List.prefix_append p.torn _)

theorem torn_event {p : Pool} {l : List Nat} {e : Event} {out : Pool × Move}
    (h : l <+: p.torn) (hs : p.step? e = some out) : l <+: out.1.torn := by
  cases happens hs with
  | acquire | resume =>
    rw [torn_look]
    exact h
  | probeFailed =>
    rw [torn_look]
    exact torn_giveBack h
  | connectFailed | expireConnecting | abandonConnecting =>
    rw [torn_giveUpRoom]
    exact h
  | expireProbing | abandonProbing | release => exact torn_giveBack h
  | abandonAlone =>
    rw [torn_wakeOne]
    exact h
  | sweep => exact torn_evict h
  | close => exact torn_shut h
  | _ => exact h

theorem torn_of_run {allowed : Pool → Event → Prop} {p q : Pool} (run : Run allowed p q) :
    p.torn <+: q.torn :=
  run.keeps (I := fun q => p.torn <+: q.torn) (fun h _ hs => torn_event h hs) (fun _ h => h)
    List.prefix_rfl

/-! ## Where a connection stands, it stands alone -/

theorem Sound.alone_of_torn {p : Pool} {c : Nat} (h : Sound p {}) (hc : c ∈ p.torn) :
    p.Unused c ∧ ∀ a ∈ p.probing, a.conn ≠ c := by
  have hn := h.placed c
  have ht := List.count_pos_iff.2 hc
  have hle : (if c < p.nextConn then 1 else 0) ≤ 1 := by split <;> omega
  simp only [places, List.count_nil] at hn
  have hidle : p.idle.countP (·.conn = c) = 0 := by omega
  have hprobing : p.probing.countP (·.conn = c) = 0 := by omega
  have hleases : p.leases.countP (·.conn = c) = 0 := by omega
  simp only [List.countP_eq_zero, decide_eq_true_eq] at hidle hprobing hleases
  exact ⟨⟨hidle, hleases⟩, hprobing⟩

theorem Sound.alone_of_probing {p : Pool} {a : Probe} (h : Sound p {}) (ha : a ∈ p.probing) :
    p.Unused a.conn := by
  have hn := h.placed a.conn
  have ht : 0 < p.probing.countP (·.conn = a.conn) :=
    List.countP_pos_iff.2 ⟨a, ha, decide_eq_true rfl⟩
  have hle : (if a.conn < p.nextConn then 1 else 0) ≤ 1 := by split <;> omega
  simp only [places, List.count_nil] at hn
  have hidle : p.idle.countP (·.conn = a.conn) = 0 := by omega
  have hleases : p.leases.countP (·.conn = a.conn) = 0 := by omega
  simp only [List.countP_eq_zero, decide_eq_true_eq] at hidle hleases
  exact ⟨hidle, hleases⟩

/-! ## The end of a probe -/

@[simp] theorem probing_wakeOne (p : Pool) : p.wakeOne.probing = p.probing := by rw [wakeOne_eq]

@[simp] theorem probing_giveBack (p : Pool) (c : Nat) (invalid : Bool) :
    (p.giveBack c invalid).probing = p.probing := by
  rw [giveBack, probing_wakeOne]
  split <;> rfl

@[simp] theorem probing_giveUpRoom (p : Pool) : p.giveUpRoom.probing = p.probing := by
  rw [giveUpRoom, probing_wakeOne]
  rfl

@[simp] theorem probing_evict (p : Pool) : p.evict.probing = p.probing := by
  simp only [evict]
  split <;> rfl

@[simp] theorem probing_shut (p : Pool) : p.shut.probing = p.probing := by
  unfold shut
  split <;> rfl

/-- Looking around ends no probe. -/
theorem mem_probing_look {p : Pool} {w : Waiter} {a : Probe} (ha : a ∈ p.probing) :
    a ∈ (p.look w).1.probing := by
  have hl := p.looked w
  generalize p.look w = out at hl
  cases hl with
  | probe => exact List.mem_append_left _ ha
  | _ => exact ha

theorem giveBack_of_invalid (p : Pool) (c : Nat) :
    p.giveBack c true = wakeOne { p.uncount 1 with torn := p.torn ++ [c] } := by
  simp [giveBack]

theorem idle_giveBack_of_invalid (p : Pool) (c : Nat) : (p.giveBack c true).idle = p.idle := by
  rw [giveBack_of_invalid, wakeOne_eq]
  rfl

theorem mem_torn_giveBack (p : Pool) (c : Nat) : c ∈ (p.giveBack c true).torn := by
  rw [giveBack_of_invalid, torn_wakeOne]
  exact List.mem_append_right _ List.mem_cons_self

/-- How a probe ends. Only where it fails does its acquire go on. -/
inductive ProbeEnds (p : Pool) (a : Probe) : Event → Pool × Move → Prop
  | passed {q : Pool} : ProbeEnds p a (.probed a.ticket) (q, .grant a.conn)
  | failed {out : Pool × Move} (torn : a.conn ∈ out.1.torn) :
      ProbeEnds p a (.probeFailed a.ticket) out
  | expired {q : Pool} (torn : a.conn ∈ q.torn) :
      ProbeEnds p a (.expire a.ticket) (q, .refuse .timeout)
  | abandoned {q : Pool} (torn : ¬ Slips a p (.abandon a.ticket) → a.conn ∈ q.torn) :
      ProbeEnds p a (.abandon a.ticket) (q, .rest)

/-- **A probe that is under way goes on at an event, or ends in one of these ways.** -/
theorem ends_event {p : Pool} {a : Probe} {e : Event} {out : Pool × Move} (ha : a ∈ p.probing)
    (hs : p.step? e = some out) : a ∈ out.1.probing ∨ ProbeEnds p a e out := by
  cases happens hs with
  | acquire | resume => exact .inl (mem_probing_look ha)
  | probed hx =>
    rcases (mem_of_extract? hx).1 ha with rfl | hrest
    · exact .inr .passed
    · exact .inl hrest
  | probeFailed hx =>
    rcases (mem_of_extract? hx).1 ha with rfl | hrest
    · refine .inr (.failed ?_)
      rw [torn_look]
      exact mem_torn_giveBack _ _
    · refine .inl (mem_probing_look ?_)
      rwa [probing_giveBack]
  | expireProbing due hx =>
    rcases (mem_of_extract? hx).1 ha with rfl | hrest
    · exact .inr (.expired (mem_torn_giveBack _ _))
    · rw [probing_giveBack]
      exact .inl hrest
  | @abandonProbing b rest hx =>
    rcases (mem_of_extract? hx).1 ha with rfl | hrest
    · refine .inr (.abandoned fun hslip => ?_)
      by_cases hb : p.closed || false || p.config.maxIdle ≤ p.idle.length
      · rw [giveBack, if_pos hb, torn_wakeOne]
        exact List.mem_append_right _ List.mem_cons_self
      · -- The pool is open and has room, so the connection slips.
        simp only [Bool.or_false, Bool.or_eq_true, decide_eq_true_eq, not_or, Bool.not_eq_true,
          Nat.not_le] at hb
        exact absurd ⟨ha, rfl, hb⟩ hslip
    · rw [probing_giveBack]
      exact .inl hrest
  | connectFailed | expireConnecting | abandonConnecting =>
    rw [probing_giveUpRoom]
    exact .inl ha
  | release =>
    rw [probing_giveBack]
    exact .inl ha
  | abandonAlone =>
    rw [probing_wakeOne]
    exact .inl ha
  | sweep =>
    rw [probing_evict]
    exact .inl ha
  | close =>
    rw [probing_shut]
    exact .inl ha
  | _ => exact .inl ha

/-- A probe goes on, or it has closed its connection, unless it passes or its connection slips. -/
theorem probe_event {p : Pool} {a : Probe} {e : Event} {out : Pool × Move} (ha : a ∈ p.probing)
    (hpass : ¬ Passes a p e) (hslip : ¬ Slips a p e) (hs : p.step? e = some out) :
    a ∈ out.1.probing ∨ a.conn ∈ out.1.torn := by
  rcases ends_event ha hs with hgoes | hends
  · exact .inl hgoes
  · cases hends with
    | passed => exact absurd ⟨ha, rfl⟩ hpass
    | failed torn | expired torn => exact .inr torn
    | abandoned torn => exact .inr (torn hslip)

/-- The ticket of a probe is used for nothing else. -/
theorem Sound.uses_of_probing {p : Pool} {a : Probe} (h : Sound p {}) (ha : a ∈ p.probing) :
    p.parked.countP (·.ticket = a.ticket) = 0 ∧ p.woken.countP (·.waiter.ticket = a.ticket) = 0 ∧
      p.probing.countP (·.ticket = a.ticket) = 1 ∧
      p.connecting.countP (·.ticket = a.ticket) = 0 := by
  have hn := h.named a.ticket
  have hp : 0 < p.probing.countP (·.ticket = a.ticket) :=
    List.countP_pos_iff.2 ⟨a, ha, decide_eq_true rfl⟩
  simp only [uses, List.count_nil] at hn
  refine ⟨?_, ?_, ?_, ?_⟩ <;> omega

/-- Abandoning an acquire in mid-probe gives its connection back unmarked. -/
theorem giveBack_of_abandon {p : Pool} {a : Probe} {e : Event} {out : Pool × Move}
    (h : Sound p {}) (ha : a ∈ p.probing) (he : e = .abandon a.ticket)
    (hs : p.step? e = some out) :
    ∃ rest, out.1 = giveBack { p with probing := rest } a.conn false := by
  obtain ⟨hparked, hwoken, hprobing, hconnecting⟩ := h.uses_of_probing ha
  -- The ticket stands among the probes and nowhere else, so the other ways are ruled out.
  have hp := happens hs
  cases hp with
  | abandonParked hx =>
    rw [countP_of_extract? hx, Event.abandon.inj he] at hparked
    simp at hparked
  | abandonAlone alone hx =>
    rw [countP_of_extract? hx, Event.abandon.inj he] at hwoken
    simp at hwoken
  | abandonTogether together hx =>
    rw [countP_of_extract? hx, Event.abandon.inj he] at hwoken
    simp at hwoken
  | abandonConnecting hx =>
    rw [countP_of_extract? hx, Event.abandon.inj he] at hconnecting
    simp at hconnecting
  | @abandonProbing b rest hx =>
    rcases (mem_of_extract? hx).1 ha with rfl | hrest
    · exact ⟨rest, rfl⟩
    · have hpos : 0 < rest.countP (·.ticket = a.ticket) :=
        List.countP_pos_iff.2 ⟨a, hrest, decide_eq_true rfl⟩
      rw [countP_of_extract? hx, Event.abandon.inj he] at hprobing
      simp only [decide_true, if_true] at hprobing
      omega
  | _ => cases he

/-- A connection that slips is idle again. -/
theorem mem_idle_of_slips {p : Pool} {a : Probe} {e : Event} {out : Pool × Move}
    (h : Sound p {}) (hslip : Slips a p e) (hs : p.step? e = some out) :
    ⟨a.conn, p.now⟩ ∈ out.1.idle := by
  obtain ⟨ha, he, hopen, hroom⟩ := hslip
  obtain ⟨rest, hout⟩ := giveBack_of_abandon h ha he hs
  have hkeep : ¬ (p.closed || false || p.config.maxIdle ≤ p.idle.length) = true := by
    simp [hopen, hroom]
  rw [hout, giveBack, if_neg hkeep, wakeOne_eq]
  exact List.mem_append_right _ List.mem_cons_self

/-! ## From the start of a probe on -/

theorem Sound.probe_run {allowed : Pool → Event → Prop} {p q : Pool} {a : Probe} (h : Sound p {})
    (ha : a ∈ p.probing) (hallowed : ∀ s e, allowed s e → ¬ Passes a s e ∧ ¬ Slips a s e)
    (run : Run allowed p q) : a ∈ q.probing ∨ a.conn ∈ q.torn := by
  have hevent : ∀ {s e out}, Sound s {} ∧ (a ∈ s.probing ∨ a.conn ∈ s.torn) → allowed s e →
      step? s e = some out → Sound out.1 {} ∧ (a ∈ out.1.probing ∨ a.conn ∈ out.1.torn) := by
    intro s e out hs he hstep
    obtain ⟨hpass, hslip⟩ := hallowed s e he
    refine ⟨hs.1.event hstep, ?_⟩
    rcases hs.2 with hprobing | htorn
    · exact probe_event hprobing hpass hslip hstep
    · exact .inr ((torn_event List.prefix_rfl hstep).subset htorn)
  exact (run.keeps hevent (fun _ hs => ⟨hs.1.retime _ _ _, hs.2⟩) ⟨h, .inl ha⟩).2

/-- **A probe that does not succeed closes its connection, unless its acquire is abandoned.** As
long as the probe has not passed and the connection has not slipped, it is neither idle nor leased,
and once the probe is over the connection is closed for good. An acquire that is abandoned in
mid-probe makes its connection idle wherever the pool is open and has room. -/
theorem unfinished_probe_closes_unless_abandoned {config : PoolConfig} {p : Pool} {a : Probe}
    (h : Reachable config p) (ha : a ∈ p.probing) :
    (∀ q, Run (fun s e => ¬ Passes a s e ∧ ¬ Slips a s e) p q →
      (∀ i ∈ q.idle, i.conn ≠ a.conn) ∧ (∀ l ∈ q.leases, l.conn ≠ a.conn) ∧
        (a ∉ q.probing → a.conn ∈ q.torn ∧ ∀ r, Reaches q r →
          (∀ i ∈ r.idle, i.conn ≠ a.conn) ∧ (∀ b ∈ r.probing, b.conn ≠ a.conn) ∧
            ∀ l ∈ r.leases, l.conn ≠ a.conn)) ∧
    (∀ q e out, Reaches p q → Slips a q e → q.step? e = some out →
      ⟨a.conn, q.now⟩ ∈ out.1.idle) := by
  have hp := sound_of_reachable h
  constructor
  · intro q run
    have hq := Sound.run run hp
    rcases hp.probe_run ha (fun _ _ hallowed => hallowed) run with hprobing | htorn
    · obtain ⟨hidle, hleases⟩ := hq.alone_of_probing hprobing
      exact ⟨hidle, hleases, fun hover => absurd hprobing hover⟩
    · obtain ⟨⟨hidle, hleases⟩, _⟩ := hq.alone_of_torn htorn
      refine ⟨hidle, hleases, fun _ => ⟨htorn, fun r later => ?_⟩⟩
      have hr := (Sound.run later hq).alone_of_torn ((torn_of_run later).subset htorn)
      exact ⟨hr.1.1, hr.2, hr.1.2⟩
  · intro q e out run hslip hs
    exact mem_idle_of_slips (Sound.run run hp) hslip hs

/-- One connection, opened and given back, and an acquire that probes it. -/
def probed : List Event := [.acquire 0 5000, .connected 0, .release 0, .acquire 1 5000]

/-- Limits under which one connection is opened and kept. -/
def keepsOne : PoolConfig := { maxOpen := 1, maxIdle := 1 }

/-- A probe under way: while it lasts its connection is in no use, and its acquire may slip. -/
theorem unfinished_probe_closes_unless_abandoned_once : ∃ p, Reachable keepsOne p ∧
    ⟨1, 0, 5000⟩ ∈ p.probing ∧ Slips ⟨1, 0, 5000⟩ p (.abandon 1) ∧ (∀ i ∈ p.idle, i.conn ≠ 0) ∧
    (∀ l ∈ p.leases, l.conn ≠ 0) ∧
    ∀ out, p.step? (.abandon 1) = some out → ⟨0, p.now⟩ ∈ out.1.idle := by
  let p : Pool := ((fresh keepsOne).after? probed).getD (fresh keepsOne)
  have run : after? (fresh keepsOne) probed = some p := rfl
  have h : Reachable keepsOne p := ⟨_, rfl, reaches_of_after? run⟩
  have ha : ⟨1, 0, 5000⟩ ∈ p.probing := List.mem_cons_self
  have hslip : Slips ⟨1, 0, 5000⟩ p (.abandon 1) := ⟨ha, rfl, rfl, Nat.one_pos⟩
  obtain ⟨closes, slips⟩ := unfinished_probe_closes_unless_abandoned h ha
  obtain ⟨hidle, hleases, _⟩ := closes p .start
  exact ⟨p, h, ha, hslip, hidle, hleases, fun out hs => slips p _ out .start hslip hs⟩

/-- A connection whose probe never came to an end is idle again, and then leased. -/
theorem abandoned_probe_is_reused : ∃ p q r, Reachable keepsOne p ∧ ⟨1, 0, 5000⟩ ∈ p.probing ∧
    p.after? [.abandon 1] = some q ∧ ⟨0, 0⟩ ∈ q.idle ∧
    q.after? [.acquire 2 5000, .probed 2] = some r ∧ ⟨2, 0, false⟩ ∈ r.leases ∧ r.torn = [] := by
  have run : after? (fresh keepsOne) probed = some _ := rfl
  exact ⟨_, _, _, ⟨_, rfl, reaches_of_after? run⟩, List.mem_cons_self, rfl, List.mem_cons_self,
    rfl, List.mem_cons_self, rfl⟩

end Pool
end ChainExplorer
