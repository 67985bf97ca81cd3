import ChainExplorer.Proofs.Pool.Deadline

/-!
# Closing

A pool is closed at one moment, and that moment does not reach those who are on their way: probes
and connects go on, leases are held until they are released, and who was parked has only been woken.
So closing is final because of what each of them finds afterwards. A closed pool has nobody parked
and nothing idle, and from there every event either leaves things as they are or takes something
away (`Dwindles`). Whoever looks around is refused, and whatever comes back is torn down
(`Declines`).

That those who were parked are told at once is a matter of the clock, which does not move while
somebody has been woken and has not looked around, and of turns, which are bound to come to each of
them.
-/

namespace ChainExplorer
namespace Pool

/-! ## The parts of events in a closed pool -/

section Closed

variable {p q r : Pool} {e : Event} {out : Pool × Move}

theorem look_of_closed (hc : p.closed = true) (w : Waiter) : p.look w = (p, .refuse .closed) := by
  rw [look, if_pos hc]

theorem shut_of_closed (hc : p.closed = true) : p.shut = p := by
  rw [shut, if_pos hc]

/-- A wake-up that nobody is parked for leaves a permit. -/
theorem wakeOne_of_unparked (hp : p.parked = []) : p.wakeOne = { p with permit := true } := by
  rw [wakeOne_eq, hp]
  simp

theorem giveBack_of_closed (hc : p.closed = true) (hp : p.parked = []) (c : Nat)
    (invalid : Bool) : p.giveBack c invalid
      = { p.uncount 1 with torn := p.torn ++ [c], permit := true } := by
  rw [giveBack, if_pos (by simp [hc])]
  exact wakeOne_of_unparked hp

theorem giveUpRoom_of_unparked (hp : p.parked = []) :
    p.giveUpRoom = { p.uncount 1 with permit := true } :=
  wakeOne_of_unparked (p := p.uncount 1) hp

/-! ## Nothing is begun -/

/-- The tickets of those who hold a connection, or room for one. -/
def holders (p : Pool) : List Nat :=
  p.probing.map (·.ticket) ++ p.connecting.map (·.ticket) ++ p.leases.map (·.ticket)

/-- On the way from a pool to a closed one nobody is woken, nothing is probed or opened anew, and
every lease is held by somebody who held a connection or room for one before. -/
structure Dwindles (p q : Pool) : Prop where
  closed : q.closed = true
  woken : q.woken.Sublist p.woken
  probing : q.probing.Sublist p.probing
  connecting : q.connecting.Sublist p.connecting
  leases : ∀ l ∈ q.leases, l.ticket ∈ p.holders
  opened : q.opened ≤ p.opened

theorem mem_holders {t : Nat} : t ∈ p.holders ↔ (∃ a ∈ p.probing, a.ticket = t) ∨
    (∃ w ∈ p.connecting, w.ticket = t) ∨ ∃ l ∈ p.leases, l.ticket = t := by
  simp only [holders, List.mem_append, List.mem_map, or_assoc]

theorem mem_holders_of_lease {l : Lease} (hl : l ∈ p.leases) : l.ticket ∈ p.holders :=
  mem_holders.2 (.inr (.inr ⟨l, hl, rfl⟩))

theorem Dwindles.refl (hc : p.closed = true) : Dwindles p p :=
  ⟨hc, .refl _, .refl _, .refl _, fun _ => mem_holders_of_lease, Nat.le_refl _⟩

theorem Dwindles.holders (h : Dwindles p q) : q.holders ⊆ p.holders := by
  intro t ht
  rcases mem_holders.1 ht with ⟨a, ha, rfl⟩ | ⟨w, hw, rfl⟩ | ⟨l, hl, rfl⟩
  · exact mem_holders.2 (.inl ⟨a, h.probing.subset ha, rfl⟩)
  · exact mem_holders.2 (.inr (.inl ⟨w, h.connecting.subset hw, rfl⟩))
  · exact h.leases l hl

theorem Dwindles.trans (hpq : Dwindles p q) (hqr : Dwindles q r) : Dwindles p r :=
  ⟨hqr.closed, hqr.woken.trans hpq.woken, hqr.probing.trans hpq.probing,
    hqr.connecting.trans hpq.connecting, fun l hl => hpq.holders (hqr.leases l hl),
    Nat.le_trans hqr.opened hpq.opened⟩

theorem Dwindles.retime (h : Dwindles p q) (now : Nat) : Dwindles p { q with now } :=
  ⟨h.closed, h.woken, h.probing, h.connecting, h.leases, h.opened⟩

theorem Dwindles.look (h : Dwindles p q) (w : Waiter) : Dwindles p (q.look w).1 := by
  rw [look_of_closed h.closed]
  exact h

theorem Dwindles.wakeOne (h : Dwindles p q) (hq : q.parked = []) : Dwindles p q.wakeOne := by
  rw [wakeOne_of_unparked hq]
  exact ⟨h.closed, h.woken, h.probing, h.connecting, h.leases, h.opened⟩

theorem Dwindles.giveUpRoom (h : Dwindles p q) (hq : q.parked = []) :
    Dwindles p q.giveUpRoom := by
  rw [giveUpRoom_of_unparked hq]
  exact ⟨h.closed, h.woken, h.probing, h.connecting, h.leases,
    Nat.le_trans (Nat.sub_le _ _) h.opened⟩

theorem Dwindles.giveBack (h : Dwindles p q) (hq : q.parked = []) (c : Nat) (invalid : Bool) :
    Dwindles p (q.giveBack c invalid) := by
  rw [giveBack_of_closed h.closed hq]
  exact ⟨h.closed, h.woken, h.probing, h.connecting, h.leases,
    Nat.le_trans (Nat.sub_le _ _) h.opened⟩

section Taken

variable (hc : p.closed = true)
include hc

theorem dwindles_takeWoken {f : Woken → Bool} {v : Woken} {rest : List Woken}
    (hx : extract? f p.woken = some (v, rest)) : Dwindles p { p with woken := rest } :=
  ⟨hc, sublist_of_extract? hx, .refl _, .refl _, fun _ hl => mem_holders_of_lease hl,
    Nat.le_refl _⟩

theorem dwindles_takeProbing {f : Probe → Bool} {a : Probe} {rest : List Probe}
    (hx : extract? f p.probing = some (a, rest)) : Dwindles p { p with probing := rest } :=
  ⟨hc, .refl _, sublist_of_extract? hx, .refl _, fun _ hl => mem_holders_of_lease hl,
    Nat.le_refl _⟩

theorem dwindles_takeConnecting {f : Waiter → Bool} {w : Waiter} {rest : List Waiter}
    (hx : extract? f p.connecting = some (w, rest)) (failure : Option (Nat × String))
    (nextConn : Nat) : Dwindles p { p with connecting := rest, failure, nextConn } :=
  ⟨hc, .refl _, .refl _, sublist_of_extract? hx, fun _ hl => mem_holders_of_lease hl,
    Nat.le_refl _⟩

theorem dwindles_takeLease {f : Lease → Bool} {l : Lease} {rest : List Lease}
    (hx : extract? f p.leases = some (l, rest)) : Dwindles p { p with leases := rest } :=
  ⟨hc, .refl _, .refl _, .refl _,
    fun _ hk => mem_holders_of_lease ((sublist_of_extract? hx).subset hk), Nat.le_refl _⟩

end Taken

/-- A lease goes to whoever held its connection, or room for it. -/
theorem Dwindles.lease (h : Dwindles p q) {l : Lease} (hl : l.ticket ∈ p.holders) :
    Dwindles p { q with leases := q.leases ++ [l] } := by
  refine ⟨h.closed, h.woken, h.probing, h.connecting, fun k hk => ?_, h.opened⟩
  rcases List.mem_append.1 hk with hold | hnew
  · exact h.leases k hold
  · rwa [List.mem_singleton.1 hnew]

/-- **An event in a closed pool begins nothing.** -/
theorem Sound.dwindles_event (h : Sound p {}) (hc : p.closed = true)
    (hs : p.step? e = some out) : Dwindles p out.1 := by
  -- Nobody is parked, so nobody is woken by what comes back.
  obtain ⟨-, hp⟩ := h.drained hc
  cases happens hs with
  | acquire => exact (Dwindles.refl hc).look _
  | resume hx => exact (dwindles_takeWoken hc hx).look _
  | @probed a rest hx =>
    have ha : a ∈ p.probing := (mem_of_extract? hx).2 (.inl rfl)
    exact (dwindles_takeProbing hc hx).lease (mem_holders.2 (.inl ⟨a, ha, rfl⟩))
  | probeFailed hx => exact ((dwindles_takeProbing hc hx).giveBack hp _ true).look _
  | @connected w rest hx =>
    have hw : w ∈ p.connecting := (mem_of_extract? hx).2 (.inl rfl)
    exact (dwindles_takeConnecting hc hx none _).lease (mem_holders.2 (.inr (.inl ⟨w, hw, rfl⟩)))
  | connectFailed error hx => exact (dwindles_takeConnecting hc hx _ _).giveUpRoom hp
  | expireParked due hx | abandonParked hx =>
    rw [hp] at hx
    cases hx
  | expireProbing due hx => exact (dwindles_takeProbing hc hx).giveBack hp _ true
  | abandonProbing hx => exact (dwindles_takeProbing hc hx).giveBack hp _ false
  | expireConnecting due hx | abandonConnecting hx =>
    exact (dwindles_takeConnecting hc hx _ _).giveUpRoom hp
  | abandonAlone alone hx => exact (dwindles_takeWoken hc hx).wakeOne hp
  | abandonTogether together hx => exact dwindles_takeWoken hc hx
  | @invalidate l rest hx =>
    have hl : l ∈ p.leases := (mem_of_extract? hx).2 (.inl rfl)
    exact (dwindles_takeLease hc hx).lease (mem_holders.2 (.inr (.inr ⟨l, hl, rfl⟩)))
  | release hx => exact (dwindles_takeLease hc hx).giveBack hp _ _
  | sweep hopen due =>
    rw [hc] at hopen
    cases hopen
  | close =>
    rw [shut_of_closed hc]
    exact .refl hc
  | advance may => exact (Dwindles.refl hc).retime _

/-- From where a pool is closed, nothing is begun any more. -/
theorem Sound.dwindles_run {ms : Moments} (h : Sound p {}) (hc : p.closed = true)
    (run : Traced p ms q) : Sound q {} ∧ Dwindles p q := by
  refine run.keeps (I := fun _ q => Sound q {} ∧ Dwindles p q) ⟨h, .refl hc⟩ ?_ ?_
  · rintro ms m ⟨hsound, hless⟩ hs
    exact ⟨hsound.event hs, hless.trans (hsound.dwindles_event hless.closed hs)⟩
  · rintro ms q r ⟨hsound, hless⟩ ⟨time, _, rfl⟩
    exact ⟨hsound.retime _ _ _, hless.retime _⟩

/-- What a closed pool has open is what is held, and what is still being opened. -/
theorem Sound.opened_of_closed (h : Sound p {}) (hc : p.closed = true) :
    p.opened = p.leased.length + p.connecting.length := by
  have hcount := h.count
  rw [(h.drained hc).1] at hcount
  simp only [leased, List.length_append, List.length_map, List.length_nil] at hcount ⊢
  omega

theorem closed_shut (p : Pool) : p.shut.closed = true := by
  unfold shut
  split
  · assumption
  · rfl

theorem holders_shut (p : Pool) : p.shut.holders = p.holders := by
  have hsame := untouched_shut p
  rw [holders, hsame.probing, hsame.connecting, hsame.leases]
  rfl

/-! ## Nobody is served -/

/-- What a closed pool does at a moment: whoever looks around is refused, no connect and no probe is
started, what comes back is torn down, and to close it once more changes nothing. -/
structure Declines (m : Moment Pool Event Move) : Prop where
  acquire : ∀ t d, m.event = .acquire t d → m.output = .refuse .closed ∧ m.after = m.before
  looks : ∀ t, m.event = .resume t ∨ m.event = .probeFailed t → m.output = .refuse .closed
  starts : m.output ≠ .connect ∧ m.output ≠ .park ∧ ∀ c, m.output ≠ .probe c
  release : ∀ t, m.event = .release t → ∃ l ∈ m.before.leases, l.ticket = t ∧
    m.after.torn = m.before.torn ++ [l.conn] ∧ m.after.opened + 1 = m.before.opened
  close : m.event = .close → m.after = m.before

theorem refuse_of_look (h : Dwindles p q) (w : Waiter) : (q.look w).2 = .refuse .closed := by
  rw [look_of_closed h.closed]

theorem refused_of_acquire {t d : Nat} (hc : p.closed = true)
    (hs : p.step? (.acquire t d) = some out) : out = (p, .refuse .closed) := by
  cases happens hs with
  | acquire new => exact look_of_closed hc _

theorem eq_of_close (hs : p.step? .close = some out) : out = (p.shut, .rest) := by
  cases happens hs with
  | close => rfl

theorem Sound.refuse_of_looks {t : Nat} (h : Sound p {}) (hc : p.closed = true)
    (hs : p.step? e = some out) (he : e = .resume t ∨ e = .probeFailed t) :
    out.2 = .refuse .closed := by
  obtain ⟨-, hp⟩ := h.drained hc
  cases happens hs with
  | resume hx => exact refuse_of_look (dwindles_takeWoken hc hx) _
  | probeFailed hx => exact refuse_of_look ((dwindles_takeProbing hc hx).giveBack hp _ true) _
  | _ => rcases he with he | he <;> cases he

theorem Sound.starts_nothing (h : Sound p {}) (hc : p.closed = true)
    (hs : p.step? e = some out) :
    out.2 ≠ .connect ∧ out.2 ≠ .park ∧ ∀ c, out.2 ≠ .probe c := by
  have hrefused : out.2 = .refuse .closed →
      out.2 ≠ .connect ∧ out.2 ≠ .park ∧ ∀ c, out.2 ≠ .probe c := by
    intro hout
    rw [hout]
    exact ⟨nofun, nofun, nofun⟩
  cases happens hs with
  | acquire => exact hrefused (refuse_of_look (.refl hc) _)
  | resume => exact hrefused (h.refuse_of_looks hc hs (.inl rfl))
  | probeFailed => exact hrefused (h.refuse_of_looks hc hs (.inr rfl))
  | _ => exact ⟨nofun, nofun, nofun⟩

theorem Sound.torn_of_release {t : Nat} (h : Sound p {}) (hc : p.closed = true)
    (hs : p.step? (.release t) = some out) : ∃ l ∈ p.leases, l.ticket = t ∧
      out.1.torn = p.torn ++ [l.conn] ∧ out.1.opened + 1 = p.opened := by
  obtain ⟨-, hp⟩ := h.drained hc
  cases happens hs with
  | @release l rest hx =>
    have hback := giveBack_of_closed (p := { p with leases := rest }) hc hp l.conn l.invalid
    refine ⟨l, (mem_of_extract? hx).2 (.inl rfl), rfl, congrArg torn hback, ?_⟩
    have hcount := h.count
    have hlength := length_of_extract? hx
    have hless : (Pool.giveBack { p with leases := rest } l.conn l.invalid).opened = p.opened - 1 :=
      congrArg Pool.opened hback
    show (Pool.giveBack { p with leases := rest } l.conn l.invalid).opened + 1 = p.opened
    omega

theorem Sound.declines {m : Moment Pool Event Move} (h : Sound m.before {})
    (hc : m.before.closed = true) (hs : m.before.step? m.event = some (m.after, m.output)) :
    Declines m := by
  refine ⟨fun t d he => ?_, fun t he => h.refuse_of_looks hc hs he, h.starts_nothing hc hs,
    fun t he => ?_, fun he => ?_⟩
  · rw [he] at hs
    obtain ⟨hafter, hout⟩ := Prod.mk.inj (refused_of_acquire hc hs)
    exact ⟨hout, hafter⟩
  · rw [he] at hs
    exact h.torn_of_release hc hs
  · rw [he] at hs
    exact (Prod.mk.inj (eq_of_close hs)).1.trans (shut_of_closed hc)

/-! ## Those who were parked -/

theorem woken_wakeOne (p : Pool) : p.woken ⊆ p.wakeOne.woken := by
  rw [wakeOne_eq]
  exact List.subset_append_left _ _

theorem woken_giveBack (p : Pool) (c : Nat) (invalid : Bool) :
    p.woken ⊆ (p.giveBack c invalid).woken := by
  intro v hv
  unfold giveBack
  split <;> exact woken_wakeOne _ hv

theorem woken_look (p : Pool) (w : Waiter) : p.woken ⊆ (p.look w).1.woken := by
  have hl := p.looked w
  generalize p.look w = out at hl
  cases hl <;> exact List.Subset.refl _

theorem woken_evict (p : Pool) : p.woken ⊆ p.evict.woken := by
  simp only [evict]
  split
  · exact List.Subset.refl _
  · exact List.subset_append_left _ _

theorem Sound.woken_shut (h : Sound p {}) :
    p.woken ⊆ p.shut.woken ∧ ∀ w ∈ p.parked, ⟨w, .together⟩ ∈ p.shut.woken := by
  by_cases hc : p.closed = true
  · rw [shut_of_closed hc, (h.drained hc).2]
    exact ⟨List.Subset.refl _, nofun⟩
  · rw [Pool.shut, if_neg hc]
    exact ⟨List.subset_append_left _ _,
      fun w hw => List.mem_append_right _ (List.mem_map_of_mem hw)⟩

/-- Whoever has been woken stays so until it looks around, or nobody waits for it any more. -/
theorem Sound.woken_event {v : Woken} (h : Sound p {}) (hs : p.step? e = some out)
    (hv : v ∈ p.woken) : v ∈ out.1.woken ∨
      e = .resume v.waiter.ticket ∨ e = .abandon v.waiter.ticket := by
  cases happens hs with
  | acquire => exact .inl (woken_look _ _ hv)
  | resume hx =>
    rcases (mem_of_extract? hx).1 hv with rfl | hrest
    · exact .inr (.inl rfl)
    · exact .inl (woken_look _ _ hrest)
  | abandonAlone alone hx =>
    rcases (mem_of_extract? hx).1 hv with rfl | hrest
    · exact .inr (.inr rfl)
    · exact .inl (woken_wakeOne _ hrest)
  | abandonTogether together hx =>
    rcases (mem_of_extract? hx).1 hv with rfl | hrest
    · exact .inr (.inr rfl)
    · exact .inl hrest
  | @probeFailed a rest hx =>
    have hback := woken_giveBack { p with probing := rest } a.conn true hv
    exact .inl (woken_look _ _ hback)
  | @connectFailed w rest error hx =>
    exact .inl (woken_wakeOne
      (uncount { p with connecting := rest, failure := some (p.now, error.message) } 1) hv)
  | @expireConnecting w rest due hx =>
    exact .inl (woken_wakeOne (uncount { p with connecting := rest } 1) hv)
  | @abandonConnecting w rest hx =>
    exact .inl (woken_wakeOne (uncount { p with connecting := rest } 1) hv)
  | @expireProbing a rest due hx =>
    exact .inl (woken_giveBack { p with probing := rest } a.conn true hv)
  | @abandonProbing a rest hx =>
    exact .inl (woken_giveBack { p with probing := rest } a.conn false hv)
  | @release l rest hx =>
    exact .inl (woken_giveBack { p with leases := rest } l.conn l.invalid hv)
  | sweep =>
    exact .inl (woken_evict { p with nextSweep := p.nextSweep + p.config.evictionInterval } hv)
  | close => exact .inl (h.woken_shut.1 hv)
  | _ => exact .inl hv

/-- One that was woken leaves at a moment: it is told that the pool is closed, or nobody waits for
it any more. -/
def Leaves (v : Woken) (m : Moment Pool Event Move) : Prop :=
  v ∈ m.before.woken ∧
    (m.event = .resume v.waiter.ticket ∧ m.output = .refuse .closed ∨
      m.event = .abandon v.waiter.ticket)

section Woken

variable {ms : Moments} {v : Woken}

theorem Sound.leaves_of_run (h : Sound p {}) (hc : p.closed = true) (hv : v ∈ p.woken)
    (run : Traced p ms q) : v ∈ q.woken ∨ ∃ n ∈ ms, Leaves v n := by
  have hall := run.keeps (I := fun ms q => (Sound q {} ∧ q.closed = true) ∧
    (v ∈ q.woken ∨ ∃ n ∈ ms, Leaves v n)) ⟨⟨h, hc⟩, .inl hv⟩ ?_ ?_
  · exact hall.2
  · rintro ms m ⟨⟨hsound, hclosed⟩, hwoken | ⟨n, hn, hleaves⟩⟩ hs
    · refine ⟨⟨hsound.event hs, (hsound.dwindles_event hclosed hs).closed⟩, ?_⟩
      have hdeclines := hsound.declines hclosed hs
      rcases hsound.woken_event hs hwoken with hstill | hresume | habandon
      · exact .inl hstill
      · exact .inr ⟨m, List.mem_append_right _ List.mem_cons_self, hwoken,
          .inl ⟨hresume, hdeclines.looks _ (.inl hresume)⟩⟩
      · exact .inr ⟨m, List.mem_append_right _ List.mem_cons_self, hwoken, .inr habandon⟩
    · exact ⟨⟨hsound.event hs, (hsound.dwindles_event hclosed hs).closed⟩,
        .inr ⟨n, List.mem_append_left _ hn, hleaves⟩⟩
  · rintro ms q r ⟨⟨hsound, hclosed⟩, hrest⟩ ⟨time, _, rfl⟩
    exact ⟨⟨hsound.retime _ _ _, hclosed⟩, hrest⟩

theorem now_event_of_woken (hs : p.step? e = some out) (hv : v ∈ p.woken) :
    out.1.now = p.now := by
  rw [(memory_event hs).1]
  cases happens hs with
  | advance may =>
    simp only [mayAdvance, Bool.and_eq_true, List.isEmpty_iff] at may
    rw [may.1.1.2] at hv
    cases hv
  | _ => rfl

theorem traced_of_onClock (run : OnClock p ms q) : Traced p ms q :=
  run.keeps (I := fun ms q => Traced p ms q) .start .moment fun _ hdrift => hdrift.elim

/-- On a clock that waits, no time has passed while one is still to look around that was woken
before the pool was closed. -/
theorem Sound.now_of_woken (h : Sound p {}) (hc : p.closed = true) (run : OnClock p ms q)
    (hv : v ∈ q.woken) : q.now = p.now := by
  have hall := run.keeps (I := fun _ q => (Sound q {} ∧ q.closed = true) ∧
    (v ∈ q.woken → q.now = p.now)) ⟨⟨h, hc⟩, fun _ => rfl⟩ ?_ fun _ hdrift => hdrift.elim
  · exact hall.2 hv
  · rintro ms m ⟨⟨hsound, hclosed⟩, ih⟩ hs
    -- Nobody is woken in a closed pool, so it was there before this moment too.
    have hless := hsound.dwindles_event hclosed hs
    refine ⟨⟨hsound.event hs, hless.closed⟩, fun hafter => ?_⟩
    have hbefore := hless.woken.subset hafter
    exact (now_event_of_woken hs hbefore).trans (ih hbefore)

theorem Sound.now_of_leaves (h : Sound p {}) (hc : p.closed = true) (run : OnClock p ms q)
    {n : Moment Pool Event Move} (hn : n ∈ ms) (hleaves : Leaves v n) :
    n.before.now = p.now ∧ n.after.now = p.now := by
  obtain ⟨earlier, later, rfl⟩ := List.append_of_mem hn
  obtain ⟨first, hs, -⟩ := run.cut
  have hbefore := h.now_of_woken hc first hleaves.1
  exact ⟨hbefore, (now_event_of_woken hs hleaves.1).trans hbefore⟩

/-- A run goes on by a turn. -/
def TurnOn (s t : Moments × Pool) : Prop :=
  ∃ e out, e.isTurn = true ∧ s.2.step? e = some out ∧
    t = (s.1 ++ [⟨s.2, e, out.2, out.1⟩], out.1)

/-- One that was woken has been told that the pool is closed, at this time. -/
def Told (v : Woken) (time : Nat) (ms : Moments) : Prop :=
  ∃ n ∈ ms, v ∈ n.before.woken ∧ n.event = .resume v.waiter.ticket ∧
    n.output = .refuse .closed ∧ n.after.now = time

/-- Its turn comes before any time has passed, whoever else has a turn before. -/
theorem Sound.told_inevitable (h : Sound p {}) (hc : p.closed = true) (hv : v ∈ p.woken) :
    Inevitable TurnOn (fun s => Told v p.now s.1) ([], p) := by
  refine Inevitable.of_rank Nat.lt_wfRel.wf (fun s => s.2.potential)
    (I := fun s => OnClock p s.1 s.2 ∧ ∀ n ∈ s.1, n.event.isTurn = true) ?_ ?_
    ⟨.start, fun n hn => absurd hn List.not_mem_nil⟩
  · rintro s ⟨run, hturns⟩
    -- It has not left by being abandoned, because that is not a turn.
    rcases h.leaves_of_run hc hv (traced_of_onClock run) with
      hwoken | ⟨n, hn, hbefore, ⟨hevent, hout⟩ | habandon⟩
    · right
      have hrest : ¬ s.2.AtRest := by
        intro hrest
        rw [(atRest_iff.1 hrest).1] at hwoken
        cases hwoken
      obtain ⟨q, e, out, hturn, hs, -⟩ := turn_of_not_atRest hrest
      exact ⟨_, e, out, hturn, hs, rfl⟩
    · left
      have hnow := h.now_of_leaves hc run hn ⟨hbefore, .inl ⟨hevent, hout⟩⟩
      exact ⟨n, hn, hbefore, hevent, hout, hnow.2⟩
    · have hturn := hturns n hn
      rw [habandon] at hturn
      cases hturn
  · rintro s t ⟨run, hturns⟩ ⟨e, out, hturn, hs, rfl⟩
    have hmoment : OnClock p (s.1 ++ [⟨s.2, e, out.2, out.1⟩]) out.1 :=
      .moment (m := ⟨s.2, e, out.2, out.1⟩) run hs
    refine ⟨⟨hmoment, ?_⟩, (Turn.lowers ⟨e, out, hturn, hs, rfl⟩).1⟩
    exact List.forall_mem_append.2 ⟨hturns, List.forall_mem_singleton.2 hturn⟩

end Woken

end Closed

/-! ## The result -/

/-- **To close a pool is final, and drains it.** In every run after a close, however often the pool is
closed again:

* nothing is idle and nobody is parked, and what is open is what is held, by leases and probes, and
  what is still being opened; so it is nothing once these have ended;
* every later moment declines and only takes something away, and every lease there is belongs to
  somebody who held a connection, or room for one, when the pool was closed;
* whoever was parked has been woken, and whoever has been woken leaves only by being told, or when
  nobody waits for it any more; on a clock that waits it does so before any time has passed, and its
  turn is bound to come. -/
theorem close_is_final {config : PoolConfig} {new q : Pool} {earlier later : Moments}
    {m : Moment Pool Event Move} (hnew : ofConfig config = .ok new)
    (run : Traced new (earlier ++ m :: later) q) (hclose : m.event = .close) :
    ((q.closed = true ∧ q.idle = [] ∧ q.parked = []) ∧
      q.opened = q.leased.length + q.connecting.length ∧
      (q.opened = 0 ↔ q.leased = [] ∧ q.connecting = [])) ∧
    (∀ n ∈ later, Declines n ∧ Dwindles n.before n.after) ∧
    (q.opened ≤ m.after.opened ∧ ∀ l ∈ q.leases, l.ticket ∈ m.before.holders) ∧
    (∀ w ∈ m.before.parked, ⟨w, .together⟩ ∈ m.after.woken) ∧
    ∀ v ∈ m.after.woken,
      (v ∈ q.woken ∨ ∃ n ∈ later, Leaves v n) ∧
      (OnClock m.after later q → (v ∈ q.woken → q.now = m.after.now) ∧
        ∀ n ∈ later, Leaves v n → n.before.now = m.after.now ∧ n.after.now = m.after.now) ∧
      Inevitable TurnOn (fun s => Told v m.after.now s.1) ([], m.after) := by
  obtain ⟨rfl, _⟩ := ofConfig_eq_ok hnew
  obtain ⟨first, hs, rest⟩ := run.cut
  have hbefore := sound_of_traced first
  have hafter : Sound m.after {} := hbefore.event hs
  have hshut : m.after = m.before.shut := by
    rw [hclose] at hs
    exact (Prod.mk.inj (eq_of_close hs)).1
  have hclosed : m.after.closed = true := by
    rw [hshut]
    exact closed_shut _
  obtain ⟨hsound, hless⟩ := hafter.dwindles_run hclosed rest
  obtain ⟨hidle, hparked⟩ := hsound.drained hless.closed
  have hopened := hsound.opened_of_closed hless.closed
  refine ⟨⟨⟨hless.closed, hidle, hparked⟩, hopened, ?_⟩, fun n hn => ?_, ⟨hless.opened, ?_⟩, ?_,
    fun v hv => ⟨hafter.leaves_of_run hclosed hv rest, fun onClock => ?_,
      hafter.told_inevitable hclosed hv⟩⟩
  · rw [hopened, Nat.add_eq_zero_iff, List.length_eq_zero_iff, List.length_eq_zero_iff]
  · obtain ⟨front, back, rfl⟩ := List.append_of_mem hn
    obtain ⟨upto, hstep, -⟩ := rest.cut
    obtain ⟨hthen, hsofar⟩ := hafter.dwindles_run hclosed upto
    exact ⟨hthen.declines hsofar.closed hstep, hthen.dwindles_event hsofar.closed hstep⟩
  · intro l hl
    have hholds := hless.leases l hl
    rwa [hshut, holders_shut] at hholds
  · rw [hshut]
    exact hbefore.woken_shut.2
  · exact ⟨hafter.now_of_woken hclosed onClock,
      fun n hn hleaves => hafter.now_of_leaves hclosed onClock hn hleaves⟩

/-- Room for three connections. -/
def triple : PoolConfig := { maxOpen := 3 }

/-- One connection is leased, one under probe, one being opened, and one acquire is parked. The pool
is closed. Another acquire begins, the parked one looks around, probe and connect end well, and all
leases are released. At last the pool is closed again. -/
def closing : List Event :=
  [.acquire 0 9, .connected 0, .acquire 1 9, .connected 1, .release 1, .acquire 2 9, .acquire 3 9,
    .acquire 4 9, .close, .acquire 5 9, .resume 4, .probed 2, .connected 3, .release 2, .release 3,
    .release 0, .close]

/-- The moments of that run, and the pool after it. -/
def wound : Moments × Pool :=
  (Trace.retrace? step? (fresh triple) closing).getD ([], fresh triple)

/-- The moment at which that pool is closed. -/
def shutting : Moment Pool Event Move :=
  let p := ((fresh triple).after? (closing.take 8)).getD (fresh triple)
  ⟨p, .close, .rest, p.shut⟩

/-- Three connections are held at the close, and nothing is open in the end. The parked acquire has
been told at the time of the close, and was bound to be. -/
theorem close_is_final_closing :
    wound.1 = wound.1.take 8 ++ shutting :: wound.1.drop 9 ∧
    shutting.before.parked = [⟨4, 9⟩] ∧ shutting.before.holders = [2, 3, 0] ∧
    (wound.2.opened = 0 ∧ wound.2.torn = [1, 2, 0]) ∧
    (∀ n ∈ wound.1.drop 9, Declines n ∧ Dwindles n.before n.after) ∧
    (∃ n ∈ wound.1.drop 9, Leaves ⟨⟨4, 9⟩, .together⟩ n ∧ n.after.now = 0) ∧
    Inevitable TurnOn (fun s => Told ⟨⟨4, 9⟩, .together⟩ 0 s.1) ([], shutting.after) := by
  have hnew : ofConfig triple = .ok (fresh triple) := rfl
  have retraced : Trace.retrace? step? (fresh triple) closing
      = some (wound.1.take 8 ++ shutting :: wound.1.drop 9, wound.2) := rfl
  have onClock : OnClock (fresh triple) (wound.1.take 8 ++ shutting :: wound.1.drop 9) wound.2 :=
    Trace.of_retrace? retraced
  obtain ⟨⟨-, -, hempty⟩, hlater, -, hparked, hwoken⟩ :=
    close_is_final hnew (traced_of_onClock onClock) rfl
  obtain ⟨hgone, htime, hbound⟩ := hwoken ⟨⟨4, 9⟩, .together⟩ (hparked ⟨4, 9⟩ (by decide))
  have hended : wound.2.leased = [] ∧ wound.2.connecting = [] := ⟨rfl, rfl⟩
  obtain ⟨-, -, rest⟩ := onClock.cut
  refine ⟨rfl, rfl, rfl, ⟨hempty.2 hended, rfl⟩, hlater, ?_, hbound⟩
  rcases hgone with hstill | ⟨n, hn, hleaves⟩
  · have hnobody : wound.2.woken = [] := rfl
    rw [hnobody] at hstill
    cases hstill
  · exact ⟨n, hn, hleaves, ((htime rest).2 n hn hleaves).2⟩

end Pool
end ChainExplorer
