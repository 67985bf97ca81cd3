import ChainExplorer.Proofs.Pool.Backoff

/-!
# The idle list is in the order of return

Nothing sorts the idle connections. Whatever comes back is put behind the others, whoever looks
around takes from behind, and a sweep takes what is too old out of wherever it stands. That is
enough for the list to be in the order in which its connections came back, in time (`InOrder`) and
among those of one instant as well (`Outwaits`).

Two things follow. Whoever looks around takes the connection that came back last, and gets to
another one only after the probe of the first has failed and closed it (`Sound.failed_between`). And
what is too old stands in front, so a sweep closes a front of the list and keeps the rest as it is
(`Sound.sweeps`).
-/

namespace ChainExplorer
namespace Pool

/-! ## What an event does to the idle list -/

theorem idle_wakeOne (p : Pool) : p.wakeOne.idle = p.idle := by rw [wakeOne_eq]

theorem idle_look (p : Pool) (w : Waiter) : (p.look w).1.idle.Sublist p.idle := by
  have hl := p.looked w
  generalize p.look w = out at hl
  cases hl with
  | probe hc hi =>
    rw [hi]
    exact List.sublist_append_left _ _
  | _ => exact .refl _

theorem idle_evict (p : Pool) : p.evict.idle.Sublist p.idle := by
  simp only [evict]
  split <;> exact (List.drop_sublist _ _).trans List.filter_sublist

theorem idle_shut (p : Pool) : p.shut.idle.Sublist p.idle := by
  unfold shut
  split
  · exact .refl _
  · exact List.nil_sublist _

/-- Some idle connections are gone, or one stands behind the others that has just come back. -/
def Stirs (p q : Pool) : Prop :=
  q.idle.Sublist p.idle ∨ q.now = p.now ∧ ∃ c, q.idle = p.idle ++ [⟨c, p.now⟩]

theorem stirs_of_eq {p q : Pool} (h : q.idle = p.idle) : Stirs p q := .inl (h ▸ .refl _)

theorem stirs_giveBack (p : Pool) (c : Nat) (invalid : Bool) : Stirs p (p.giveBack c invalid) := by
  have hnow := (remembers_giveBack (p := p) c invalid).now
  by_cases hb : p.closed || invalid || p.config.maxIdle ≤ p.idle.length
  · refine stirs_of_eq ?_
    rw [giveBack, if_pos hb, idle_wakeOne]
    rfl
  · refine .inr ⟨hnow, c, ?_⟩
    rw [giveBack, if_neg hb, idle_wakeOne]

/-- **An event takes idle connections away, or puts one behind the others.** -/
theorem stirs_event {p : Pool} {e : Event} {out : Pool × Move} (hs : p.step? e = some out) :
    Stirs p out.1 := by
  cases happens hs with
  | acquire | resume => exact .inl (idle_look _ _)
  | @probeFailed a rest hx =>
    have hlook := idle_look (giveBack { p with probing := rest } a.conn true) ⟨a.ticket, a.deadline⟩
    rw [idle_giveBack_of_invalid] at hlook
    exact .inl hlook
  | expireProbing due hx => exact stirs_of_eq (idle_giveBack_of_invalid _ _)
  | connectFailed | expireConnecting | abandonConnecting => exact stirs_of_eq (idle_wakeOne _)
  | abandonAlone => exact stirs_of_eq (idle_wakeOne _)
  | @abandonProbing a rest hx => exact stirs_giveBack { p with probing := rest } a.conn false
  | @release l rest hx => exact stirs_giveBack { p with leases := rest } l.conn l.invalid
  | sweep hc due => exact .inl (idle_evict _)
  | close => exact .inl (idle_shut p)
  | _ => exact stirs_of_eq rfl

/-! ## The order -/

/-- The idle list is in the order of time, and all of it in the past. -/
structure InOrder (p : Pool) : Prop where
  sorted : p.idle.Pairwise (·.since ≤ ·.since)
  past : ∀ i ∈ p.idle, i.since ≤ p.now

theorem InOrder.event {p : Pool} {e : Event} {out : Pool × Move} (h : InOrder p)
    (hs : p.step? e = some out) : InOrder out.1 := by
  rcases stirs_event hs with hsub | ⟨hnow, c, hput⟩
  · exact ⟨h.sorted.sublist hsub,
      fun i hi => Nat.le_trans (h.past i (hsub.subset hi)) (now_le_event hs)⟩
  · constructor
    · rw [hput, List.pairwise_append]
      refine ⟨h.sorted, List.pairwise_singleton _ _, fun i hi j hj => ?_⟩
      obtain rfl := List.mem_singleton.1 hj
      exact h.past i hi
    · rw [hput, hnow]
      exact List.forall_mem_append.2 ⟨h.past, List.forall_mem_singleton.2 (Nat.le_refl _)⟩

theorem inOrder_of_traced {config : PoolConfig} {ms : Moments} {q : Pool}
    (run : Traced (fresh config) ms q) : InOrder q := by
  refine run.keeps (I := fun _ q => InOrder q) ?_ (fun h hs => h.event hs) ?_
  · exact ⟨.nil, fun i hi => nomatch hi⟩
  · rintro ms q r h ⟨time, hle, rfl⟩
    exact ⟨h.sorted, fun i hi => Nat.le_trans (h.past i hi) hle⟩

/-- The one was idle when the other came back, and both have been idle ever since. -/
def Outwaits (ms : Moments) (i j : Idle) : Prop :=
  ∃ earlier m later, ms = earlier ++ m :: later ∧ i ∈ m.before.idle ∧
    m.after.idle = m.before.idle ++ [j] ∧ ∀ n ∈ later, i ∈ n.after.idle ∧ j ∈ n.after.idle

theorem Outwaits.concat {ms : Moments} {m : Moment Pool Event Move} {i j : Idle}
    (h : Outwaits ms i j) (hi : i ∈ m.after.idle) (hj : j ∈ m.after.idle) :
    Outwaits (ms ++ [m]) i j := by
  obtain ⟨earlier, first, later, rfl, hbefore, hput, hkept⟩ := h
  refine ⟨earlier, first, later ++ [m], by simp, hbefore, hput, ?_⟩
  exact List.forall_mem_append.2 ⟨hkept, List.forall_mem_singleton.2 ⟨hi, hj⟩⟩

/-- **Idle connections stand in the order in which they came back for the last time.** -/
theorem outwaits_of_traced {config : PoolConfig} {ms : Moments} {q : Pool}
    (run : Traced (fresh config) ms q) : q.idle.Pairwise (Outwaits ms) := by
  refine run.keeps (I := fun ms q => q.idle.Pairwise (Outwaits ms)) .nil ?_ ?_
  · intro ms m ih hs
    rcases stirs_event hs with hsub | ⟨-, c, hput⟩
    · exact (ih.sublist hsub).imp_of_mem fun hi hj h => h.concat hi hj
    · have hput : m.after.idle = m.before.idle ++ [⟨c, m.before.now⟩] := hput
      have hold : ∀ {i}, i ∈ m.before.idle → i ∈ m.after.idle := fun hi =>
        hput ▸ List.mem_append_left _ hi
      rw [hput, List.pairwise_append]
      refine ⟨ih.imp_of_mem fun hi hj h => h.concat (hold hi) (hold hj),
        List.pairwise_singleton _ _, fun i hi j hj => ?_⟩
      obtain rfl := List.mem_singleton.1 hj
      exact ⟨ms, m, [], rfl, hi, hput, fun n hn => nomatch hn⟩
  · rintro ms q r h ⟨time, hle, rfl⟩
    exact h

/-! ## Which connection is taken -/

section Taking

variable {p q : Pool} {e : Event} {w : Waiter} {out : Pool × Move} {c t : Nat}

theorem Looks.ticket (h : Looks p e q w) : e.ticket? = some w.ticket := by
  cases h <;> rfl

/-- Whoever looks around finds what was idle before. -/
theorem Looks.finds (h : Looks p e q w) : q.idle = p.idle ∧ q.closed = p.closed := by
  cases h with
  | acquire | resume => exact ⟨rfl, rfl⟩
  | probeFailed hx =>
    rw [giveBack_of_invalid, wakeOne_eq]
    exact ⟨rfl, rfl⟩

/-- Whoever looks around where something is idle takes what stands behind the others. -/
theorem Sound.takes_last {rest : List Idle} {last : Idle} (h : Sound p {})
    (hidle : p.idle = rest ++ [last]) (hlooks : Looks p e q w) (hs : p.step? e = some out) :
    out.2 = .probe last.conn ∧ out.1.idle = rest ∧
      ⟨w.ticket, last.conn, w.deadline⟩ ∈ out.1.probing := by
  obtain ⟨hfound, hclosed⟩ := hlooks.finds
  rw [hidle] at hfound
  have hl := q.looked w
  rw [hlooks.step hs]
  generalize q.look w = out at hl
  cases hl with
  | closed hc =>
    rw [(h.drained (hclosed.symm.trans hc)).1] at hidle
    simp at hidle
  | probe hc hi =>
    obtain ⟨rfl, hlast⟩ := List.append_inj' (hfound.symm.trans hi) rfl
    obtain rfl := List.singleton_inj.1 hlast
    exact ⟨rfl, rfl, List.mem_append_right _ List.mem_cons_self⟩
  | refuse hc hi | connect hc hi | park hc hi =>
    rw [hi] at hfound
    simp at hfound

/-- Nothing else begins a probe. -/
theorem Sound.takes_of_probe (h : Sound p {}) (hs : p.step? e = some out)
    (hc : out.2 = .probe c) : ∃ rest last, p.idle = rest ++ [last] ∧ last.conn = c ∧
      ∃ found w, Looks p e found w ∧ ⟨w.ticket, c, w.deadline⟩ ∈ out.1.probing := by
  obtain ⟨found, w, hlooks⟩ := looks_of_goesOn hs (hc ▸ rfl)
  rcases p.idle.eq_nil_or_concat with hnil | ⟨rest, last, hidle⟩
  · have hrest := resting_of_probe hs hc
    rw [resting, hnil] at hrest
    cases hrest
  · rw [List.concat_eq_append] at hidle
    obtain ⟨hmove, -, hprobing⟩ := h.takes_last hidle hlooks hs
    obtain rfl : last.conn = c := Move.probe.inj (hmove.symm.trans hc)
    exact ⟨rest, last, hidle, rfl, found, w, hlooks, hprobing⟩

/-! ## From one connection to another -/

/-- The probe fails at a moment, and its connection is closed. -/
def Fails (a : Probe) (m : Moment Pool Event Move) : Prop :=
  a ∈ m.before.probing ∧ m.event = .probeFailed a.ticket ∧ a.conn ∈ m.after.torn

/-- No lease is touched where somebody looks around. -/
theorem Looks.ne_lease (h : Looks p e q w) :
    (∀ t, e ≠ .invalidate t) ∧ ∀ t, e ≠ .release t := by
  cases h <;> simp

/-- Whoever leaves the way is not on it until it begins anew. -/
theorem Sound.waiting_stays (h : Sound p {}) (hs : p.step? e = some out) (hw : p.waiting t = 0)
    (hnew : ∀ deadline, e ≠ .acquire t deadline) : out.1.waiting t = 0 := by
  have hturns := h.waiting_event hs t
  rw [Turns] at hturns
  by_cases he : e.ticket? = some t
  · have hon : ¬ out.2.goesOn = true := by
      intro hon
      obtain ⟨found, w, hlooks⟩ := looks_of_goesOn hs hon
      obtain rfl : w.ticket = t := Option.some.inj (hlooks.ticket.symm.trans he)
      obtain ⟨hinvalidate, hrelease⟩ := hlooks.ne_lease
      have hone := h.waiting_of_event he (fun u d heq => ?_) hinvalidate hrelease hs
      · omega
      · obtain rfl : u = w.ticket := by
          rw [heq] at he
          exact Option.some.inj he
        exact hnew d heq
    rw [hturns, if_pos he, if_neg hon]
  · rw [hturns, if_neg he, hw]

/-- A probe that ends takes its acquire off the way, unless it fails. -/
theorem Sound.fails_or_over {a : Probe} (h : Sound p {}) (ha : a ∈ p.probing)
    (hs : p.step? e = some out) :
    Fails a ⟨p, e, out.2, out.1⟩ ∨ a ∈ out.1.probing ∨ out.1.waiting a.ticket = 0 := by
  have offTheWay (he : e.ticket? = some a.ticket) (hoff : out.2.goesOn = false) :
      out.1.waiting a.ticket = 0 := by
    have hturns := h.waiting_event hs a.ticket
    rwa [Turns, if_pos he, hoff] at hturns
  rcases ends_event ha hs with hgoes | hends
  · exact .inr (.inl hgoes)
  · cases hends with
    | passed | expired | abandoned => exact .inr (.inr (offTheWay rfl rfl))
    | failed torn => exact .inl ⟨ha, rfl, torn⟩

/-- Until its acquire begins anew, a probe has failed, or is under way, or its acquire is not. -/
theorem Sound.fails_or_over_run {a : Probe} {ms : Moments} (h : Sound p {}) (ha : a ∈ p.probing)
    (run : Traced p ms q) : Sound q {} ∧
      ((∀ m ∈ ms, ∀ deadline, m.event ≠ .acquire a.ticket deadline) →
        (∃ m ∈ ms, Fails a m) ∨ a ∈ q.probing ∨ q.waiting a.ticket = 0) := by
  refine run.keeps (I := fun ms q => Sound q {} ∧
    ((∀ m ∈ ms, ∀ deadline, m.event ≠ .acquire a.ticket deadline) →
      (∃ m ∈ ms, Fails a m) ∨ a ∈ q.probing ∨ q.waiting a.ticket = 0))
    ⟨h, fun _ => .inr (.inl ha)⟩ ?_ ?_
  · rintro ms m ⟨hsound, ih⟩ hs
    refine ⟨hsound.event hs, fun hall => ?_⟩
    obtain ⟨hbefore, hm⟩ := List.forall_mem_append.1 hall
    rcases ih hbefore with ⟨n, hn, hfails⟩ | hprobing | hoff
    · exact .inl ⟨n, List.mem_append_left _ hn, hfails⟩
    · rcases hsound.fails_or_over hprobing hs with hfails | hrest
      · exact .inl ⟨m, List.mem_append_right _ List.mem_cons_self, hfails⟩
      · exact .inr hrest
    · exact .inr (.inr (hsound.waiting_stays hs hoff (hm m List.mem_cons_self)))
  · rintro ms q r ⟨hsound, ih⟩ ⟨time, hle, rfl⟩
    exact ⟨hsound.retime _ _ _, ih⟩

/-- No acquire probes two connections at a time. -/
theorem Sound.probe_unique {a b : Probe} (h : Sound p {}) (ha : a ∈ p.probing)
    (hb : b ∈ p.probing) (ht : a.ticket = b.ticket) : a = b := by
  have hnodup : (p.probing.map (·.ticket)).Nodup := by
    refine List.nodup_iff_count_le_one.2 fun t => ?_
    have hone := h.standing t
    have hsame : (p.probing.map (·.ticket)).count t = p.probing.countP (·.ticket = t) := by
      rw [List.count_eq_countP, List.countP_map]
      rfl
    rw [waiting] at hone
    omega
  exact List.inj_on_of_nodup_map hnodup ha hb ht

theorem waiting_pos {a : Probe} (ha : a ∈ p.probing) : p.waiting a.ticket ≠ 0 := by
  have hpos : 0 < p.probing.countP (·.ticket = a.ticket) :=
    List.countP_pos_iff.2 ⟨a, ha, decide_eq_true rfl⟩
  rw [waiting]
  omega

/-- **An acquire goes on to another connection only after the probe of the first has failed.** -/
theorem Sound.failed_between {between : Moments} {m n : Moment Pool Event Move} {d : Nat}
    (h : Sound m.before {}) (hm : m.before.step? m.event = some (m.after, m.output))
    (run : Traced m.after between n.before)
    (hn : n.before.step? n.event = some (n.after, n.output))
    (hmt : m.event.ticket? = some t) (hmc : m.output = .probe c)
    (hnt : n.event.ticket? = some t) (hnd : n.output = .probe d)
    (hnew : ∀ k ∈ between ++ [n], ∀ deadline, k.event ≠ .acquire t deadline) :
    ∃ k ∈ between ++ [n], ∃ deadline, Fails ⟨t, c, deadline⟩ k := by
  obtain ⟨hbetween, hlast⟩ := List.forall_mem_append.1 hnew
  obtain ⟨-, -, -, -, _, w, hlooks, hprobing⟩ := h.takes_of_probe hm hmc
  obtain rfl : w.ticket = t := Option.some.inj (hlooks.ticket.symm.trans hmt)
  have hafter : Sound m.after {} := h.event hm
  obtain ⟨hbefore, hfails⟩ := hafter.fails_or_over_run hprobing run
  obtain ⟨_, last, -, hconn, _, v, hlooks', hprobing'⟩ := hbefore.takes_of_probe hn hnd
  have hticket : v.ticket = w.ticket := Option.some.inj (hlooks'.ticket.symm.trans hnt)
  -- At the end the acquire is on its way, and it probes the other connection.
  have hon : n.after.waiting w.ticket ≠ 0 := by
    have hpos := waiting_pos hprobing'
    rwa [hticket] at hpos
  rcases hfails hbetween with ⟨k, hk, hfailed⟩ | hstill | hoff
  · exact ⟨k, List.mem_append_left _ hk, _, hfailed⟩
  · rcases hbefore.fails_or_over hstill hn with hfailed | hkept | hoff
    · exact ⟨n, List.mem_append_right _ List.mem_cons_self, _, hfailed⟩
    · have hsame := (hbefore.event hn).probe_unique hkept hprobing' hticket.symm
      obtain rfl : c = d := congrArg Probe.conn hsame
      have hidle : c ∈ n.before.resting := resting_of_probe hn hnd
      obtain ⟨i, hi, hic⟩ := List.mem_map.1 hidle
      exact absurd hic ((hbefore.alone_of_probing hstill).1 i hi)
    · exact absurd hoff hon
  · exact absurd (hbefore.waiting_stays hn hoff (hlast n List.mem_cons_self)) hon

end Taking

/-! ## Sweeps -/

/-- In a list that is in order, what is too old stands in front. -/
theorem filter_append_filter {now timeout : Nat} {idle : List Idle}
    (h : idle.Pairwise (·.since ≤ ·.since)) :
    idle.filter (fun i => !decide (now - i.since < timeout))
      ++ idle.filter (fun i => decide (now - i.since < timeout)) = idle := by
  induction idle with
  | nil => rfl
  | cons i rest ih =>
    obtain ⟨hfirst, hrest⟩ := List.pairwise_cons.1 h
    by_cases hi : now - i.since < timeout
    · -- The first is young, so all of them are.
      have hyoung : ∀ j ∈ i :: rest, now - j.since < timeout := by
        refine List.forall_mem_cons.2 ⟨hi, fun j hj => ?_⟩
        have hle := hfirst j hj
        omega
      rw [List.filter_eq_nil_iff.2 (by simpa using hyoung),
        List.filter_eq_self.2 (by simpa using hyoung), List.nil_append]
    · rw [List.filter_cons_of_pos (by simpa using hi), List.filter_cons_of_neg (by simpa using hi),
        List.cons_append, ih hrest]

/-- A sweep closes a front of the idle list, which is what is too old, and keeps the rest. -/
structure Sweeps (config : PoolConfig) (m : Moment Pool Event Move) (old young : List Idle) :
    Prop where
  parts : m.before.idle = old ++ young
  expired : ∀ i ∈ old, config.idleTimeout ≤ m.before.now - i.since
  current : ∀ i ∈ young, m.before.now - i.since < config.idleTimeout
  kept : m.after.idle = young
  torn : m.after.torn = m.before.torn ++ old.map (·.conn)
  opened : m.after.opened + old.length = m.before.opened

/-- A sweep of a list that is within its limit closes what is too old and nothing more. -/
theorem evict_of_roomy {p : Pool} (h : p.idle.length ≤ p.config.maxIdle) :
    p.evict.idle = p.idle.filter p.isYoung ∧
      p.evict.torn = p.torn ++ (p.idle.filter (!p.isYoung ·)).map (·.conn) ∧
      p.evict.opened = p.opened - (p.idle.filter (!p.isYoung ·)).length := by
  have hexcess : (p.idle.filter p.isYoung).length - p.config.maxIdle = 0 := by
    have hle := List.length_filter_le p.isYoung p.idle
    omega
  simp only [evict, hexcess, List.take_zero, List.drop_zero, List.append_nil]
  split <;> exact ⟨rfl, rfl, rfl⟩

theorem sweep_eq {p : Pool} {out : Pool × Move} (hs : p.step? .sweep = some out) :
    p.closed = false ∧ p.nextSweep ≤ p.now ∧
      out = (evict { p with nextSweep := p.nextSweep + p.config.evictionInterval }, .rest) := by
  cases happens hs with
  | sweep hc due => exact ⟨hc, due, rfl⟩

theorem Sound.sweeps {m : Moment Pool Event Move} (h : Sound m.before {})
    (horder : InOrder m.before) (hm : m.event = .sweep)
    (hs : m.before.step? m.event = some (m.after, m.output)) :
    ∃ old young, Sweeps m.before.config m old young := by
  rw [hm] at hs
  obtain ⟨-, -, hout⟩ := sweep_eq hs
  obtain ⟨hkept, htorn, hopened⟩ := evict_of_roomy (p := { m.before with
    nextSweep := m.before.nextSweep + m.before.config.evictionInterval }) h.roomy
  rw [← (Prod.mk.inj hout).1] at hkept htorn hopened
  refine ⟨_, _, (filter_append_filter horder.sorted).symm, fun i hi => ?_, fun i hi => ?_, hkept,
    htorn, ?_⟩
  · simpa using (List.mem_filter.1 hi).2
  · simpa using (List.mem_filter.1 hi).2
  · have hcount := h.count
    have hle : m.before.idle.length ≤ m.before.opened := by omega
    rw [hopened]
    exact Nat.sub_add_cancel (Nat.le_trans (List.length_filter_le _ _) hle)

/-! ## The result -/

/-- **Idle connections are kept in the order of their return, taken from the one end and swept from
the other.** In every run:

* they are in the order of time, and of those of one instant the one that came back later stands
  behind;
* whoever looks around where something is idle takes the connection that came back last, and nothing
  else begins a probe;
* an acquire that takes one connection after another has probed the first in vain, and the first has
  been closed;
* a sweep closes those that are idle for the idle timeout or longer, which are a front of the list,
  takes them off the count, and keeps all others as they stand. -/
theorem idle_in_order {config : PoolConfig} {new q : Pool} {ms : Moments}
    (hnew : ofConfig config = .ok new) (run : Traced new ms q) :
    (InOrder q ∧ q.idle.Pairwise (Outwaits ms)) ∧
    (∀ earlier m later, ms = earlier ++ m :: later →
      (∀ found w rest last, Looks m.before m.event found w → m.before.idle = rest ++ [last] →
        m.output = .probe last.conn ∧ m.after.idle = rest ∧
          ∀ i ∈ rest, i.since ≤ last.since ∧ Outwaits earlier i last) ∧
      ∀ c, m.output = .probe c → ∃ found w rest last, Looks m.before m.event found w ∧
        m.before.idle = rest ++ [last] ∧ last.conn = c) ∧
    (∀ earlier m between n later t c d, ms = earlier ++ m :: (between ++ n :: later) →
      m.event.ticket? = some t → m.output = .probe c →
      n.event.ticket? = some t → n.output = .probe d →
      (∀ k ∈ between ++ [n], ∀ deadline, k.event ≠ .acquire t deadline) →
      ∃ k ∈ between ++ [n], ∃ deadline, Fails ⟨t, c, deadline⟩ k) ∧
    ∀ m ∈ ms, m.event = .sweep → ∃ old young, Sweeps config m old young := by
  obtain ⟨rfl, -⟩ := ofConfig_eq_ok hnew
  refine ⟨⟨inOrder_of_traced run, outwaits_of_traced run⟩, ?_, ?_, ?_⟩
  · rintro earlier m later rfl
    obtain ⟨first, hs, -⟩ := run.cut
    have hsound := sound_of_traced first
    refine ⟨fun found w rest last hlooks hidle => ?_, fun c hc => ?_⟩
    · obtain ⟨hmove, hrest, -⟩ := hsound.takes_last hidle hlooks hs
      have hsorted := (inOrder_of_traced first).sorted
      have hwaits := outwaits_of_traced first
      rw [hidle, List.pairwise_append] at hsorted hwaits
      refine ⟨hmove, hrest, fun i hi => ⟨hsorted.2.2 i hi last ?_, hwaits.2.2 i hi last ?_⟩⟩
      · exact List.mem_cons_self
      · exact List.mem_cons_self
    · obtain ⟨rest, last, hidle, hconn, found, w, hlooks, -⟩ := hsound.takes_of_probe hs hc
      exact ⟨found, w, rest, last, hlooks, hidle, hconn⟩
  · rintro earlier m between n later t c d rfl hmt hmc hnt hnd hnew
    obtain ⟨first, hm, rest⟩ := run.cut
    obtain ⟨second, hn, -⟩ := rest.cut
    exact (sound_of_traced first).failed_between hm second hn hmt hmc hnt hnd hnew
  · intro m hmem hm
    obtain ⟨earlier, later, rfl⟩ := List.append_of_mem hmem
    obtain ⟨first, hs, -⟩ := run.cut
    have hsweeps := (sound_of_traced first).sweeps (inOrder_of_traced first) hm hs
    rwa [config_run (reaches_of_traced first)] at hsweeps

/-- Idle connections are closed after ten milliseconds, and looked for as often. -/
def brisk : PoolConfig :=
  { maxOpen := 3, maxIdle := 3, idleTimeout := 10, evictionInterval := 10 }

/-- Three connections come back, the last of them later than the others, and fails its next probe.
The one before it passes and comes back again, and then a sweep is due. -/
def returning : List Event :=
  [.acquire 0 5000, .acquire 1 5000, .acquire 2 5000, .connected 0, .connected 1, .connected 2,
    .release 0, .release 1, .advance 4, .release 2, .acquire 3 5000, .probeFailed 3, .probed 3,
    .release 3, .advance 10, .sweep]

/-- The moments of that run, and the pool after it. -/
def returned : Moments × Pool :=
  (Trace.retrace? step? (fresh brisk) returning).getD ([], fresh brisk)

/-- The acquire takes what came back last, and goes on after that has been closed. The sweep closes
the connection that has been idle since the beginning. -/
theorem idle_in_order_returning : Traced (fresh brisk) returned.1 returned.2 ∧
    (∃ m, returned.1[10]? = some m ∧ m.output = .probe 2 ∧ m.after.idle = [⟨0, 0⟩, ⟨1, 0⟩] ∧
      Outwaits (returned.1.take 10) ⟨0, 0⟩ ⟨2, 4⟩) ∧
    (∃ n, returned.1[11]? = some n ∧ n.output = .probe 1 ∧ ∃ deadline, Fails ⟨3, 2, deadline⟩ n) ∧
    ∃ k, returned.1[15]? = some k ∧ Sweeps brisk k [⟨0, 0⟩] [⟨1, 4⟩] := by
  have retraced : Trace.retrace? step? (fresh brisk) returning
      = some (returned.1, returned.2) := rfl
  have run : Traced (fresh brisk) returned.1 returned.2 := Trace.of_retrace? retraced
  have hnew : ofConfig brisk = .ok (fresh brisk) := rfl
  obtain ⟨-, takes, goesOn, sweeps⟩ := idle_in_order hnew run
  obtain ⟨m, n, hms, hm, hn, hacquire, hidle, hfailed, hgoes⟩ : ∃ m n,
      returned.1 = returned.1.take 10 ++ m :: ([] ++ n :: returned.1.drop 12) ∧
      returned.1[10]? = some m ∧ returned.1[11]? = some n ∧ m.event = .acquire 3 5000 ∧
      m.before.idle = [⟨0, 0⟩, ⟨1, 0⟩] ++ [⟨2, 4⟩] ∧ n.event = .probeFailed 3 ∧
      n.output = .probe 1 := ⟨_, _, rfl, rfl, rfl, rfl, rfl, rfl, rfl⟩
  obtain ⟨k, hk, hsweep, hkept⟩ : ∃ k, returned.1[15]? = some k ∧ k.event = .sweep ∧
      k.before.idle = [⟨0, 0⟩, ⟨1, 4⟩] ∧ k.after.idle = [⟨1, 4⟩] := ⟨_, rfl, rfl, rfl, rfl⟩
  have hlooks : Looks m.before m.event m.before ⟨3, 5000⟩ := hacquire ▸ Looks.acquire ⟨3, 5000⟩
  obtain ⟨hmove, hrest, hlast⟩ := (takes _ m _ hms).1 _ _ _ _ hlooks hidle
  refine ⟨run, ⟨m, hm, hmove, hrest, (hlast _ List.mem_cons_self).2⟩, ⟨n, hn, hgoes, ?_⟩,
    ⟨k, hk, ?_⟩⟩
  · obtain ⟨l, hl, hfails⟩ := goesOn _ m [] n _ 3 2 1 hms (hacquire ▸ rfl) hmove (hfailed ▸ rfl)
      hgoes (List.forall_mem_singleton.2 fun _ => hfailed ▸ nofun)
    obtain rfl := List.mem_singleton.1 hl
    exact hfails
  · obtain ⟨old, young, swept⟩ := sweeps k (List.mem_of_getElem? hk) hsweep
    obtain rfl : young = [⟨1, 4⟩] := swept.kept.symm.trans hkept.2
    obtain rfl : old = [⟨0, 0⟩] :=
      List.append_cancel_right (swept.parts.symm.trans (hkept.1.trans rfl))
    exact swept

end Pool
end ChainExplorer
