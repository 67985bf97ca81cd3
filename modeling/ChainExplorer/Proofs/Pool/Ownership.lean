import ChainExplorer.Proofs.Pool.Probing
import ChainExplorer.Proofs.Pool.Standing
import ChainExplorer.Proofs.Trace
import Mathlib.Data.List.Nodup

/-!
# Who owns a connection

A connection that has been opened is idle, or a lease holds it, or it has been torn down, and never
two of these at once: the three lists together are a rearrangement of what was opened. So a
connection is torn down when it leaves the idle list and the leases, and not before. An acquire that
probes a connection counts as a lease, because it already owns the connection.

Where a granted connection comes from is told by the run and not by the state, hence the traces. A
connection that is not new was idle when the acquire that gets it began its probe, and the probe has
held it ever since (`Begun`), so it has not been given back after that. Whatever has been torn down,
or marked invalid by the lease that still holds it, is spent and is handed to nobody any more.
-/

namespace ChainExplorer
namespace Pool

/-! ## Runs with their moments -/

/-- The clock moves on. -/
def Ticks (p q : Pool) : Prop := ∃ time, p.now ≤ time ∧ q = { p with now := time }

/-- What has happened to a pool, in its order. -/
abbrev Moments := List (Moment Pool Event Move)

/-- A run of a pool with its moments. -/
abbrev Traced : Pool → Moments → Pool → Prop := Trace step? Ticks

theorem reaches_of_traced {p q : Pool} {ms : Moments} (run : Traced p ms q) : Reaches p q := by
  refine run.keeps (I := fun _ q => Reaches p q) .start (fun run hs => .event run trivial hs) ?_
  rintro ms q r run ⟨time, ht, rfl⟩
  exact .clock time run ht

/-! ## The three places -/

/-- The idle connections. -/
def resting (p : Pool) : List Nat := p.idle.map (·.conn)

/-- The connections that leases hold, those of acquires in mid-probe among them. -/
def leased (p : Pool) : List Nat := p.probing.map (·.conn) ++ p.leases.map (·.conn)

/-- The connections that the pool or a lease still owns. -/
def owned (p : Pool) : List Nat := p.resting ++ p.leased

theorem count_owned (p : Pool) (c : Nat) : (p.owned ++ p.torn).count c = p.places c := by
  simp only [owned, resting, leased, places, List.count_append]
  simp only [List.count_eq_countP, List.countP_map, ← Nat.add_assoc]
  rfl

theorem Sound.perm_range {p : Pool} (h : Sound p {}) :
    (p.owned ++ p.torn).Perm (List.range p.nextConn) := by
  refine List.perm_iff_count.2 fun c => ?_
  rw [count_owned, List.nodup_range.count]
  simpa using h.placed c

theorem Sound.nodup {p : Pool} (h : Sound p {}) : (p.owned ++ p.torn).Nodup :=
  h.perm_range.nodup_iff.2 List.nodup_range

theorem Sound.mem_iff {p : Pool} (h : Sound p {}) {c : Nat} :
    c ∈ p.owned ∨ c ∈ p.torn ↔ c < p.nextConn := by
  rw [← List.mem_append, h.perm_range.mem_iff, List.mem_range]

/-- What is owned has not been torn down. -/
theorem Sound.not_torn {p : Pool} (h : Sound p {}) {c : Nat} (hc : c ∈ p.owned) : c ∉ p.torn :=
  fun ht => List.disjoint_of_nodup_append h.nodup hc ht

theorem mem_leased_of_lease {p : Pool} {l : Lease} (hl : l ∈ p.leases) : l.conn ∈ p.leased :=
  List.mem_append_right _ (List.mem_map_of_mem hl)

/-- A connection that is under probe is in no lease that was given out. -/
theorem Sound.conn_ne {p : Pool} (h : Sound p {}) {a : Probe} {l : Lease} (ha : a ∈ p.probing)
    (hl : l ∈ p.leases) : l.conn ≠ a.conn := (h.alone_of_probing ha).2 l hl

/-- A connection is in one lease at most. -/
theorem Sound.lease_unique {p : Pool} (h : Sound p {}) {l k : Lease} (hl : l ∈ p.leases)
    (hk : k ∈ p.leases) (hc : l.conn = k.conn) : l = k := by
  have hsub : (p.leases.map (·.conn)).Sublist (p.owned ++ p.torn) :=
    ((List.sublist_append_right _ _).trans (List.sublist_append_right _ _)).trans
      (List.sublist_append_left _ _)
  exact List.inj_on_of_nodup_map (h.nodup.sublist hsub) hl hk hc

/-! ## What is opened -/

/-- The connection that a moment opens. -/
def opening? (m : Moment Pool Event Move) : Option Nat :=
  match m.event, m.output with
  | .connected _, .grant c => some c
  | _, _ => none

/-- The connections that were opened, in their order. -/
def openings (ms : Moments) : List Nat := ms.filterMap opening?

/-- A moment opens nothing, or the next connection by number, and then tears nothing down. -/
theorem opening_event {p : Pool} {e : Event} {out : Pool × Move} (hs : p.step? e = some out) :
    (opening? ⟨p, e, out.2, out.1⟩ = none ∧ out.1.nextConn = p.nextConn) ∨
      (opening? ⟨p, e, out.2, out.1⟩ = some p.nextConn ∧ out.1.nextConn = p.nextConn + 1 ∧
        out.1.torn = p.torn) := by
  cases happens hs with
  | connected hx => exact .inr ⟨rfl, rfl, rfl⟩
  | acquire | resume => exact .inl ⟨rfl, (leases_look _ _).2⟩
  | probeFailed hx =>
    exact .inl ⟨rfl, (leases_look _ _).2.trans (untouched_giveBack _ _ _).nextConn⟩
  | connectFailed | expireConnecting | abandonConnecting =>
    exact .inl ⟨rfl, (untouched_giveUpRoom _).nextConn⟩
  | expireProbing | abandonProbing | release =>
    exact .inl ⟨rfl, (untouched_giveBack _ _ _).nextConn⟩
  | abandonAlone => exact .inl ⟨rfl, (untouched_wakeOne _).nextConn⟩
  | sweep => exact .inl ⟨rfl, (untouched_evict _).nextConn⟩
  | close => exact .inl ⟨rfl, (untouched_shut _).nextConn⟩
  | _ => exact .inl ⟨rfl, rfl⟩

theorem openings_eq_range {config : PoolConfig} {ms : Moments} {q : Pool}
    (run : Traced (fresh config) ms q) : openings ms = List.range q.nextConn := by
  refine run.keeps (I := fun ms q => openings ms = List.range q.nextConn) rfl ?_ ?_
  · intro ms m ih hs
    rw [openings, List.filterMap_append, ← openings, ih]
    rcases opening_event hs with ⟨hnone, hnext⟩ | ⟨hsome, hnext, _⟩
    · rw [List.filterMap_cons_none hnone, hnext]
      exact List.append_nil _
    · rw [List.filterMap_cons_some hsome, hnext, List.range_succ]
      rfl
  · rintro ms q r ih ⟨time, _, rfl⟩
    exact ih

/-! ## What is torn down -/

/-- **A moment tears down what leaves the idle list and the leases, and nothing else.** -/
theorem torn_moment {p : Pool} {e : Event} {out : Pool × Move} (h : Sound p {})
    (hs : p.step? e = some out) : ∃ gone, out.1.torn = p.torn ++ gone ∧
      ∀ c, c ∈ gone ↔ c ∈ p.owned ∧ c ∉ out.1.owned := by
  obtain ⟨gone, hgone⟩ := torn_event List.prefix_rfl hs
  have hafter := h.event hs
  have hnodup : (p.torn ++ gone).Nodup :=
    hgone ▸ hafter.nodup.sublist (List.sublist_append_right _ _)
  -- Every opened connection is owned or torn down, before and after, and never both.
  refine ⟨gone, hgone.symm, fun c => ⟨fun hc => ⟨?_, ?_⟩, fun ⟨hin, hout⟩ => ?_⟩⟩
  · have htorn : c ∉ p.torn := fun ht => List.disjoint_of_nodup_append hnodup ht hc
    have hnew : c < out.1.nextConn := hafter.mem_iff.1 (.inr (hgone ▸ List.mem_append_right _ hc))
    rcases opening_event hs with ⟨_, hnext⟩ | ⟨_, _, hsame⟩
    · exact (h.mem_iff.2 (hnext ▸ hnew)).resolve_right htorn
    · -- A moment that opens a connection tears nothing down.
      have hnil : gone = [] := by simpa [hsame] using hgone
      rw [hnil] at hc
      cases hc
  · exact fun hin => hafter.not_torn hin (hgone ▸ List.mem_append_right _ hc)
  · have hold : c < p.nextConn := h.mem_iff.1 (.inl hin)
    have hle : p.nextConn ≤ out.1.nextConn := by
      rcases opening_event hs with ⟨_, hnext⟩ | ⟨_, hnext, _⟩ <;> omega
    have htorn : c ∈ out.1.torn :=
      (hafter.mem_iff.2 (Nat.lt_of_lt_of_le hold hle)).resolve_left hout
    rw [← hgone] at htorn
    exact (List.mem_append.1 htorn).resolve_left (h.not_torn hin)

/-! ## Where a probe and a grant come from -/

theorem probing_look {p : Pool} {w : Waiter} {a : Probe} (ha : a ∈ (p.look w).1.probing) :
    a ∈ p.probing ∨ a.ticket = w.ticket ∧ (p.look w).2 = .probe a.conn := by
  have hl := p.looked w
  generalize p.look w = out at hl ha
  cases hl with
  | probe hc hi =>
    rcases List.mem_append.1 ha with hold | hnew
    · exact .inl hold
    · obtain rfl := List.mem_singleton.1 hnew
      exact .inr ⟨rfl, rfl⟩
  | _ => exact .inl ha

theorem resting_of_look {p : Pool} {w : Waiter} {c : Nat} (hc : (p.look w).2 = .probe c) :
    c ∈ p.resting := by
  have hl := p.looked w
  generalize p.look w = out at hl hc
  cases hl with
  | @probe last rest _ hi =>
    obtain rfl := Move.probe.inj hc
    rw [resting, hi]
    exact List.mem_map_of_mem (List.mem_append_right _ List.mem_cons_self)
  | _ => cases hc

theorem resting_giveBack_of_invalid (p : Pool) (c : Nat) :
    (p.giveBack c true).resting = p.resting :=
  congrArg (·.map Idle.conn) (idle_giveBack_of_invalid p c)

/-- A probe that is under way was so before, or its acquire has just taken a connection. -/
theorem probing_event {p : Pool} {e : Event} {out : Pool × Move} {a : Probe}
    (hs : p.step? e = some out) (ha : a ∈ out.1.probing) :
    a ∈ p.probing ∨ e.ticket? = some a.ticket ∧ out.2 = .probe a.conn := by
  cases happens hs with
  | acquire | resume =>
    rcases probing_look ha with hold | ⟨ht, hmove⟩
    · exact .inl hold
    · exact .inr ⟨congrArg some ht.symm, hmove⟩
  | probeFailed hx =>
    rcases probing_look ha with hold | ⟨ht, hmove⟩
    · rw [probing_giveBack] at hold
      exact .inl ((mem_of_extract? hx).2 (.inr hold))
    · exact .inr ⟨congrArg some ht.symm, hmove⟩
  | probed hx => exact .inl ((mem_of_extract? hx).2 (.inr ha))
  | expireProbing due hx =>
    rw [probing_giveBack] at ha
    exact .inl ((mem_of_extract? hx).2 (.inr ha))
  | abandonProbing hx =>
    rw [probing_giveBack] at ha
    exact .inl ((mem_of_extract? hx).2 (.inr ha))
  | release hx =>
    rw [probing_giveBack] at ha
    exact .inl ha
  | connectFailed | expireConnecting | abandonConnecting =>
    rw [probing_giveUpRoom] at ha
    exact .inl ha
  | abandonAlone =>
    rw [probing_wakeOne] at ha
    exact .inl ha
  | sweep =>
    rw [probing_evict] at ha
    exact .inl ha
  | close =>
    rw [probing_shut] at ha
    exact .inl ha
  | _ => exact .inl ha

/-- A probe begins on an idle connection. -/
theorem resting_of_probe {p : Pool} {e : Event} {out : Pool × Move} {c : Nat}
    (hs : p.step? e = some out) (hc : out.2 = .probe c) : c ∈ p.resting := by
  cases happens hs with
  | acquire => exact resting_of_look hc
  | resume hx =>
    have hrest := resting_of_look hc
    exact hrest
  | probeFailed hx =>
    have hrest := resting_of_look hc
    rwa [resting_giveBack_of_invalid] at hrest
  | _ => cases hc

/-- What is granted is new or comes from a probe that has passed. -/
theorem grant_event {p : Pool} {e : Event} {out : Pool × Move} {c : Nat}
    (hs : p.step? e = some out) (hc : out.2 = .grant c) :
    (∃ t, e = .connected t ∧ c = p.nextConn) ∨
      ∃ a ∈ p.probing, e = .probed a.ticket ∧ a.conn = c := by
  cases happens hs with
  | acquire | resume | probeFailed =>
    rcases move_look _ _ with hon | ⟨error, hmove⟩
    · rw [hc] at hon
      cases hon
    · rw [hc] at hmove
      cases hmove
  | connected hx => exact .inl ⟨_, rfl, (Move.grant.inj hc).symm⟩
  | @probed a rest hx =>
    exact .inr ⟨a, (mem_of_extract? hx).2 (.inl rfl), rfl, Move.grant.inj hc⟩
  | _ => cases hc

/-- A probe that began with one of these moments, on a connection that was idle, and has held it
ever since. -/
def Begun (ms : Moments) (a : Probe) : Prop :=
  ∃ earlier first later, ms = earlier ++ first :: later ∧
    first.event.ticket? = some a.ticket ∧ first.output = .probe a.conn ∧
    a.conn ∈ first.before.resting ∧ a ∈ first.after.probing ∧
    ∀ m ∈ later, a ∈ m.before.probing ∧ a ∈ m.after.probing

theorem begun_of_probing {config : PoolConfig} {ms : Moments} {q : Pool}
    (run : Traced (fresh config) ms q) : ∀ a ∈ q.probing, Begun ms a := by
  refine run.keeps (I := fun ms q => ∀ a ∈ q.probing, Begun ms a) ?_ ?_ ?_
  · intro a ha
    cases ha
  · intro ms m ih hs a ha
    rcases probing_event hs ha with hold | ⟨ht, hmove⟩
    · obtain ⟨earlier, first, later, rfl, hticket, hprobe, hidle, hfirst, hheld⟩ := ih a hold
      refine ⟨earlier, first, later ++ [m], by simp, hticket, hprobe, hidle, hfirst, ?_⟩
      exact List.forall_mem_append.2 ⟨hheld, List.forall_mem_singleton.2 ⟨hold, ha⟩⟩
    · refine ⟨ms, m, [], rfl, ht, hmove, resting_of_probe hs hmove, ha, ?_⟩
      intro n hn
      cases hn
  · rintro ms q r ih ⟨time, _, rfl⟩
    exact ih

/-! ## What is spent -/

/-- A connection that has been torn down, or that a lease has marked invalid and still holds. -/
def Spent (p : Pool) (c : Nat) : Prop :=
  c ∈ p.torn ∨ ∃ l ∈ p.leases, l.conn = c ∧ l.invalid = true

/-- A spent connection is neither idle nor under probe. -/
theorem Sound.of_spent {p : Pool} {c : Nat} (h : Sound p {}) (hc : p.Spent c) :
    c ∉ p.resting ∧ (∀ a ∈ p.probing, a.conn ≠ c) ∧ c < p.nextConn := by
  rcases hc with htorn | ⟨l, hl, rfl, _⟩
  · obtain ⟨⟨hidle, _⟩, hprobing⟩ := h.alone_of_torn htorn
    refine ⟨fun hrest => ?_, hprobing, h.mem_iff.1 (.inr htorn)⟩
    obtain ⟨i, hi, hic⟩ := List.mem_map.1 hrest
    exact hidle i hi hic
  · have howned : l.conn ∈ p.owned := List.mem_append_right _ (mem_leased_of_lease hl)
    have hparts := h.nodup.sublist (List.sublist_append_left _ _)
    refine ⟨fun hrest => ?_, fun a ha hac => h.conn_ne ha hl hac.symm, h.mem_iff.1 (.inl howned)⟩
    exact List.disjoint_of_nodup_append hparts hrest (mem_leased_of_lease hl)

/-- The lease that holds a spent connection has marked it. -/
theorem Sound.marked_of_spent {p : Pool} {l : Lease} (h : Sound p {}) (hc : p.Spent l.conn)
    (hl : l ∈ p.leases) : l.invalid = true := by
  rcases hc with htorn | ⟨k, hk, hkc, hinvalid⟩
  · exact absurd rfl ((h.alone_of_torn htorn).1.2 l hl)
  · exact h.lease_unique hk hl hkc ▸ hinvalid

/-- A spent connection is granted to nobody, and no probe begins on it. -/
theorem Sound.withheld {p : Pool} {e : Event} {out : Pool × Move} {c : Nat} (h : Sound p {})
    (hc : p.Spent c) (hs : p.step? e = some out) : out.2 ≠ .grant c ∧ out.2 ≠ .probe c := by
  obtain ⟨hrest, hprobing, hold⟩ := h.of_spent hc
  constructor
  · intro hgrant
    rcases grant_event hs hgrant with ⟨t, _, rfl⟩ | ⟨a, ha, _, hac⟩
    · exact Nat.lt_irrefl _ hold
    · exact hprobing a ha hac
  · intro hprobe
    exact hrest (resting_of_probe hs hprobe)

/-- Where leases come by grants alone, what is spent stays spent and gets no new one. -/
theorem Sound.spent_of_granted {p : Pool} {e : Event} {out : Pool × Move} {c : Nat}
    (h : Sound p {}) (hc : p.Spent c) (hs : p.step? e = some out)
    (hleases : out.1.leases = p.leases ++ granted e out.2) :
    out.1.Spent c ∧ ∀ l ∈ out.1.leases, l.conn = c → l ∈ p.leases := by
  rw [Spent, hleases]
  refine ⟨?_, fun l hl hlc => ?_⟩
  · rcases hc with ht | ⟨l, hl, hlc, hinvalid⟩
    · exact .inl ((torn_event List.prefix_rfl hs).subset ht)
    · exact .inr ⟨l, List.mem_append_left _ hl, hlc, hinvalid⟩
  · rcases List.mem_append.1 hl with hold | hnew
    · exact hold
    · -- A grant of a spent connection is ruled out.
      unfold granted at hnew
      split at hnew
      · rename_i t d _ hgrant
        obtain rfl := List.mem_singleton.1 hnew
        exact absurd (hlc ▸ hgrant) (h.withheld hc hs).1
      · cases hnew

/-- What is spent stays spent, and no new lease holds it. -/
theorem Sound.spent_event {p : Pool} {e : Event} {out : Pool × Move} {c : Nat} (h : Sound p {})
    (hc : p.Spent c) (hs : p.step? e = some out) :
    out.1.Spent c ∧ ∀ l ∈ out.1.leases, l.conn = c → l ∈ p.leases := by
  have htorn : c ∈ p.torn → c ∈ out.1.torn := fun ht => (torn_event List.prefix_rfl hs).subset ht
  cases happens hs with
  | @invalidate l rest hx =>
    have hrest : ∀ k ∈ rest, k ∈ p.leases := fun k hk => (mem_of_extract? hx).2 (.inr hk)
    refine ⟨?_, fun k hk hkc => ?_⟩
    · rcases hc with ht | ⟨k, hk, hkc, hinvalid⟩
      · exact .inl ht
      · rcases (mem_of_extract? hx).1 hk with rfl | hk
        · exact .inr ⟨_, List.mem_append_right _ List.mem_cons_self, hkc, rfl⟩
        · exact .inr ⟨k, List.mem_append_left _ hk, hkc, hinvalid⟩
    · rcases List.mem_append.1 hk with hk | hk
      · exact hrest k hk
      · -- The lease was marked before, so marking it changes nothing.
        obtain rfl := List.mem_singleton.1 hk
        have hl : l ∈ p.leases := (mem_of_extract? hx).2 (.inl rfl)
        have hmarked : l.invalid = true := h.marked_of_spent (hkc ▸ hc) hl
        rwa [← hmarked]
  | @release l rest hx =>
    have hleases := (untouched_giveBack { p with leases := rest } l.conn l.invalid).leases
    refine ⟨?_, fun k hk _ => ?_⟩
    · rcases hc with ht | ⟨k, hk, rfl, hinvalid⟩
      · exact .inl (htorn ht)
      · rcases (mem_of_extract? hx).1 hk with rfl | hk
        · rw [hinvalid]
          exact .inl (mem_torn_giveBack _ _)
        · exact .inr ⟨k, hleases ▸ hk, rfl, hinvalid⟩
    · rw [hleases] at hk
      exact (mem_of_extract? hx).2 (.inr hk)
  | _ => exact h.spent_of_granted hc hs (leases_event nofun nofun hs)

/-- From where a connection is spent it is handed to nobody, and only the lease that marked it may
hold it still. -/
theorem Sound.spent_run {p q : Pool} {ms : Moments} {c : Nat}
    (h : Sound p {}) (hc : p.Spent c) (run : Traced p ms q) :
    (Sound q {} ∧ q.Spent c) ∧ (∀ l ∈ q.leases, l.conn = c → l ∈ p.leases) ∧
      ∀ m ∈ ms, m.output ≠ .grant c ∧ m.output ≠ .probe c := by
  refine run.keeps (I := fun ms q => (Sound q {} ∧ q.Spent c) ∧
    (∀ l ∈ q.leases, l.conn = c → l ∈ p.leases) ∧
      ∀ m ∈ ms, m.output ≠ .grant c ∧ m.output ≠ .probe c) ?_ ?_ ?_
  · exact ⟨⟨h, hc⟩, fun l hl _ => hl, fun m hm => nomatch hm⟩
  · rintro ms m ⟨⟨hsound, hspent⟩, hold, hnone⟩ hs
    obtain ⟨hafter, hleases⟩ := hsound.spent_event hspent hs
    refine ⟨⟨hsound.event hs, hafter⟩, fun l hl hlc => hold l (hleases l hl hlc) hlc, ?_⟩
    exact List.forall_mem_append.2
      ⟨hnone, List.forall_mem_singleton.2 (hsound.withheld hspent hs)⟩
  · rintro ms q r ⟨⟨hsound, hspent⟩, hrest⟩ ⟨time, _, rfl⟩
    exact ⟨⟨hsound.retime _ _ _, hspent⟩, hrest⟩

/-! ## Ownership -/

theorem sound_of_traced {config : PoolConfig} {ms : Moments} {q : Pool}
    (run : Traced (fresh config) ms q) : Sound q {} :=
  Sound.run (reaches_of_traced run) (.fresh config)

/-- **Every connection has one owner, until it is torn down, once and for all.** In every run:

* what has been opened is idle, held by one lease, or torn down, each of it in one of these places
  and there once, and nothing else is in any of them;
* a moment tears down exactly what leaves the idle list and the leases with it;
* a connection that has been torn down, or marked invalid by the lease that holds it, is never idle
  again, under probe, or granted, and no other lease ever holds it;
* whatever is granted has just been opened by the acquire that gets it, or has passed a probe that
  this acquire began when the connection was idle and that has held it ever since. -/
theorem owned_until_torn_down {config : PoolConfig} {new q : Pool}
    {ms : Moments} (hnew : ofConfig config = .ok new) (run : Traced new ms q) :
    ((q.resting ++ q.leased ++ q.torn).Perm (openings ms) ∧ (openings ms).Nodup) ∧
    (∀ m ∈ ms, ∃ gone, m.after.torn = m.before.torn ++ gone ∧
      ∀ c, c ∈ gone ↔ c ∈ m.before.resting ++ m.before.leased ∧
        c ∉ m.after.resting ++ m.after.leased) ∧
    (∀ earlier m later, ms = earlier ++ m :: later → ∀ c, m.after.Spent c →
      c ∉ q.resting ∧ (∀ a ∈ q.probing, a.conn ≠ c) ∧
        (∀ l ∈ q.leases, l.conn = c → l.invalid = true ∧ l ∈ m.after.leases) ∧
        (c ∈ m.after.torn → c ∉ q.leased) ∧
        ∀ n ∈ later, n.output ≠ .grant c ∧ n.output ≠ .probe c) ∧
    (∀ earlier m later, ms = earlier ++ m :: later → ∀ c, m.output = .grant c →
      (∃ t, m.event = .connected t ∧ c ∉ openings earlier) ∨
        ∃ a, m.event = .probed a.ticket ∧ a.conn = c ∧ Begun earlier a) := by
  obtain ⟨rfl, _⟩ := ofConfig_eq_ok hnew
  have hrange := openings_eq_range run
  refine ⟨⟨?_, ?_⟩, ?_, ?_, ?_⟩
  · rw [hrange]
    exact (sound_of_traced run).perm_range
  · rw [hrange]
    exact List.nodup_range
  · intro m hm
    obtain ⟨earlier, later, rfl⟩ := List.append_of_mem hm
    obtain ⟨first, hs, _⟩ := run.cut
    exact torn_moment (sound_of_traced first) hs
  · rintro earlier m later rfl c hc
    obtain ⟨first, hs, rest⟩ := run.cut
    have hsound : Sound m.after {} := (sound_of_traced first).event hs
    obtain ⟨⟨hq, hspent⟩, hleases, hnone⟩ := hsound.spent_run hc rest
    obtain ⟨hrest, hprobing, _⟩ := hq.of_spent hspent
    have hmarked : ∀ l ∈ q.leases, l.conn = c → l.invalid = true ∧ l ∈ m.after.leases :=
      fun l hl hlc => ⟨hq.marked_of_spent (hlc ▸ hspent) hl, hleases l hl hlc⟩
    refine ⟨hrest, hprobing, hmarked, fun htorn hleased => ?_, hnone⟩
    have hstill : c ∈ q.torn := (torn_of_run (reaches_of_traced rest)).subset htorn
    exact hq.not_torn (List.mem_append_right _ hleased) hstill
  · rintro earlier m later rfl c hc
    obtain ⟨first, hs, _⟩ := run.cut
    rcases grant_event hs hc with ⟨t, he, rfl⟩ | ⟨a, ha, he, hac⟩
    · refine .inl ⟨t, he, ?_⟩
      rw [openings_eq_range first, List.mem_range]
      exact Nat.lt_irrefl _
    · exact .inr ⟨a, he, hac, begun_of_probing first a ha⟩

/-- Two connections are opened. One goes back and is granted again after a probe; the other is
marked invalid and given back. -/
def changing : List Event :=
  [.acquire 0 9, .acquire 1 9, .connected 0, .connected 1, .release 0, .acquire 2 9, .probed 2,
    .invalidate 1, .release 1]

/-- The moments of that run, and the pool after it. -/
def changed : Moments × Pool :=
  (Trace.retrace? step? (fresh {}) changing).getD ([], fresh {})

/-- Of two connections, the one that is granted again was taken from the idle list and probed by the
acquire that gets it; the other is held by nobody once its lease has marked it and ended. -/
theorem owned_until_torn_down_changing : ∃ ms q, Traced (fresh {}) ms q ∧ openings ms = [0, 1] ∧
    q.leased = [0] ∧ q.torn = [1] ∧ (q.resting ++ q.leased ++ q.torn).Perm [0, 1] ∧
    ∃ a, a.ticket = 2 ∧ a.conn = 0 ∧ Begun (ms.take 6) a := by
  have retraced : Trace.retrace? step? (fresh {}) changing = some (changed.1, changed.2) := rfl
  have run : Traced (fresh {}) changed.1 changed.2 := Trace.of_retrace? retraced
  have hnew : ofConfig {} = .ok (fresh {}) := rfl
  obtain ⟨⟨places, _⟩, _, _, granted⟩ := owned_until_torn_down hnew run
  refine ⟨_, _, run, rfl, rfl, rfl, places, ?_⟩
  rcases granted (changed.1.take 6) _ (changed.1.drop 7) rfl 0 rfl with
    ⟨t, he, _⟩ | ⟨a, he, hac, hbegun⟩
  · cases he
  · exact ⟨a, (Event.probed.inj he).symm, hac, hbegun⟩

end Pool
end ChainExplorer
