import ChainExplorer.Proofs.Pool.Standing
import ChainExplorer.Proofs.Trace
import ChainExplorer.Rpc.Client

/-!
# Runs of a client

A client and its pool each keep a book on the calls: the client has the calls that wait for a
connection and those that wait for a reply, the pool has acquires and leases. The invariant is that
the books agree (`Consistent`). A ticket stands among the pending calls exactly when its acquire is
on its way, and the exchanges are the leases, connection by connection.

Most of it is inherited. What the pool does with a ticket is read off its move
(`Pool.Sound.waiting_event`, `Pool.leases_event`), and the client does the same to its own lists
(`Consistent.followed`). The end of an exchange is the one place where the client acts on a lease,
so that is worked out once and for all: however an exchange ends, its lease ends with it and its
connection is given back (`Consistent.settle_eq`).

`Effect` says in three cases what an event can do to the exchanges. The proofs about calls go by it.
-/

namespace ChainExplorer
namespace Rpc

/-- The lease that an exchange runs on. -/
def Exchange.lease (x : Exchange) : Lease := ⟨x.ticket, x.conn, false⟩

/-- Whether an outcome says what a reply has said. -/
def ofReply {α : Type} : Except RpcError α → Prop
  | .ok _ | .error (.server _ _) | .error (.invalidResponse _) => True
  | .error (.pool _) | .error (.transport _) => False

/-- How an exchange can end. -/
inductive Ending where
  | replied (reply : Except TransportError Reply)
  | expired
  | dropped

namespace Ending

/-- What happens to the client when the exchange with a ticket ends so. -/
def event (ending : Ending) (ticket : Nat) : Client.Event :=
  match ending with
  | .replied reply => .replied ticket reply
  | .expired => .expire ticket
  | .dropped => .drop ticket

/-- Whether a reply with the id of the request has arrived. -/
def correlated (request : Request) : Ending → Bool
  | .replied (.ok reply) => replyId? reply.id = some request.id.toNat
  | _ => false

/-- What the caller is told, if there still is one. -/
def outcome? (callTimeout : Nat) (request : Request) : Ending → Option (Except RpcError Json)
  | .replied (.ok reply) => some (reply.answerTo request.id)
  | .replied (.error error) => some (.error (.transport error))
  | .expired => some (.error (.transport (.timeout callTimeout)))
  | .dropped => none

end Ending

namespace Client

/-! ## What an event does -/

/-- An event in which a call takes a turn at the pool: what it asks of the pool, under which ticket,
and which calls are pending then. -/
inductive Turn (c : Client) : Event → Pool.Event → Nat → List Pending → Prop
  | call {ticket : Nat} {method : String} {params : List Json} :
      Turn c (.call ticket method params)
        (.acquire ticket (c.pool.now + c.pool.config.acquireTimeout)) ticket
        (c.pending ++ [⟨ticket, method, params⟩])
  | pool {pe : Pool.Event} {ticket : Nat} (external : isExternal pe = true)
      (ht : pe.ticket? = some ticket) : Turn c (.pool pe) pe ticket c.pending

/-- What is told to the caller of an exchange that ends. -/
def farewell (c : Client) (x : Exchange) (ending : Ending) : List Output :=
  ((ending.outcome? c.callTimeout x.request).map (.answer x.ticket)).toList

theorem mem_farewell {c : Client} {x : Exchange} {ending : Ending} {o : Output} :
    o ∈ c.farewell x ending ↔
      ∃ outcome, ending.outcome? c.callTimeout x.request = some outcome ∧
        o = .answer x.ticket outcome := by
  rw [farewell, Option.mem_toList, Option.map_eq_some_iff]
  exact exists_congr fun outcome => and_congr_right fun _ => eq_comm

/-- How an event goes. -/
inductive Happens (c : Client) : Event → Client × List Output → Prop
  | turn {e : Event} {pe : Pool.Event} {ticket : Nat} {pending : List Pending}
      {out : Pool × Pool.Move} (ht : Turn c e pe ticket pending) (hs : c.pool.step? pe = some out) :
      Happens c e (follow { c with pool := out.1, pending } ticket out.2)
  | quiet {pe : Pool.Event} {out : Pool × Pool.Move} (ht : pe.ticket? = none)
      (hs : c.pool.step? pe = some out) : Happens c (.pool pe) ({ c with pool := out.1 }, [])
  | ended {f : Exchange → Bool} {x : Exchange} {rest : List Exchange} (ending : Ending)
      (hx : extract? f c.exchanging = some (x, rest)) :
      Happens c (ending.event x.ticket)
        (settle { c with exchanging := rest } x.ticket (ending.correlated x.request),
          c.farewell x ending)
  | abandon {ticket : Nat} {q : Pool} (hs : c.pool.step? (.abandon ticket) = some (q, .rest)) :
      Happens c (.drop ticket)
        ({ c with pool := q, pending := c.pending.filter (·.ticket ≠ ticket) }, [])

theorem conclude_eq (request : Request) (reply : Except TransportError Reply) (callTimeout : Nat) :
    (Ending.replied reply).outcome? callTimeout request = some (conclude request reply).1 ∧
      (Ending.replied reply).correlated request = (conclude request reply).2 := by
  cases reply with
  | error error => exact ⟨rfl, rfl⟩
  | ok reply => exact ⟨rfl, rfl⟩

theorem happens_pool {c : Client} {pe : Pool.Event} {out : Client × List Output}
    (external : isExternal pe = true) (h : c.poolStep? pe = some out) :
    Happens c (.pool pe) out := by
  obtain ⟨next, hs, rfl⟩ := Option.map_eq_some_iff.1 h
  cases ht : pe.ticket? with
  | none => exact .quiet ht hs
  | some ticket => exact .turn (.pool external ht) hs

/-- **An event goes one of these ways.** -/
theorem happens {c : Client} {e : Event} {out : Client × List Output} (h : c.step? e = some out) :
    Happens c e out := by
  cases e with
  | call ticket method params =>
    obtain ⟨next, hs, rfl⟩ := Option.map_eq_some_iff.1 h
    exact .turn .call hs
  | pool pe =>
    cases pe with
    | advance time =>
      simp only [step?] at h
      split at h
      · exact happens_pool rfl h
      · cases h
    | acquire | abandon | invalidate | release => cases h
    | _ => exact happens_pool rfl h
  | replied ticket reply =>
    obtain ⟨⟨x, rest⟩, hx, rfl⟩ := Option.map_eq_some_iff.1 h
    obtain rfl : x.ticket = ticket := of_decide_eq_true (extract?_eq_some hx).1
    have hended : Happens c _ _ := .ended (.replied reply) hx
    rwa [farewell, (conclude_eq _ _ _).1, (conclude_eq _ _ 0).2] at hended
  | expire ticket =>
    obtain ⟨⟨x, rest⟩, hx, rfl⟩ := Option.map_eq_some_iff.1 h
    obtain ⟨ht, _⟩ : x.ticket = ticket ∧ x.deadline ≤ c.pool.now := by
      simpa using (extract?_eq_some hx).1
    subst ht
    exact .ended .expired hx
  | drop ticket =>
    simp only [step?] at h
    split at h
    · rename_i x rest hx
      obtain rfl : x.ticket = ticket := of_decide_eq_true (extract?_eq_some hx).1
      obtain rfl := Option.some.inj h
      exact .ended .dropped hx
    · obtain ⟨next, hs, rfl⟩ := Option.map_eq_some_iff.1 h
      obtain ⟨q, -, rfl⟩ := Option.map_eq_some_iff.1 hs
      exact .abandon hs

/-! ## The books of a client and of its pool -/

/-- The client and its pool agree on which calls wait for a connection and which for a reply. -/
structure Consistent (c : Client) : Prop where
  pool : Pool.Sound c.pool {}
  pending : ∀ t, c.pending.countP (·.ticket = t) = c.pool.waiting t
  leases : c.pool.leases.Perm (c.exchanging.map Exchange.lease)

theorem Consistent.fresh (config : PoolConfig) (callTimeout : Nat) (firstId : UInt64) :
    Consistent (fresh (Pool.fresh config) callTimeout firstId) where
  pool := .fresh config
  pending _ := rfl
  leases := .refl _

section Consistent

variable {c : Client}

theorem Consistent.lease_mem (h : Consistent c) {x : Exchange} (hx : x ∈ c.exchanging) :
    x.lease ∈ c.pool.leases := h.leases.mem_iff.2 (List.mem_map_of_mem hx)

theorem Consistent.count_exchanging (h : Consistent c) (t : Nat) :
    c.exchanging.countP (·.ticket = t) = c.pool.holding t := by
  have hmap := h.leases.countP_eq (·.ticket = t)
  rw [List.countP_map] at hmap
  exact hmap.symm

theorem Consistent.ticket_ne (h : Consistent c) {t : Nat} (ht : c.pool.holding t = 0) :
    ∀ x ∈ c.exchanging, x.ticket ≠ t := by
  rw [← h.count_exchanging, List.countP_eq_zero] at ht
  exact fun x hx heq => ht x hx (decide_eq_true heq)

/-- No two exchanges have one ticket. -/
theorem Consistent.exchange_unique (h : Consistent c) {x y : Exchange} {rest : List Exchange}
    (hp : c.exchanging.Perm (x :: rest)) (hy : y ∈ rest) : y.ticket ≠ x.ticket := by
  intro ht
  have hone := h.pool.standing x.ticket
  have hcount := h.count_exchanging x.ticket
  simp only [hp.countP_eq, List.countP_cons, decide_true, if_true] at hcount
  have hpos : 0 < rest.countP (·.ticket = x.ticket) :=
    List.countP_pos_iff.2 ⟨y, hy, decide_eq_true ht⟩
  omega

end Consistent

/-! ## A turn at the pool -/

section Turn

variable {c : Client} {e : Event} {pe : Pool.Event} {t : Nat} {pending : List Pending}
  {out : Pool × Pool.Move}

theorem Turn.ticket (ht : Turn c e pe t pending) : pe.ticket? = some t := by
  cases ht with
  | call => rfl
  | pool external ht => exact ht

/-- No call takes its turn by an event about a lease, or by going away. -/
theorem Turn.ne (ht : Turn c e pe t pending) :
    (∀ t, pe ≠ .abandon t) ∧ (∀ t, pe ≠ .invalidate t) ∧ ∀ t, pe ≠ .release t := by
  cases ht with
  | call => exact ⟨nofun, nofun, nofun⟩
  | pool external ht =>
    refine ⟨?_, ?_, ?_⟩ <;>
    · rintro t rfl
      cases external

/-- The call that takes its turn is pending then, and holds no lease. -/
theorem Consistent.turn (h : Consistent c) (ht : Turn c e pe t pending)
    (hs : c.pool.step? pe = some out) :
    (∀ u, pending.countP (·.ticket = u) = if t = u then 1 else c.pool.waiting u) ∧
      c.pool.holding t = 0 := by
  obtain ⟨-, hi, hr⟩ := ht.ne
  cases ht with
  | call =>
    have hnew := Pool.standing_of_new (Pool.new_of_acquire hs)
    refine ⟨fun u => ?_, Nat.eq_zero_of_add_eq_zero_left hnew⟩
    rw [List.countP_append, h.pending, List.countP_singleton]
    by_cases hu : t = u
    · subst hu
      simp only [decide_true, if_true]
      omega
    · simp [hu]
  | pool external ht =>
    have hone := h.pool.waiting_of_event ht (by rintro t d rfl; cases external) hi hr hs
    refine ⟨fun u => ?_, ?_⟩
    · rw [h.pending]
      by_cases hu : t = u
      · rw [if_pos hu, ← hu, hone]
      · rw [if_neg hu]
    · have hle := h.pool.standing t
      omega

end Turn

/-- What the client does after a turn of a pending call. -/
inductive Followed (c : Client) : Nat → Pool.Move → Client × List Output → Prop
  | park {t : Nat} : Followed c t .park (c, [])
  | connect {t : Nat} : Followed c t .connect (c, [.connect t])
  | probe {t conn : Nat} : Followed c t (.probe conn) (c, [.probe t conn])
  | send {call : Pending} {rest : List Pending} {conn : Nat}
      (hx : extract? (·.ticket = call.ticket) c.pending = some (call, rest)) :
      Followed c call.ticket (.grant conn) (begin { c with pending := rest } call conn)
  | refuse {t : Nat} {error : PoolError} :
      Followed c t (.refuse error)
        ({ c with pending := c.pending.filter (·.ticket ≠ t) },
          [.answer t (.error (.pool error))])

theorem followed {c : Client} {t : Nat} {move : Pool.Move} (hm : move ≠ .rest)
    (ht : 0 < c.pending.countP (·.ticket = t)) : Followed c t move (c.follow t move) := by
  cases move with
  | rest => exact absurd rfl hm
  | park => exact .park
  | connect => exact .connect
  | probe conn => exact .probe
  | refuse error => exact .refuse
  | grant conn =>
    rw [follow]
    cases hx : extract? (·.ticket = t) c.pending with
    | none =>
      rw [List.countP_eq_zero.2 fun call hc => by simpa using extract?_eq_none.1 hx call hc] at ht
      exact absurd ht (Nat.lt_irrefl 0)
    | some taken =>
      obtain ⟨call, rest⟩ := taken
      obtain rfl : call.ticket = t := of_decide_eq_true (extract?_eq_some hx).1
      exact .send hx

theorem countP_filter_ticket (pending : List Pending) (t u : Nat) :
    (pending.filter (·.ticket ≠ t)).countP (·.ticket = u)
      = if t = u then 0 else pending.countP (·.ticket = u) := by
  rw [List.countP_filter]
  split
  · rename_i hu
    subst hu
    exact List.countP_eq_zero.2 fun call _ => by simp
  · rename_i hu
    refine List.countP_congr fun call _ => ?_
    simp only [decide_eq_true_eq, Bool.and_eq_true, ne_eq, decide_not, Bool.not_eq_true',
      decide_eq_false_iff_not]
    exact ⟨fun h => h.1, fun h => ⟨h, fun ht => hu (ht.symm.trans h)⟩⟩

theorem Consistent.followed {c : Client} {e : Event} {pe : Pool.Event} {t : Nat}
    {pending : List Pending} {out : Pool × Pool.Move} (h : Consistent c)
    (ht : Turn c e pe t pending) (hs : c.pool.step? pe = some out) :
    Followed { c with pool := out.1, pending } t out.2
      (follow { c with pool := out.1, pending } t out.2) := by
  obtain ⟨habandon, hinvalidate, hrelease⟩ := ht.ne
  refine Client.followed (Pool.move_event ht.ticket habandon hinvalidate hrelease hs) ?_
  show 0 < pending.countP (·.ticket = t)
  rw [(h.turn ht hs).1, if_pos rfl]
  exact Nat.one_pos

/-- A client that follows what its pool does agrees with it afterwards. -/
theorem Consistent.of_followed {c : Client} {e : Event} {pe : Pool.Event} {t : Nat}
    {pending : List Pending} {out : Pool × Pool.Move} {next : Client × List Output}
    (h : Consistent c) (ht : Turn c e pe t pending) (hs : c.pool.step? pe = some out)
    (hf : Followed { c with pool := out.1, pending } t out.2 next) : Consistent next.1 := by
  have hsound := h.pool.event hs
  obtain ⟨hpending, -⟩ := h.turn ht hs
  have hleases := Pool.leases_event ht.ne.2.1 ht.ne.2.2 hs
  have hticket := ht.ticket
  have hturns := h.pool.waiting_event hs
  obtain ⟨q, move⟩ := out
  simp only [Pool.Turns, hticket, Option.some.injEq] at hturns
  simp only [Pool.granted, hticket] at hleases
  -- Only a grant brings a lease, and with it the call passes from the pending to the exchanges.
  cases hf with
  | park | connect | probe =>
    refine ⟨hsound, fun u => ?_, ?_⟩
    · rw [hpending, hturns]
      rfl
    · rw [hleases, List.append_nil]
      exact h.leases
  | @send call rest conn hx =>
    refine ⟨hsound, fun u => ?_, ?_⟩
    · have hcount := (countP_of_extract? hx (·.ticket = u)).symm.trans (hpending u)
      show rest.countP (·.ticket = u) = q.waiting u
      rw [hturns]
      by_cases hu : call.ticket = u
      · simp only [hu, decide_true, if_true, Pool.Move.goesOn, Bool.false_eq_true, if_false]
          at hcount ⊢
        omega
      · simpa [hu] using hcount
    · rw [begin, hleases, List.map_append]
      exact h.leases.append_right _
  | refuse =>
    refine ⟨hsound, fun u => ?_, ?_⟩
    · rw [countP_filter_ticket, hpending, hturns]
      split <;> rfl
    · rw [hleases, List.append_nil]
      exact h.leases

/-! ## The end of an exchange -/

section Settle

variable {c : Client} {f : Exchange → Bool} {x : Exchange} {rest : List Exchange}

/-- The lease of an exchange is the one that the pool finds under its ticket. -/
theorem Consistent.extract_lease (h : Consistent c)
    (hx : extract? f c.exchanging = some (x, rest)) :
    ∃ leases, extract? (·.ticket = x.ticket) c.pool.leases = some (x.lease, leases) ∧
      leases.Perm (rest.map Exchange.lease) ∧ ∀ l ∈ leases, l.ticket ≠ x.ticket := by
  have hperm := perm_of_extract? hx
  have hmem : x.lease ∈ c.pool.leases :=
    h.lease_mem (hperm.mem_iff.2 List.mem_cons_self)
  obtain ⟨⟨l, leases⟩, hl⟩ :
      ∃ taken, extract? (·.ticket = x.ticket) c.pool.leases = some taken := by
    refine Option.ne_none_iff_exists'.1 fun hnone => ?_
    have hno := extract?_eq_none.1 hnone _ hmem
    exact absurd rfl (of_decide_eq_false hno)
  have hticket : l.ticket = x.ticket := of_decide_eq_true (extract?_eq_some hl).1
  have hothers : ∀ k ∈ leases, k.ticket ≠ x.ticket := by
    intro k hk ht
    have hone := h.pool.standing x.ticket
    have hcount : c.pool.holding x.ticket = _ := countP_of_extract? hl _
    have hpos : 0 < leases.countP (·.ticket = x.ticket) :=
      List.countP_pos_iff.2 ⟨k, hk, decide_eq_true ht⟩
    simp only [hticket, decide_true, if_true] at hcount
    omega
  obtain rfl : x.lease = l := by
    rcases (mem_of_extract? hl).1 hmem with heq | hk
    · exact heq
    · exact absurd rfl (hothers _ hk)
  refine ⟨leases, hl, ?_, hothers⟩
  have htwo : (x.lease :: leases).Perm (x.lease :: rest.map Exchange.lease) :=
    (perm_of_extract? hl).symm.trans (h.leases.trans (hperm.map _))
  exact htwo.cons_inv

/-- **However an exchange ends, its lease ends with it, and its connection is given back.** A lease
that is marked first is still the only one under its ticket, so it is the one that is released. -/
theorem Consistent.settle_eq (h : Consistent c) (hx : extract? f c.exchanging = some (x, rest))
    (valid : Bool) : ∃ leases : List Lease, leases.Perm (rest.map Exchange.lease) ∧
      settle { c with exchanging := rest } x.ticket valid
        = { c with
            exchanging := rest
            pool := Pool.giveBack { c.pool with leases } x.conn (!valid) } ∧
      Pool.Sound (Pool.giveBack { c.pool with leases } x.conn (!valid)) {} := by
  obtain ⟨leases, hl, hperm, hothers⟩ := h.extract_lease hx
  refine ⟨leases, hperm, ?_, (h.pool.takeLease hl).giveBack.forget⟩
  have hrelease : c.pool.step? (.release x.ticket)
      = some (Pool.giveBack { c.pool with leases } x.conn false, .rest) := by
    simp only [Pool.step?, hl]
    rfl
  cases valid with
  | true => simp [settle, hrelease]
  | false =>
    have hmark : c.pool.step? (.invalidate x.ticket)
        = some ({ c.pool with leases := leases ++ [⟨x.ticket, x.conn, true⟩] }, .rest) := by
      simp only [Pool.step?, hl]
      rfl
    have hmarked : Pool.step? { c.pool with leases := leases ++ [⟨x.ticket, x.conn, true⟩] }
        (.release x.ticket)
        = some (Pool.giveBack { c.pool with leases } x.conn true, .rest) := by
      simp only [Pool.step?]
      rw [extract?_concat (fun k hk => decide_eq_false (hothers k hk)) (decide_eq_true rfl)]
      rfl
    simp [settle, hmark, hmarked]

theorem Consistent.settle (h : Consistent c) (hx : extract? f c.exchanging = some (x, rest))
    (valid : Bool) : Consistent (settle { c with exchanging := rest } x.ticket valid) := by
  obtain ⟨leases, hperm, heq, hsound⟩ := h.settle_eq hx valid
  rw [heq]
  refine ⟨hsound, fun t => ?_, ?_⟩
  · rw [Pool.waiting_giveBack]
    exact h.pending t
  · rw [(Pool.untouched_giveBack _ _ _).leases]
    exact hperm

end Settle

/-! ## Events and runs -/

/-- **Every event keeps client and pool in agreement.** -/
theorem Consistent.event {c : Client} {e : Event} {out : Client × List Output} (h : Consistent c)
    (hs : c.step? e = some out) : Consistent out.1 := by
  cases happens hs with
  | turn ht hp => exact h.of_followed ht hp (h.followed ht hp)
  | @quiet pe next ht hp =>
    have hleases := Pool.leases_event (by rintro t rfl; cases ht) (by rintro t rfl; cases ht) hp
    have hturns := h.pool.waiting_event hp
    simp only [Pool.Turns, ht] at hturns
    simp only [Pool.granted, ht, List.append_nil] at hleases
    refine ⟨h.pool.event hp, fun t => ?_, ?_⟩
    · rw [h.pending, hturns]
      rfl
    · rw [hleases]
      exact h.leases
  | ended ending hx => exact h.settle hx _
  | @abandon t q hp =>
    have hleases : q.leases = c.pool.leases ++ [] :=
      Pool.leases_event (by intro u hu; cases hu) (by intro u hu; cases hu) hp
    have hturns (u : Nat) : q.waiting u = if t = u then 0 else c.pool.waiting u := by
      have hu := h.pool.waiting_event hp u
      simpa only [Pool.Turns, Pool.Event.ticket?, Option.some.injEq, Pool.Move.goesOn,
        Bool.false_eq_true, if_false] using hu
    refine ⟨h.pool.event hp, fun u => ?_, ?_⟩
    · rw [countP_filter_ticket, h.pending, hturns]
    · rw [hleases, List.append_nil]
      exact h.leases

/-- What the end of an exchange does: its lease is gone, and its connection has been given back. -/
structure Ended (c : Client) (x : Exchange) (ending : Ending) (out : Client × List Output) :
    Prop where
  taken : c.exchanging.Perm (x :: out.1.exchanging)
  next : out.1.nextId = c.nextId
  outputs : out.2 = c.farewell x ending
  returned : ∃ leases, c.pool.leases.Perm (x.lease :: leases) ∧
    out.1.pool = Pool.giveBack { c.pool with leases } x.conn (!ending.correlated x.request)

theorem Consistent.ended {c : Client} {f : Exchange → Bool} {x : Exchange}
    {rest : List Exchange} (h : Consistent c) (hx : extract? f c.exchanging = some (x, rest))
    (ending : Ending) :
    Ended c x ending
      (Client.settle { c with exchanging := rest } x.ticket (ending.correlated x.request),
        c.farewell x ending) := by
  have htaken := perm_of_extract? hx
  obtain ⟨leases, hleases, heq, -⟩ := h.settle_eq hx (ending.correlated x.request)
  refine ⟨htaken, rfl, rfl, leases, ?_, congrArg Client.pool heq⟩
  exact (h.leases.trans (htaken.map _)).trans (hleases.symm.cons _)

/-- An exchange is found by any test that only exchanges under its ticket pass. -/
theorem Consistent.extract_exchange {c : Client} {f : Exchange → Bool} {x : Exchange}
    (h : Consistent c) (hx : x ∈ c.exchanging) (hf : f x = true)
    (ht : ∀ y, f y = true → y.ticket = x.ticket) :
    ∃ rest, extract? f c.exchanging = some (x, rest) := by
  cases htaken : extract? f c.exchanging with
  | none => exact absurd hf (Bool.eq_false_iff.1 (extract?_eq_none.1 htaken x hx))
  | some taken =>
    obtain ⟨y, rest⟩ := taken
    have hy : y.ticket = x.ticket := ht y (extract?_eq_some htaken).1
    rcases (mem_of_extract? htaken).1 hx with rfl | hrest
    · exact ⟨rest, rfl⟩
    · exact absurd hy.symm (h.exchange_unique (perm_of_extract? htaken) hrest)

/-- An exchange can end in every way at any time, but at its time limit only once that has come. -/
theorem Consistent.can_end {c : Client} {x : Exchange} (h : Consistent c) (hx : x ∈ c.exchanging)
    (ending : Ending) (due : ending = .expired → x.deadline ≤ c.pool.now) :
    ∃ out, c.step? (ending.event x.ticket) = some out ∧ Ended c x ending out := by
  cases ending with
  | replied reply =>
    obtain ⟨rest, hrest⟩ := h.extract_exchange (f := (·.ticket = x.ticket)) hx
      (decide_eq_true rfl) fun y hy => of_decide_eq_true hy
    refine ⟨_, ?_, h.ended hrest (.replied reply)⟩
    rw [farewell, (conclude_eq _ _ _).1, (conclude_eq _ _ 0).2]
    exact Option.map_eq_some_iff.2 ⟨_, hrest, rfl⟩
  | expired =>
    obtain ⟨rest, hrest⟩ := h.extract_exchange hx
      (f := fun y => y.ticket = x.ticket && y.deadline ≤ c.pool.now) (by simpa using due rfl)
      (by simp +contextual)
    refine ⟨_, ?_, h.ended hrest .expired⟩
    exact Option.map_eq_some_iff.2 ⟨_, hrest, rfl⟩
  | dropped =>
    obtain ⟨rest, hrest⟩ := h.extract_exchange (f := (·.ticket = x.ticket)) hx
      (decide_eq_true rfl) fun y hy => of_decide_eq_true hy
    refine ⟨_, ?_, h.ended hrest .dropped⟩
    simp only [Ending.event, step?, hrest]
    rfl

/-- What an event does to the exchanges, and what it puts out. -/
inductive Effect (c : Client) (e : Event) (out : Client × List Output) : Prop
  /-- A call sends its request under the next id and waits for the reply. -/
  | sent (x : Exchange) (after : out.1.exchanging = c.exchanging ++ [x])
      (id : x.request.id = c.nextId) (next : out.1.nextId = c.nextId + 1)
      (outputs : out.2 = [.send x.ticket x.conn x.request])
  /-- An exchange ends. -/
  | ended (x : Exchange) (ending : Ending) (event : e = ending.event x.ticket)
      (ended : Ended c x ending out)
  /-- No exchange begins or ends, and nobody is told more than that no connection is to be had. -/
  | aside (after : out.1.exchanging = c.exchanging) (next : out.1.nextId = c.nextId)
      (silent : ∀ t conn request, Output.send t conn request ∉ out.2)
      (refusals : ∀ t outcome, Output.answer t outcome ∈ out.2 →
        (∃ error, outcome = .error (.pool error)) ∧ ∀ x ∈ c.exchanging, x.ticket ≠ t)

/-- **An event has one of these effects.** -/
theorem Consistent.effect {c : Client} {e : Event} {out : Client × List Output} (h : Consistent c)
    (hs : c.step? e = some out) : Effect c e out := by
  cases happens hs with
  | @turn _ pe t pending next ht hp =>
    have hf := h.followed ht hp
    obtain ⟨q, move⟩ := next
    generalize follow _ t (q, move).2 = out at hf
    cases hf with
    | park => exact .aside rfl rfl (by simp) (by simp)
    | connect => exact .aside rfl rfl (by simp) (by simp)
    | probe => exact .aside rfl rfl (by simp) (by simp)
    | send hx => exact .sent _ rfl rfl rfl rfl
    | @refuse _ error =>
      refine .aside rfl rfl (by simp) fun u outcome hu => ?_
      cases List.mem_singleton.1 hu
      exact ⟨⟨error, rfl⟩, h.ticket_ne (h.turn ht hp).2⟩
  | quiet => exact .aside rfl rfl (by simp) (by simp)
  | ended ending hx => exact .ended _ ending rfl (h.ended hx ending)
  | abandon => exact .aside rfl rfl (by simp) (by simp)

/-- Whoever is told anything has an exchange that ends, or has got no connection. -/
theorem Consistent.told {c : Client} {e : Event} {out : Client × List Output} {t : Nat}
    {outcome : Except RpcError Json} (h : Consistent c) (hs : c.step? e = some out)
    (ht : .answer t outcome ∈ out.2) :
    (∃ error, outcome = .error (.pool error)) ∨
      ∃ x ending, x.ticket = t ∧ e = ending.event x.ticket ∧ Ended c x ending out ∧
        ending.outcome? c.callTimeout x.request = some outcome := by
  cases h.effect hs with
  | sent x _ _ _ outputs =>
    rw [outputs] at ht
    cases List.mem_singleton.1 ht
  | aside _ _ _ refusals => exact .inl (refusals t outcome ht).1
  | ended x ending event ended =>
    rw [ended.outputs] at ht
    obtain ⟨_, hout, heq⟩ := mem_farewell.1 ht
    obtain ⟨rfl, rfl⟩ := Output.answer.inj heq
    exact .inr ⟨x, ending, rfl, event, ended, hout⟩

/-- What has happened to a client, in its order. -/
abbrev Moments := List (Moment Client Event (List Output))

/-- The clock moves on. -/
def Ticks (c d : Client) : Prop :=
  ∃ time, c.pool.now ≤ time ∧ d = { c with pool := { c.pool with now := time } }

/-- A run of a client with its moments. The clock waits for nobody. -/
abbrev Traced : Client → Moments → Client → Prop := Trace step? Ticks

theorem Consistent.ticks {c d : Client} (h : Consistent c) (ht : Ticks c d) : Consistent d := by
  obtain ⟨time, -, rfl⟩ := ht
  exact ⟨h.pool.retime _ _ _, h.pending, h.leases⟩

theorem Consistent.run {c d : Client} {ms : Moments}
    (h : Consistent c) (run : Traced c ms d) : Consistent d :=
  run.keeps (I := fun _ d => Consistent d) h (fun h hs => h.event hs) (fun h ht => h.ticks ht)

/-- **What every moment keeps and the clock does not touch holds all along a run**, where a moment
may count on client and pool to agree. -/
theorem Consistent.keeps {c d : Client} {ms : Moments}
    {I : Moments → Client → Prop} (h : Consistent c) (start : I [] c)
    (moment : ∀ {ms m}, Consistent m.before → I ms m.before →
      m.before.step? m.event = some (m.after, m.output) → I (ms ++ [m]) m.after)
    (clock : ∀ {ms c} time, I ms c → I ms { c with pool := { c.pool with now := time } })
    (run : Traced c ms d) : I ms d := by
  have hall : Consistent d ∧ I ms d := by
    refine run.keeps (I := fun ms d => Consistent d ∧ I ms d) ⟨h, start⟩ ?_ ?_
    · rintro ms m ⟨hc, hi⟩ hs
      exact ⟨hc.event hs, moment hc hi hs⟩
    · rintro ms c d ⟨hc, hi⟩ ht
      refine ⟨hc.ticks ht, ?_⟩
      obtain ⟨time, -, rfl⟩ := ht
      exact clock time hi
  exact hall.2

/-- The runs of a client over a new pool with some limits. -/
def Runs (config : PoolConfig) (callTimeout : Nat) (firstId : UInt64)
    (ms : Moments) (c : Client) : Prop :=
  ∃ pool, Pool.ofConfig config = .ok pool ∧ Traced (fresh pool callTimeout firstId) ms c

theorem consistent_of_runs {config : PoolConfig} {callTimeout : Nat} {firstId : UInt64}
    {ms : Moments} {c : Client} (run : Runs config callTimeout firstId ms c) : Consistent c := by
  obtain ⟨pool, hpool, run⟩ := run
  obtain ⟨rfl, _⟩ := Pool.ofConfig_eq_ok hpool
  exact (Consistent.fresh config callTimeout firstId).run run

/-- A run can be cut at each of its moments. -/
theorem Runs.cut {config : PoolConfig} {callTimeout : Nat} {firstId : UInt64}
    {earlier later : Moments} {m : Moment Client Event (List Output)} {c : Client}
    (run : Runs config callTimeout firstId (earlier ++ m :: later) c) :
    Runs config callTimeout firstId earlier m.before ∧
      m.before.step? m.event = some (m.after, m.output) ∧ Traced m.after later c := by
  obtain ⟨pool, hpool, run⟩ := run
  obtain ⟨first, hs, rest⟩ := run.cut
  exact ⟨⟨pool, hpool, first⟩, hs, rest⟩

end Client
end Rpc
end ChainExplorer
