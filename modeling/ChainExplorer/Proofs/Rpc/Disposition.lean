import ChainExplorer.Proofs.Rpc.Run
import ChainExplorer.Rpc.Query

/-!
# What becomes of the connection of a call

A call holds its lease for one exchange, and an exchange ends in one of a few ways: with a reply,
with a failure, at its time limit, or because the caller goes away. Each of them can happen at any
time and ends the lease (`Ends`); nothing else does, and nothing else answers the call (`Stands`).

What becomes of the connection depends on one bit, whether a reply with the id of the request has
arrived (`Ending.correlated`). If so the connection is kept, where the pool still wants it; if not
it is shed. What the reply says makes no difference, and neither does what the caller makes of it.
So the caller can read the bit off the outcome: a transport error is told exactly where the
connection was shed for the way in which the exchange ended.
-/

namespace ChainExplorer
namespace Rpc

open Client

/-! ## What becomes of a connection that is given back -/

/-- A connection has joined the idle ones. -/
structure Kept (p q : Pool) (conn : Nat) : Prop where
  idle : q.idle = p.idle ++ [⟨conn, p.now⟩]
  opened : q.opened = p.opened
  torn : q.torn = p.torn

/-- A connection has been torn down, and there is one connection less. -/
structure Shed (p q : Pool) (conn : Nat) : Prop where
  idle : q.idle = p.idle
  opened : q.opened + 1 = p.opened
  torn : q.torn = p.torn ++ [conn]

/-- Whether a pool keeps a good connection that comes back. -/
def Wanted (p : Pool) : Prop := p.closed = false ∧ p.idle.length < p.config.maxIdle

section GiveBack

variable {p : Pool} {leases : List Lease} {conn : Nat} {invalid : Bool}

theorem kept_of_giveBack (hw : Wanted p) :
    Kept p (Pool.giveBack { p with leases } conn false) conn := by
  obtain ⟨hopen, hroom⟩ := hw
  have hkeep : (p.closed || false || decide (p.config.maxIdle ≤ p.idle.length)) = false := by
    rw [hopen, decide_eq_false (Nat.not_le_of_lt hroom)]
    rfl
  simp only [Pool.giveBack, hkeep, Bool.false_eq_true, if_false, Pool.wakeOne_eq]
  exact ⟨rfl, rfl, rfl⟩

theorem shed_of_giveBack (counted : 0 < p.opened) (hw : invalid = true ∨ ¬ Wanted p) :
    Shed p (Pool.giveBack { p with leases } conn invalid) conn := by
  have hshed : (p.closed || invalid || decide (p.config.maxIdle ≤ p.idle.length)) = true := by
    rcases hw with rfl | hw
    · rw [Bool.or_true, Bool.true_or]
    · rcases Bool.eq_false_or_eq_true p.closed with hc | hc
      · rw [hc, Bool.true_or, Bool.true_or]
      · have hfull : p.config.maxIdle ≤ p.idle.length :=
          Nat.le_of_not_lt fun hroom => hw ⟨hc, hroom⟩
        rw [decide_eq_true hfull, Bool.or_true]
  simp only [Pool.giveBack, hshed, if_true, Pool.wakeOne_eq]
  exact ⟨rfl, Nat.sub_add_cancel counted, rfl⟩

end GiveBack

theorem opened_pos {p : Pool} {l : Lease} (h : Pool.Sound p {}) (hl : l ∈ p.leases) :
    0 < p.opened := by
  have hcount := h.count
  have hpos : 0 < p.leases.length := List.length_pos_of_mem hl
  omega

/-! ## What a moment does to an exchange -/

/-- An exchange goes on: it keeps its lease, and its caller is told nothing. -/
structure Stands (x : Exchange) (m : Moment Client Event (List Output)) : Prop where
  before : x ∈ m.before.exchanging
  after : x ∈ m.after.exchanging
  lease : x.lease ∈ m.after.pool.leases
  silent : ∀ outcome, Output.answer x.ticket outcome ∉ m.output

/-- An exchange ends, and its lease with it. Its connection is kept exactly where a reply with the
id of the request has arrived and the pool wants the connection. -/
structure Ends (x : Exchange) (ending : Ending) (m : Moment Client Event (List Output)) : Prop where
  event : m.event = ending.event x.ticket
  exchange : m.before.exchanging.Perm (x :: m.after.exchanging)
  lease : m.before.pool.leases.Perm (x.lease :: m.after.pool.leases)
  outputs : m.output = m.before.farewell x ending
  kept : ending.correlated x.request = true → Wanted m.before.pool →
    Kept m.before.pool m.after.pool x.conn
  shed : ending.correlated x.request = false ∨ ¬ Wanted m.before.pool →
    Shed m.before.pool m.after.pool x.conn

theorem ends_of_ended {m : Moment Client Event (List Output)} {x : Exchange} {ending : Ending}
    (h : Consistent m.before) (event : m.event = ending.event x.ticket)
    (ended : Ended m.before x ending (m.after, m.output)) : Ends x ending m := by
  obtain ⟨leases, hleases, hpool⟩ := ended.returned
  have hpool : m.after.pool = _ := hpool
  have counted : 0 < m.before.pool.opened :=
    opened_pos h.pool (hleases.mem_iff.2 List.mem_cons_self)
  refine ⟨event, ended.taken, ?_, ended.outputs, fun hid hw => ?_, fun hlost => ?_⟩
  · rw [hpool, (Pool.untouched_giveBack _ _ _).leases]
    exact hleases
  · rw [hpool, hid]
    exact kept_of_giveBack hw
  · rw [hpool]
    refine shed_of_giveBack counted (hlost.imp_left fun hid => ?_)
    rw [hid]
    rfl

/-- **A moment lets an exchange stand or ends it.** -/
theorem stands_or_ends {m : Moment Client Event (List Output)} {x : Exchange}
    (h : Consistent m.before) (hx : x ∈ m.before.exchanging)
    (hs : m.before.step? m.event = some (m.after, m.output)) :
    Stands x m ∨ ∃ ending, Ends x ending m := by
  have hafter : Consistent m.after := h.event hs
  have stands (hmem : x ∈ m.after.exchanging)
      (silent : ∀ outcome, Output.answer x.ticket outcome ∉ m.output) : Stands x m :=
    ⟨hx, hmem, hafter.lease_mem hmem, silent⟩
  cases h.effect hs with
  | sent y after _ _ outputs =>
    refine .inl (stands (after ▸ List.mem_append_left _ hx) fun outcome hanswer => ?_)
    rw [show m.output = _ from outputs] at hanswer
    cases List.mem_singleton.1 hanswer
  | aside after _ _ refusals =>
    refine .inl (stands (after ▸ hx) fun outcome hanswer => ?_)
    exact (refusals _ outcome hanswer).2 x hx rfl
  | ended y ending event ended =>
    -- It is this exchange that ends, or another one, and then under another ticket.
    rcases List.mem_cons.1 (ended.taken.mem_iff.1 hx) with rfl | hmem
    · exact .inr ⟨ending, ends_of_ended h event ended⟩
    · refine .inl (stands hmem fun outcome hanswer => ?_)
      rw [show m.output = _ from ended.outputs] at hanswer
      obtain ⟨_, -, heq⟩ := mem_farewell.1 hanswer
      exact h.exchange_unique ended.taken hmem (Output.answer.inj heq).1

/-- Through some moments an exchange stands, or it stands until one of them ends it. -/
def Fate (x : Exchange) (ms : Moments) (c : Client) : Prop :=
  (x ∈ c.exchanging ∧ ∀ m ∈ ms, Stands x m) ∨
    ∃ earlier m later ending, ms = earlier ++ m :: later ∧ (∀ n ∈ earlier, Stands x n) ∧
      Ends x ending m

theorem fate_of_run {c d : Client} {ms : Moments} {x : Exchange}
    (h : Consistent c) (hx : x ∈ c.exchanging) (run : Traced c ms d) : Fate x ms d := by
  refine h.keeps (I := Fate x) ?_ ?_ (fun _ hfate => hfate) run
  · exact .inl ⟨hx, List.forall_mem_nil _⟩
  · intro ms m hc hfate hs
    rcases hfate with ⟨hmem, hstands⟩ | ⟨earlier, n, later, ending, rfl, hstands, hends⟩
    · rcases stands_or_ends hc hmem hs with hstand | ⟨ending, hends⟩
      · have hmore : ∀ n ∈ ms ++ [m], Stands x n :=
          List.forall_mem_append.2 ⟨hstands, List.forall_mem_singleton.2 hstand⟩
        exact .inl ⟨hstand.after, hmore⟩
      · exact .inr ⟨ms, m, [], ending, rfl, hstands, hends⟩
    · exact .inr ⟨earlier, n, later ++ [m], ending, by simp, hstands, hends⟩

/-! ## What the caller can tell -/

theorem ofReply_outcome (reply : Reply) : ofReply reply.outcome := by
  unfold Reply.outcome
  split
  · unfold RpcError.ofJson
    repeat' split
    all_goals exact trivial
  · exact trivial

/-- A caller is told what a reply says, or of a transport error, and it is the one exactly where a
reply with the id of the request has arrived. -/
theorem outcome_cases {callTimeout : Nat} {request : Request} {ending : Ending}
    {outcome : Except RpcError Json} (h : ending.outcome? callTimeout request = some outcome) :
    (ofReply outcome ∧ ending.correlated request = true) ∨
      ((∃ error, outcome = .error (.transport error)) ∧ ending.correlated request = false) := by
  cases ending with
  | replied reply =>
    cases reply with
    | error error =>
      obtain rfl := Option.some.inj h
      exact .inr ⟨⟨error, rfl⟩, rfl⟩
    | ok reply =>
      obtain rfl : reply.answerTo request.id = outcome := Option.some.inj h
      unfold Reply.answerTo
      split
      · rename_i hid
        exact .inl ⟨ofReply_outcome reply, decide_eq_true hid⟩
      · rename_i hid
        exact .inr ⟨⟨_, rfl⟩, decide_eq_false hid⟩
  | expired =>
    obtain rfl := Option.some.inj h
    exact .inr ⟨⟨_, rfl⟩, rfl⟩
  | dropped => cases h

section DecodeAs

variable {α : Type} {method : String} {shape : Shape α} {outcome : Except RpcError Json}

/-- What a caller makes of a reply is of a reply still. -/
theorem ofReply_decodeAs : ofReply (decodeAs method shape outcome) ↔ ofReply outcome := by
  cases outcome with
  | error error => cases error <;> exact Iff.rfl
  | ok value =>
    refine ⟨fun _ => trivial, fun _ => ?_⟩
    cases hvalue : shape value <;> simp only [decodeAs, Except.bind, hvalue, ofReply]

theorem transport_decodeAs {error : TransportError} :
    decodeAs method shape outcome = .error (.transport error) ↔
      outcome = .error (.transport error) := by
  cases outcome with
  | error cause =>
    refine ⟨fun h => ?_, fun h => ?_⟩
    · exact congrArg Except.error (Except.error.inj h)
    · exact congrArg Except.error (Except.error.inj h)
  | ok value =>
    refine ⟨fun h => ?_, nofun⟩
    have hreply : ofReply (decodeAs method shape (.ok value)) := ofReply_decodeAs.2 trivial
    rw [h] at hreply
    cases hreply

end DecodeAs

/-- **The lease of a call ends with its exchange, and its connection is kept exactly where a reply
with the id of the request has arrived.** In every run of a client:

* the leases are those of the exchanges, each of one;
* an exchange can end in every way at any time, at its limit once that has come, and then its lease
  is gone, and its connection is kept or shed as `Ends` says;
* whoever has a lease holds it until a moment that ends the exchange, and is told nothing before;
* whoever is told of a transport error, whatever type the result was to be read as, has had the
  connection shed, and whoever is told what a reply says, or that it cannot be read, has not lost
  it by that. -/
theorem lease_ends_with_call {config : PoolConfig} {callTimeout : Nat} {firstId : UInt64}
    {ms : Moments} {c : Client} (run : Runs config callTimeout firstId ms c) :
    c.pool.leases.Perm (c.exchanging.map Exchange.lease) ∧
    (∀ x ∈ c.exchanging, ∀ ending : Ending, (ending = .expired → x.deadline ≤ c.pool.now) →
      ∃ out, c.step? (ending.event x.ticket) = some out ∧
        Ends x ending ⟨c, ending.event x.ticket, out.2, out.1⟩) ∧
    (∀ earlier m later, ms = earlier ++ m :: later → ∀ x ∈ m.after.exchanging, Fate x later c) ∧
    (∀ m ∈ ms, ∀ t outcome, Output.answer t outcome ∈ m.output →
      ∀ (α : Type) (method : String) (shape : Shape α),
        ((∃ error, decodeAs method shape outcome = .error (.transport error)) →
          ∃ x ending, x.ticket = t ∧ Ends x ending m ∧
            Shed m.before.pool m.after.pool x.conn) ∧
        (ofReply (decodeAs method shape outcome) →
          ∃ x ending, x.ticket = t ∧ Ends x ending m ∧
            ending.correlated x.request = true)) := by
  have hc := consistent_of_runs run
  refine ⟨hc.leases, fun x hx ending due => ?_, ?_, ?_⟩
  · obtain ⟨out, hs, ended⟩ := hc.can_end hx ending due
    exact ⟨out, hs, ends_of_ended hc rfl ended⟩
  · rintro earlier m later rfl x hx
    obtain ⟨first, hs, rest⟩ := run.cut
    exact fate_of_run ((consistent_of_runs first).event hs) hx rest
  · intro m hmem t outcome hanswer α method shape
    obtain ⟨earlier, later, rfl⟩ := List.append_of_mem hmem
    obtain ⟨first, hs, _⟩ := run.cut
    have hm := consistent_of_runs first
    rw [ofReply_decodeAs]
    simp only [transport_decodeAs]
    rcases hm.told hs hanswer with ⟨cause, rfl⟩ | ⟨x, ending, rfl, event, ended, hout⟩
    · -- Who has got no connection is told of neither.
      exact ⟨nofun, nofun⟩
    · have hends := ends_of_ended hm event ended
      rcases outcome_cases hout with ⟨hreply, hid⟩ | ⟨⟨error, rfl⟩, hid⟩
      · refine ⟨?_, fun _ => ⟨x, ending, rfl, hends, hid⟩⟩
        rintro ⟨error, rfl⟩
        cases hreply
      · exact ⟨fun _ => ⟨x, ending, rfl, hends, hends.shed (.inl hid)⟩, nofun⟩

/-- Two calls run at once. The server answers the first with an error, and the caller of the second
goes away. -/
def parting : List Event :=
  [.call 0 "a" [], .call 1 "b" [], .pool (.connected 0), .pool (.connected 1),
    .replied 0 (.ok ⟨.int 7, none, some (.string "no")⟩), .drop 1]

/-- The moments of that run, and the client after it. -/
def parted : Moments × Client :=
  let start := fresh (Pool.fresh {}) 5 7
  (Trace.retrace? step? start parting).getD ([], start)

/-- The connection on which the error came is idle, and the other is torn down. -/
theorem lease_ends_with_call_parting : ∃ ms c, Runs {} 5 7 ms c ∧
    c.pool.idle.map (·.conn) = [0] ∧ c.pool.torn = [1] ∧ c.pool.leases = [] ∧
    (∃ m ∈ ms, ∃ x ending, x.ticket = 0 ∧ Ends x ending m ∧
      ending.correlated x.request = true) ∧
    ∃ m ∈ ms, ∃ x ending, x.ticket = 1 ∧ Ends x ending m := by
  have retraced : Trace.retrace? step? (fresh (Pool.fresh {}) 5 7) parting
      = some (parted.1, parted.2) := rfl
  have run : Runs {} 5 7 parted.1 parted.2 := ⟨_, rfl, Trace.of_retrace? retraced⟩
  have leases : parted.2.pool.leases = [] := rfl
  obtain ⟨m, hm, hout⟩ : ∃ m ∈ parted.1, m.output = [.answer 0 (.error (.server 0 "no"))] :=
    ⟨_, List.mem_of_getElem? (i := 4) rfl, rfl⟩
  obtain ⟨n, hn, hx⟩ : ∃ n, parted.1 = parted.1.take 3 ++ n :: parted.1.drop 4 ∧
      n.after.exchanging.getLast? = some ⟨1, 1, ⟨8, "b", []⟩, 5⟩ := ⟨_, rfl, rfl⟩
  obtain ⟨-, -, fates, answers⟩ := lease_ends_with_call run
  have answered := (answers m hm 0 (.error (.server 0 "no")) (hout ▸ List.mem_cons_self) Json ""
    some).2 trivial
  refine ⟨_, _, run, rfl, rfl, leases, ⟨m, hm, answered⟩, ?_⟩
  rcases fates _ n _ hn _ (List.mem_of_getLast? hx) with
    ⟨hmem, -⟩ | ⟨earlier, k, later, ending, heq, -, hends⟩
  · cases hmem
  · have hk : k ∈ parted.1.drop 4 := heq ▸ List.mem_append_right _ List.mem_cons_self
    exact ⟨k, List.mem_of_mem_drop hk, _, ending, rfl, hends⟩

end Rpc
end ChainExplorer
