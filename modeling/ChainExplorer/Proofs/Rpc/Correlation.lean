import ChainExplorer.Proofs.Rpc.Run
import Mathlib.Data.List.Nodup

/-!
# Which reply a call returns

Connections pass from call to call, and nothing is assumed of what arrives on them: a reply may be
late, doubled, out of order, or meant for a probe. What keeps the calls apart is the id alone. A
request takes the next number of the client, so the ids are a stretch of words from the first
(`Numbered`) and no two of them agree before the words have run round. An exchange stands from the
moment that sent its request to the moment that ends it (`Awaits`). So whoever returns what a reply
says has seen the id of the very request it sent, and the reply carries no other id.
-/

namespace ChainExplorer
namespace Rpc

namespace Client

/-! ## What is sent -/

def Output.request? : Output → Option Request
  | .send _ _ request => some request
  | _ => none

/-- The requests that were sent, in their order. -/
def requests (ms : Moments) : List Request :=
  ms.flatMap fun m => m.output.filterMap Output.request?

def Event.isCall : Event → Bool
  | .call _ _ _ => true
  | _ => false

/-- How many calls were made. -/
def calls (ms : Moments) : Nat := ms.countP (·.event.isCall)

section Requests

variable {ms ns : Moments} {m : Moment Client Event (List Output)}

theorem requests_append : requests (ms ++ ns) = requests ms ++ requests ns :=
  List.flatMap_append

theorem requests_cons_sent {x : Exchange} (hm : m.output = [.send x.ticket x.conn x.request]) :
    requests (m :: ns) = x.request :: requests ns := by
  rw [requests, List.flatMap_cons, hm]
  rfl

theorem filterMap_silent {outputs : List Output}
    (h : ∀ t conn request, Output.send t conn request ∉ outputs) :
    outputs.filterMap Output.request? = [] := by
  refine List.filterMap_eq_nil_iff.2 fun o ho => ?_
  cases o with
  | send t conn request => exact absurd ho (h t conn request)
  | connect | probe | answer => rfl

theorem requests_cons_silent (hm : ∀ t conn request, Output.send t conn request ∉ m.output) :
    requests (m :: ns) = requests ns := by
  rw [requests, List.flatMap_cons, filterMap_silent hm]
  rfl

end Requests

theorem farewell_silent (c : Client) (x : Exchange) (ending : Ending) (t conn : Nat)
    (request : Request) : Output.send t conn request ∉ c.farewell x ending := by
  intro hsend
  obtain ⟨outcome, -, heq⟩ := mem_farewell.1 hsend
  cases heq

/-- A request takes a call off the pending ones, and only a call joins them. -/
theorem Consistent.backlog {c : Client} {e : Event} {out : Client × List Output}
    (h : Consistent c) (hs : c.step? e = some out) :
    (out.2.filterMap Output.request?).length + out.1.pending.length
      ≤ c.pending.length + if e.isCall then 1 else 0 := by
  cases happens hs with
  | @turn _ pe t pending next ht hp =>
    have hjoin : pending.length ≤ c.pending.length + if e.isCall then 1 else 0 := by
      cases ht with
      | call => exact Nat.le_of_eq List.length_append
      | pool => exact Nat.le_add_right _ _
    refine Nat.le_trans ?_ hjoin
    have hf := h.followed ht hp
    obtain ⟨q, move⟩ := next
    generalize follow _ t (q, move).2 = out at hf
    cases hf with
    | park | connect | probe => exact Nat.le_of_eq (Nat.zero_add _)
    | send hx =>
      rw [length_of_extract? hx, Nat.add_comm]
      exact Nat.le_refl _
    | refuse =>
      rw [Nat.add_comm]
      exact List.length_filter_le _ _
  | quiet => exact Nat.le_of_eq (Nat.zero_add _)
  | @ended _ x _ ending =>
    rw [filterMap_silent (farewell_silent c x ending), List.length_nil, Nat.zero_add]
    exact Nat.le_add_right _ _
  | abandon =>
    rw [List.filterMap_nil, List.length_nil, Nat.zero_add]
    exact List.length_filter_le _ _

/-! ## Numbers -/

/-- The ids so far are a stretch of words, and the next one comes after them. -/
structure Numbered (firstId : UInt64) (ms : Moments) (c : Client) : Prop where
  ids : (requests ms).map (·.id)
    = (List.range (requests ms).length).map fun k => firstId + UInt64.ofNat k
  next : c.nextId = firstId + UInt64.ofNat (requests ms).length

theorem Numbered.silent {firstId : UInt64} {ms : Moments}
    {m : Moment Client Event (List Output)} {c : Client} (h : Numbered firstId ms c)
    (hm : ∀ t conn request, Output.send t conn request ∉ m.output)
    (hnext : m.after.nextId = c.nextId) : Numbered firstId (ms ++ [m]) m.after := by
  have hsame : requests (ms ++ [m]) = requests ms := by
    rw [requests_append, requests_cons_silent hm]
    exact List.append_nil _
  exact ⟨hsame ▸ h.ids, by rw [hsame, hnext, h.next]⟩

theorem numbered_of_traced {config : PoolConfig} {callTimeout : Nat} {firstId : UInt64}
    {ms : Moments} {c : Client}
    (run : Traced (fresh (Pool.fresh config) callTimeout firstId) ms c) :
    Numbered firstId ms c := by
  refine (Consistent.fresh config callTimeout firstId).keeps (I := Numbered firstId) ?_ ?_ ?_ run
  · exact ⟨rfl, (UInt64.add_zero firstId).symm⟩
  · intro ms m hc h hs
    cases hc.effect hs with
    | sent x _ id next outputs =>
      -- The stretch grows by the word that was next.
      have hmore : requests (ms ++ [m]) = requests ms ++ [x.request] := by
        rw [requests_append, requests_cons_sent outputs]
        rfl
      refine ⟨?_, ?_⟩
      · rw [hmore, List.map_append, List.length_append, List.length_singleton, List.range_succ,
          List.map_append, h.ids, List.map_singleton, List.map_singleton, id, h.next]
      · rw [hmore, List.length_append, List.length_singleton, next, h.next, UInt64.ofNat_add,
          UInt64.add_assoc]
        rfl
    | ended x ending _ ended =>
      refine h.silent (fun t conn request hsend => ?_) ended.next
      rw [show m.output = _ from ended.outputs] at hsend
      exact farewell_silent _ x ending t conn request hsend
    | aside _ next silent _ => exact h.silent silent next
  · exact fun _ h => ⟨h.ids, h.next⟩

/-- Ids differ until the words have run round. -/
theorem Numbered.nodup {firstId : UInt64} {ms : Moments}
    {c : Client} (h : Numbered firstId ms c) (few : (requests ms).length ≤ UInt64.size) :
    ((requests ms).map (·.id)).Nodup := by
  rw [h.ids]
  refine List.Nodup.map_on (fun i hi j hj heq => ?_) List.nodup_range
  rw [List.mem_range] at hi hj
  have hofNat : UInt64.ofNat i = UInt64.ofNat j := by
    simpa using heq
  have hnat := congrArg UInt64.toNat hofNat
  rwa [UInt64.toNat_ofNat_of_lt' (Nat.lt_of_lt_of_le hi few),
    UInt64.toNat_ofNat_of_lt' (Nat.lt_of_lt_of_le hj few)] at hnat

theorem requests_le_calls {config : PoolConfig} {callTimeout : Nat} {firstId : UInt64}
    {ms : Moments} {c : Client}
    (run : Traced (fresh (Pool.fresh config) callTimeout firstId) ms c) :
    (requests ms).length ≤ calls ms := by
  have hall : (requests ms).length + c.pending.length ≤ calls ms := by
    refine (Consistent.fresh config callTimeout firstId).keeps
      (I := fun ms c => (requests ms).length + c.pending.length ≤ calls ms) (Nat.le_refl 0) ?_
      (fun _ h => h) run
    intro ms m hc h hs
    have hback := hc.backlog hs
    have hmore : requests [m] = m.output.filterMap Output.request? := List.flatMap_singleton _ _
    rw [requests_append, hmore, List.length_append, calls, List.countP_append, ← calls,
      List.countP_singleton]
    simp only at hback
    omega
  exact Nat.le_trans (Nat.le_add_right _ _) hall

/-! ## What is awaited -/

/-- One of these moments sent the request of an exchange, the `k`-th of the client, and the exchange
has stood ever since. -/
def Awaits (ms : Moments) (k : Nat) (x : Exchange) : Prop :=
  ∃ earlier first later, ms = earlier ++ first :: later ∧ k = (requests earlier).length ∧
    first.output = [.send x.ticket x.conn x.request] ∧ x ∈ first.after.exchanging ∧
    ∀ m ∈ later, x ∈ m.before.exchanging ∧ x ∈ m.after.exchanging

section Awaits

variable {ms : Moments} {k : Nat} {x : Exchange}

theorem Awaits.still {m : Moment Client Event (List Output)} (h : Awaits ms k x)
    (hb : x ∈ m.before.exchanging) (ha : x ∈ m.after.exchanging) : Awaits (ms ++ [m]) k x := by
  obtain ⟨earlier, first, later, rfl, hk, hsend, hfirst, hlater⟩ := h
  refine ⟨earlier, first, later ++ [m], by simp, hk, hsend, hfirst, ?_⟩
  exact List.forall_mem_append.2 ⟨hlater, List.forall_mem_singleton.2 ⟨hb, ha⟩⟩

theorem Awaits.getElem? (h : Awaits ms k x) (rest : Moments) :
    (requests (ms ++ rest))[k]? = some x.request := by
  obtain ⟨earlier, first, later, rfl, rfl, hsend, -⟩ := h
  rw [List.append_assoc, List.cons_append, requests_append, requests_cons_sent hsend]
  rw [List.getElem?_append_right (Nat.le_refl _), Nat.sub_self]
  rfl

end Awaits

theorem awaits_of_exchanging {config : PoolConfig} {callTimeout : Nat} {firstId : UInt64}
    {ms : Moments} {c : Client}
    (run : Traced (fresh (Pool.fresh config) callTimeout firstId) ms c) :
    ∀ x ∈ c.exchanging, ∃ k, Awaits ms k x := by
  refine (Consistent.fresh config callTimeout firstId).keeps
    (I := fun ms c => ∀ x ∈ c.exchanging, ∃ k, Awaits ms k x) ?_ ?_ (fun _ h => h) run
  · intro x hx
    cases hx
  · intro ms m hc h hs x hx
    have stood (hold : x ∈ m.before.exchanging) : ∃ k, Awaits (ms ++ [m]) k x :=
      (h x hold).imp fun k hk => hk.still hold hx
    cases hc.effect hs with
    | sent y after _ _ outputs =>
      rcases List.mem_append.1 (after ▸ hx) with hold | hnew
      · exact stood hold
      · obtain rfl := List.mem_singleton.1 hnew
        exact ⟨_, ms, m, [], rfl, rfl, outputs, hx, List.forall_mem_nil _⟩
    | ended y _ _ ended => exact stood (ended.taken.mem_iff.2 (List.mem_cons_of_mem y hx))
    | aside after _ _ _ => exact stood (after ▸ hx)

/-! ## Correlation -/

/-- Only an exchange that ends with a reply under its own id tells its caller what a reply says. -/
theorem reply_of_outcome {callTimeout : Nat} {request : Request} {ending : Ending}
    {outcome : Except RpcError Json} (h : ending.outcome? callTimeout request = some outcome)
    (hreply : ofReply outcome) : ∃ reply, ending = .replied (.ok reply) ∧
      replyId? reply.id = some request.id.toNat ∧ outcome = reply.outcome := by
  cases ending with
  | replied reply =>
    cases reply with
    | error error => cases h; cases hreply
    | ok reply =>
      obtain rfl : reply.answerTo request.id = outcome := Option.some.inj h
      unfold Reply.answerTo at hreply ⊢
      split at hreply
      · rename_i hid
        exact ⟨reply, rfl, hid, if_pos hid⟩
      · cases hreply
  | expired => cases h; cases hreply
  | dropped => cases h

/-- **A call returns what a reply says only if the reply carries the id of its own request.** In
every run of a client, whatever arrives on its connections:

* while no more calls are made than there are words, no two requests have one id;
* whoever is told a result, a server error or an invalid response has an exchange that waited for
  the reply to its request when a reply with the id of that request came, and is told what that
  reply says;
* such a reply carries the id of no other request of the run, and that of a probe only if some
  request has it. -/
theorem answered_by_own_reply {config : PoolConfig} {callTimeout : Nat} {firstId : UInt64}
    {ms : Moments} {c : Client} (run : Runs config callTimeout firstId ms c) :
    (calls ms ≤ UInt64.size → ((requests ms).map (·.id)).Nodup) ∧
    ∀ earlier m later, ms = earlier ++ m :: later →
      ∀ t outcome, .answer t outcome ∈ m.output → ofReply outcome →
        ∃ x k reply, x ∈ m.before.exchanging ∧ x.ticket = t ∧ Awaits earlier k x ∧
          m.event = .replied t (.ok reply) ∧ replyId? reply.id = some x.request.id.toNat ∧
          outcome = reply.outcome ∧
          (calls ms ≤ UInt64.size → ∀ j request, (requests ms)[j]? = some request →
            replyId? reply.id = some request.id.toNat → j = k) ∧
          ((∀ request ∈ requests ms, request.id ≠ probeId) →
            replyId? reply.id ≠ some probeId.toNat) := by
  obtain ⟨pool, hpool, run⟩ := run
  obtain ⟨rfl, _⟩ := Pool.ofConfig_eq_ok hpool
  have hnodup (few : calls ms ≤ UInt64.size) : ((requests ms).map (·.id)).Nodup :=
    (numbered_of_traced run).nodup (Nat.le_trans (requests_le_calls run) few)
  refine ⟨hnodup, ?_⟩
  rintro earlier m later rfl t outcome hanswer hreply
  obtain ⟨first, hs, _⟩ := run.cut
  have hc := (Consistent.fresh config callTimeout firstId).run first
  -- Who is told what a reply says has not been refused by the pool, so an exchange ends.
  rcases hc.told hs hanswer with ⟨error, rfl⟩ | ⟨x, ending, rfl, event, ended, hout⟩
  · cases hreply
  · obtain ⟨reply, rfl, hid, rfl⟩ := reply_of_outcome hout hreply
    have hx : x ∈ m.before.exchanging := ended.taken.mem_iff.2 List.mem_cons_self
    obtain ⟨k, hk⟩ := awaits_of_exchanging first x hx
    have hown := hk.getElem? (m :: later)
    refine ⟨x, k, reply, hx, rfl, hk, event, hid, rfl, fun few j request hj hcarries => ?_,
      fun hprobe hcarries => ?_⟩
    · -- One reply carries one id, and within the stretch an id has one place.
      have hsame : request.id = x.request.id :=
        UInt64.toNat_inj.1 (Option.some.inj (hcarries.symm.trans hid))
      have hids : ((requests (earlier ++ m :: later)).map (·.id))[j]?
          = ((requests (earlier ++ m :: later)).map (·.id))[k]? := by
        rw [List.getElem?_map, List.getElem?_map, hj, hown, Option.map_some, Option.map_some, hsame]
      have hlt : j < ((requests (earlier ++ m :: later)).map (·.id)).length := by
        rw [List.length_map]
        exact (List.getElem?_eq_some_iff.1 hj).1
      exact (List.getElem?_inj hlt (hnodup few)).1 hids
    · have hmem : x.request ∈ requests (earlier ++ m :: later) := List.mem_of_getElem? hown
      exact hprobe _ hmem (UInt64.toNat_inj.1 (Option.some.inj (hid.symm.trans hcarries)))

/-- Two calls run at once. The reply to the first arrives on the connection of the second and is
turned away; then it arrives where it belongs, its id in a string. -/
def crossing : List Event :=
  [.call 0 "a" [], .call 1 "b" [], .pool (.connected 0), .pool (.connected 1),
    .replied 1 (.ok ⟨.int 7, some (.bool true), none⟩),
    .replied 0 (.ok ⟨.string "7", some (.bool true), none⟩)]

/-- The moments of that run, and the client after it. -/
def crossed : Moments × Client :=
  let start := fresh (Pool.fresh {}) 5 7
  (Trace.retrace? step? start crossing).getD ([], start)

/-- The call that returns the reply has sent the first request, and the reply carries the id of that
request and not that of a probe. -/
theorem answered_by_own_reply_crossing : ∃ ms c, Runs {} 5 7 ms c ∧
    (requests ms).map (·.id) = [7, 8] ∧ ((requests ms).map (·.id)).Nodup ∧
    ∃ m x, ms.getLast? = some m ∧ m.output = [.answer 0 (.ok (.bool true))] ∧ x.ticket = 0 ∧
      Awaits ms.dropLast 0 x ∧ x.request.id = 7 ∧
      replyId? (.string "7") ≠ some probeId.toNat := by
  have retraced : Trace.retrace? step? (fresh (Pool.fresh {}) 5 7) crossing
      = some (crossed.1, crossed.2) := rfl
  have run : Runs {} 5 7 crossed.1 crossed.2 := ⟨_, rfl, Trace.of_retrace? retraced⟩
  have few : calls crossed.1 ≤ UInt64.size := by decide +kernel
  have ids : (requests crossed.1).map (·.id) = [7, 8] := by decide +kernel
  have distant : ∀ request ∈ requests crossed.1, request.id ≠ probeId := by
    intro request hmem
    have hid : request.id ∈ [7, 8] := ids ▸ List.mem_map_of_mem hmem
    rcases List.mem_pair.1 hid with hid | hid <;> rw [hid] <;> decide
  obtain ⟨m, hms, hlast, hevent, hout⟩ : ∃ m, crossed.1 = crossed.1.dropLast ++ m :: [] ∧
      crossed.1.getLast? = some m ∧
      m.event = .replied 0 (.ok ⟨.string "7", some (.bool true), none⟩) ∧
      m.output = [.answer 0 (.ok (.bool true))] := ⟨_, rfl, rfl, rfl, rfl⟩
  obtain ⟨distinct, answered⟩ := answered_by_own_reply run
  obtain ⟨x, k, reply, -, ht, hawaits, he, hid, -, hown, hprobe⟩ :=
    answered _ m [] hms 0 (.ok (.bool true)) (hout ▸ List.mem_cons_self) trivial
  rw [hevent] at he
  cases he
  obtain rfl : 0 = k := hown few 0 ⟨7, "a", []⟩ rfl rfl
  have hseven : x.request.id = 7 := UInt64.toNat_inj.1 (Option.some.inj hid).symm
  exact ⟨_, _, run, ids, distinct few, m, x, hlast, hout, ht, hawaits, hseven, hprobe distant⟩

end Client
end Rpc
end ChainExplorer
