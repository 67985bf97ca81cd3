import ChainExplorer.Proofs.Inevitable
import ChainExplorer.Proofs.Pool.Clock
import ChainExplorer.Proofs.Pool.Ownership
import Mathlib.Algebra.Ring.Nat

/-!
# Turns of acquires

An acquire may go round many times before it ends: probes fail, wake-ups turn out to be for nothing,
and a permit that nobody took sends whoever parks next round once more. That it cannot go round for
ever is not told by its own state, because others give back connections and wake it meanwhile. So a
pool has a potential, to which everyone on the way, every idle connection and a permit that is left
contribute. Each turn lowers it. Other events raise it by a fixed amount, or by the number of the
parked where they are all woken (`rounds_le`).
-/

namespace ChainExplorer
namespace Pool

/-- What moves an acquire on that is on its way. -/
def Event.isTurn : Event → Bool
  | .resume _ | .probed _ | .probeFailed _ | .connected _ | .connectFailed _ _ | .expire _ => true
  | _ => false

/-- Bounds the turns that are still to come. -/
def potential (p : Pool) : Nat :=
  2 * p.parked.length + 3 * p.woken.length + 4 * p.probing.length + 2 * p.connecting.length
    + 2 * p.idle.length + p.permit.toNat

/-- How often an acquire goes round at a moment: once by a turn, and once more where a permit is
used up, since with a permit whoever would park looks around again first. -/
def rounds (m : Moment Pool Event Move) : Nat :=
  m.event.isTurn.toNat + (m.before.permit && !m.after.permit).toNat

/-- By how much a moment may raise the potential. -/
def charge (m : Moment Pool Event Move) : Nat :=
  match m.event with
  | .acquire _ _ => 2
  | .release _ => 3
  | .sweep | .close => m.before.parked.length
  | _ => 0

/-! ## What each part of an event costs -/

/-- From one pool to another the potential rises by so much at most, and by one less where a permit
is used up. -/
def Costs (n : Int) (p q : Pool) : Prop :=
  ((p.permit && !q.permit).toNat : Int) + q.potential ≤ p.potential + n

theorem Costs.trans {n m : Int} {p q r : Pool} (hpq : Costs n p q) (hqr : Costs m q r) :
    Costs (n + m) p r := by
  unfold Costs at *
  generalize p.permit = a, q.permit = b, r.permit = c at *
  cases a <;> cases b <;> cases c <;> simp only [Bool.not_true, Bool.not_false, Bool.and_true,
    Bool.and_false, Bool.toNat_true, Bool.toNat_false] at * <;> omega

theorem Costs.mono {n m : Int} {p q : Pool} (h : Costs n p q) (hle : n ≤ m) : Costs m p q :=
  Int.le_trans h (Int.add_le_add_left hle _)

theorem Costs.refl (p : Pool) : Costs 0 p p := by
  simp [Costs]

section Parts

variable (p : Pool)

theorem costs_wakeOne : Costs 1 p p.wakeOne := by
  rw [wakeOne_eq]
  cases hp : p.parked with
  | nil =>
    -- A permit is left, or was there before.
    simp only [Costs, potential, hp, List.isEmpty_nil, Bool.or_true, Bool.not_true, Bool.and_false,
      Bool.toNat_false, Bool.toNat_true, List.tail_nil, List.head?_nil, Option.map_none,
      Option.toList_none, List.append_nil, List.length_nil]
    omega
  | cons w ws =>
    simp only [Costs, potential, hp, List.isEmpty_cons, Bool.or_false, Bool.and_not_self,
      Bool.toNat_false, List.tail_cons, List.head?_cons, Option.map_some, Option.toList_some,
      List.length_append, List.length_cons, List.length_nil]
    omega

theorem costs_wakeAll : Costs p.parked.length p p.wakeAll := by
  simp [Costs, potential, wakeAll]
  omega

theorem costs_giveUpRoom : Costs 1 p p.giveUpRoom := costs_wakeOne (p.uncount 1)

theorem costs_giveBack_of_invalid (c : Nat) : Costs 1 p (p.giveBack c true) := by
  have h := costs_wakeOne { p.uncount 1 with torn := p.torn ++ [c] }
  rwa [giveBack_of_invalid]

/-- A connection that joins the idle list counts, because another may probe it. -/
theorem costs_giveBack (c : Nat) (invalid : Bool) : Costs 3 p (p.giveBack c invalid) := by
  unfold giveBack
  split
  · have h := costs_wakeOne { p.uncount 1 with torn := p.torn ++ [c] }
    exact Costs.mono h (by decide)
  · have h := costs_wakeOne { p with idle := p.idle ++ [⟨c, p.now⟩] }
    simp only [Costs, potential, List.length_append, List.length_singleton] at h ⊢
    omega

theorem costs_look (w : Waiter) : Costs 2 p (p.look w).1 := by
  have hl := p.looked w
  generalize p.look w = out at hl
  cases hl with
  | closed | refuse => exact (Costs.refl p).mono (by decide)
  | probe hc hi =>
    simp [Costs, potential, hi]
    omega
  | connect =>
    simp [Costs, potential]
    omega
  | park =>
    cases hpermit : p.permit <;> simp [Costs, potential, hpermit] <;> omega

/-- A sweep and a close let idle connections go before they wake anyone. -/
theorem costs_of_idle {kept : List Idle} (h : kept.length ≤ p.idle.length)
    (closed overdrawn : Bool) (opened : Nat) (torn : List Nat) :
    Costs 0 p { p with closed, overdrawn, opened, torn, idle := kept } ∧
      Costs p.parked.length p
        (wakeAll { p with closed, overdrawn, opened, torn, idle := kept }) := by
  have hfirst : Costs 0 p { p with closed, overdrawn, opened, torn, idle := kept } := by
    simp only [Costs, potential, Bool.and_not_self, Bool.toNat_false]
    omega
  refine ⟨hfirst, ?_⟩
  have hall := hfirst.trans (costs_wakeAll _)
  rwa [Int.zero_add] at hall

theorem costs_evict : Costs p.parked.length p p.evict := by
  have hkept : ((p.idle.filter p.isYoung).drop
      ((p.idle.filter p.isYoung).length - p.config.maxIdle)).length ≤ p.idle.length :=
    Nat.le_trans (List.drop_sublist _ _).length_le (List.length_filter_le _ _)
  simp only [evict]
  split
  · exact (costs_of_idle p hkept _ _ _ _).1.mono (Int.natCast_nonneg _)
  · exact (costs_of_idle p hkept _ _ _ _).2

theorem costs_shut : Costs p.parked.length p p.shut := by
  have hkept : ([] : List Idle).length ≤ p.idle.length := Nat.zero_le _
  unfold shut
  split
  · exact (Costs.refl p).mono (Int.natCast_nonneg _)
  · exact (costs_of_idle p hkept _ _ _ _).2

end Parts

/-! ## What is gained where an acquire leaves its place -/

section Leaving

variable {p : Pool} {rest : List Waiter} {w : Waiter} {f : Waiter → Bool}

theorem costs_takeParked (hx : extract? f p.parked = some (w, rest)) :
    Costs (-2) p { p with parked := rest } := by
  have hlength := length_of_extract? hx
  simp only [Costs, potential, Bool.and_not_self, Bool.toNat_false]
  omega

theorem costs_takeConnecting (hx : extract? f p.connecting = some (w, rest)) :
    Costs (-2) p { p with connecting := rest } := by
  have hlength := length_of_extract? hx
  simp only [Costs, potential, Bool.and_not_self, Bool.toNat_false]
  omega

theorem costs_takeWoken {f : Woken → Bool} {v : Woken} {rest : List Woken}
    (hx : extract? f p.woken = some (v, rest)) : Costs (-3) p { p with woken := rest } := by
  have hlength := length_of_extract? hx
  simp only [Costs, potential, Bool.and_not_self, Bool.toNat_false]
  omega

theorem costs_takeProbing {f : Probe → Bool} {a : Probe} {rest : List Probe}
    (hx : extract? f p.probing = some (a, rest)) : Costs (-4) p { p with probing := rest } := by
  have hlength := length_of_extract? hx
  simp only [Costs, potential, Bool.and_not_self, Bool.toNat_false]
  omega

end Leaving

/-! ## Events -/

/-- A turn lowers the potential, and no event raises it by more than its charge. -/
theorem costs_event {p : Pool} {e : Event} {out : Pool × Move} (hs : p.step? e = some out) :
    Costs (charge ⟨p, e, out.2, out.1⟩ - e.isTurn.toNat) p out.1 := by
  cases happens hs with
  | acquire => exact costs_look p _
  | resume hx => exact (costs_takeWoken hx).trans (costs_look _ _)
  | probed hx => exact (costs_takeProbing hx).mono (m := -1) (by decide)
  | probeFailed hx =>
    exact ((costs_takeProbing hx).trans (costs_giveBack_of_invalid _ _)).trans (costs_look _ _)
  | connected hx => exact (costs_takeConnecting hx).mono (m := -1) (by decide)
  | @connectFailed w rest error hx =>
    have hleft : Costs (-2) p
        { p with connecting := rest, failure := some (p.now, error.message) } :=
      costs_takeConnecting hx
    exact hleft.trans (costs_giveUpRoom _)
  | expireParked due hx => exact (costs_takeParked hx).mono (m := -1) (by decide)
  | expireProbing due hx =>
    exact ((costs_takeProbing hx).trans (costs_giveBack_of_invalid _ _)).mono (m := -1) (by decide)
  | expireConnecting due hx => exact (costs_takeConnecting hx).trans (costs_giveUpRoom _)
  | abandonParked hx => exact (costs_takeParked hx).mono (m := 0) (by decide)
  | abandonAlone alone hx =>
    exact ((costs_takeWoken hx).trans (costs_wakeOne _)).mono (m := 0) (by decide)
  | abandonTogether together hx => exact (costs_takeWoken hx).mono (m := 0) (by decide)
  | abandonProbing hx =>
    exact ((costs_takeProbing hx).trans (costs_giveBack _ _ _)).mono (m := 0) (by decide)
  | abandonConnecting hx =>
    exact ((costs_takeConnecting hx).trans (costs_giveUpRoom _)).mono (m := 0) (by decide)
  | @release l rest hx => exact costs_giveBack { p with leases := rest } l.conn l.invalid
  | sweep =>
    have h := costs_evict { p with nextSweep := p.nextSweep + p.config.evictionInterval }
    exact h.mono (Int.le_of_eq (Int.sub_zero _).symm)
  | close => exact (costs_shut p).mono (Int.le_of_eq (Int.sub_zero _).symm)
  | invalidate | advance => exact Costs.refl p

/-- **Acquires go round no more often than other events make them.** -/
theorem rounds_le {p q : Pool} {ms : Moments} (run : Traced p ms q) :
    (ms.map rounds).sum + q.potential ≤ p.potential + (ms.map charge).sum := by
  refine run.keeps (I := fun ms q => (ms.map rounds).sum + q.potential
    ≤ p.potential + (ms.map charge).sum) ?_ ?_ ?_
  · simp
  · intro ms m ih hs
    have hcosts := costs_event hs
    simp only [List.map_append, List.map_cons, List.map_nil, List.sum_append, List.sum_cons,
      List.sum_nil]
    simp only [Costs] at hcosts
    simp only [rounds] at ih ⊢
    have hm : charge ⟨m.before, m.event, m.output, m.after⟩ = charge m := rfl
    omega
  · rintro ms q r ih ⟨time, _, rfl⟩
    exact ih

/-! ## Turns alone -/

/-- One pool comes from another by a turn. -/
def Turn (p q : Pool) : Prop := ∃ e out, e.isTurn = true ∧ p.step? e = some out ∧ out.1 = q

/-- Nobody can go on without time passing: nobody has been woken who has not looked around, and no
deadline is over. What a factory does is not up to the pool. -/
def AtRest (p : Pool) : Prop := ∀ t, p.step? (.resume t) = none ∧ p.step? (.expire t) = none

theorem turn_of_not_atRest {p : Pool} (h : ¬ p.AtRest) : ∃ q, Turn p q := by
  rw [AtRest, not_forall] at h
  obtain ⟨t, ht⟩ := h
  rw [not_and_or] at ht
  rcases ht with hresume | hexpire
  · obtain ⟨out, hout⟩ := Option.ne_none_iff_exists'.1 hresume
    exact ⟨out.1, _, out, rfl, hout, rfl⟩
  · obtain ⟨out, hout⟩ := Option.ne_none_iff_exists'.1 hexpire
    exact ⟨out.1, _, out, rfl, hout, rfl⟩

theorem Turn.lowers {p q : Pool} (h : Turn p q) :
    q.potential < p.potential ∧ q.now = p.now := by
  obtain ⟨e, out, hturn, hs, rfl⟩ := h
  have hcosts := costs_event hs
  have hcharge : charge ⟨p, e, out.2, out.1⟩ = 0 := by
    cases e <;> first | rfl | cases hturn
  have htime : e.timeAfter p = p.now := by
    cases e <;> first | rfl | cases hturn
  refine ⟨?_, (memory_event hs).1.trans htime⟩
  rw [Costs, hcharge, hturn, Bool.toNat_true] at hcosts
  omega

/-- Whatever turns are taken, a pool comes to rest before any time has passed. -/
theorem rest_inevitable (p : Pool) :
    Inevitable Turn (fun q => q.AtRest ∧ q.now = p.now) p := by
  refine Inevitable.of_rank Nat.lt_wfRel.wf potential (I := fun q => q.now = p.now) ?_ ?_ rfl
  · intro q hq
    by_cases hrest : q.AtRest
    · exact .inl ⟨hrest, hq⟩
    · exact .inr (turn_of_not_atRest hrest)
  · intro q r hq hturn
    obtain ⟨hless, hnow⟩ := hturn.lowers
    exact ⟨hnow.trans hq, hless⟩

end Pool
end ChainExplorer
