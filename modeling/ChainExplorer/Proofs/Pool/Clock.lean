import ChainExplorer.Proofs.Pool.Holdings

/-!
# The clock and the memory of a pool

Time is an event of its own, and no other event moves the clock. What a pool remembers of a failed
connect changes only where a connect settles. So whatever else happens in a run, an acquire finds
the clock and the memory as they were (`memory_event`).
-/

namespace ChainExplorer
namespace Pool

/-- A pool with the same time and the same memory of a failure as another. -/
structure Remembers (p q : Pool) : Prop where
  now : q.now = p.now
  failure : q.failure = p.failure

section Remembers

variable (p : Pool)

theorem remembers_wakeOne : Remembers p p.wakeOne := by
  rw [wakeOne_eq]
  exact ⟨rfl, rfl⟩

theorem remembers_giveBack (c : Nat) (invalid : Bool) : Remembers p (p.giveBack c invalid) := by
  unfold giveBack
  split <;> exact ⟨(remembers_wakeOne _).now, (remembers_wakeOne _).failure⟩

theorem remembers_giveUpRoom : Remembers p p.giveUpRoom :=
  ⟨(remembers_wakeOne _).now, (remembers_wakeOne _).failure⟩

theorem remembers_evict : Remembers p p.evict := by
  simp only [evict]
  split <;> exact ⟨rfl, rfl⟩

theorem remembers_shut : Remembers p p.shut := by
  unfold shut
  split <;> exact ⟨rfl, rfl⟩

theorem remembers_look (w : Waiter) : Remembers p (p.look w).1 := by
  have hl := p.looked w
  generalize p.look w = out at hl
  cases hl <;> exact ⟨rfl, rfl⟩

end Remembers

theorem Remembers.trans {p q r : Pool} (hpq : Remembers p q) (hqr : Remembers q r) :
    Remembers p r := ⟨hqr.now.trans hpq.now, hqr.failure.trans hpq.failure⟩

/-- The time after an event. -/
def Event.timeAfter (p : Pool) : Event → Nat
  | .advance time => time
  | _ => p.now

/-- What is remembered after an event. -/
def Event.failureAfter (p : Pool) : Event → Option (Nat × String)
  | .connected _ => none
  | .connectFailed _ error => some (p.now, error.message)
  | _ => p.failure

/-- **Only the clock moves the clock, and only a connect that settles changes the memory.** -/
theorem memory_event {p : Pool} {e : Event} {out : Pool × Move} (hs : p.step? e = some out) :
    out.1.now = e.timeAfter p ∧ out.1.failure = e.failureAfter p := by
  cases happens hs with
  | acquire | resume => exact ⟨(remembers_look _ _).now, (remembers_look _ _).failure⟩
  | probeFailed =>
    exact ⟨((remembers_giveBack _ _ _).trans (remembers_look _ _)).now,
      ((remembers_giveBack _ _ _).trans (remembers_look _ _)).failure⟩
  | connectFailed | expireConnecting | abandonConnecting =>
    exact ⟨(remembers_giveUpRoom _).now, (remembers_giveUpRoom _).failure⟩
  | expireProbing | abandonProbing | release =>
    exact ⟨(remembers_giveBack _ _ _).now, (remembers_giveBack _ _ _).failure⟩
  | abandonAlone => exact ⟨(remembers_wakeOne _).now, (remembers_wakeOne _).failure⟩
  | sweep => exact ⟨(remembers_evict _).now, (remembers_evict _).failure⟩
  | close => exact ⟨(remembers_shut p).now, (remembers_shut p).failure⟩
  | _ => exact ⟨rfl, rfl⟩

theorem now_le_event {p : Pool} {e : Event} {out : Pool × Move} (hs : p.step? e = some out) :
    p.now ≤ out.1.now := by
  rw [(memory_event hs).1]
  cases happens hs with
  | advance may =>
    simp only [mayAdvance, Bool.and_eq_true, decide_eq_true_eq] at may
    exact may.1.1.1
  | _ => exact Nat.le_refl _

end Pool
end ChainExplorer
