/-!
# Runs that are remembered

Some properties speak of what has happened and not only of the state that it led to: that something
happens once, that it has a cause, that nothing undoes it. They are stated of a run together with
its moments in order. A moment has the states on both sides, so whatever stood anywhere during the
run can be looked up in it.

There is one induction over traces, `Trace.keeps`. A trace can be cut at each of its moments
(`Trace.cut`), so a property of states that every moment keeps holds on both sides of each.
-/

namespace ChainExplorer

variable {σ ε ο : Type}

/-- What happened at once: an event, what it put out, and the states on both sides. -/
structure Moment (σ ε ο : Type) where
  before : σ
  event : ε
  output : ο
  after : σ

/-- A run from a state to another with its moments in order. Between two of them the state may
change as `drift` says. -/
inductive Trace (step? : σ → ε → Option (σ × ο)) (drift : σ → σ → Prop) (s : σ) :
    List (Moment σ ε ο) → σ → Prop
  | start : Trace step? drift s [] s
  | moment {ms : List (Moment σ ε ο)} {m : Moment σ ε ο} :
      Trace step? drift s ms m.before → step? m.before m.event = some (m.after, m.output) →
        Trace step? drift s (ms ++ [m]) m.after
  | drift {ms : List (Moment σ ε ο)} {t u : σ} :
      Trace step? drift s ms t → drift t u → Trace step? drift s ms u

namespace Trace

variable {step? : σ → ε → Option (σ × ο)} {drift : σ → σ → Prop} {s t u : σ}
  {ms ns : List (Moment σ ε ο)}

/-- **What every moment keeps, and the drift between moments as well, holds all along a run.** -/
theorem keeps {I : List (Moment σ ε ο) → σ → Prop} (start : I [] s)
    (moment : ∀ {ms m}, I ms m.before → step? m.before m.event = some (m.after, m.output) →
      I (ms ++ [m]) m.after)
    (still : ∀ {ms t u}, I ms t → drift t u → I ms u) (run : Trace step? drift s ms t) :
    I ms t := by
  induction run with
  | start => exact start
  | moment _ hm ih => exact moment ih hm
  | drift _ hd ih => exact still ih hd

theorem trans (first : Trace step? drift s ms t) (second : Trace step? drift t ns u) :
    Trace step? drift s (ms ++ ns) u := by
  induction second with
  | start => rwa [List.append_nil]
  | moment _ hm ih =>
    rw [← List.append_assoc]
    exact .moment ih hm
  | drift _ hd ih => exact .drift ih hd

/-- A run can be cut at each of its moments. -/
theorem cut {earlier later : List (Moment σ ε ο)} {m : Moment σ ε ο}
    (run : Trace step? drift s (earlier ++ m :: later) t) :
    Trace step? drift s earlier m.before ∧ step? m.before m.event = some (m.after, m.output) ∧
      Trace step? drift m.after later t := by
  generalize hms : earlier ++ m :: later = ms at run
  induction run generalizing later with
  | start => simp at hms
  | @moment ms last before hlast ih =>
    -- The last moment of the run is the one to cut at, or it is the last of those after it.
    rcases later.eq_nil_or_concat with rfl | ⟨later, n, rfl⟩
    · obtain ⟨rfl, hm⟩ := List.append_inj' hms rfl
      cases hm
      exact ⟨before, hlast, .start⟩
    · rw [List.concat_eq_append, ← List.cons_append, ← List.append_assoc] at hms
      obtain ⟨rfl, hn⟩ := List.append_inj' hms rfl
      cases hn
      obtain ⟨first, hm, rest⟩ := ih rfl
      rw [List.concat_eq_append]
      exact ⟨first, hm, .moment rest hlast⟩
  | drift _ hd ih =>
    obtain ⟨first, hm, rest⟩ := ih hms
    exact ⟨first, hm, .drift rest hd⟩

/-! ## Runs that are given as lists of events -/

/-- The moments of some events and the state after them, if each can happen in its turn. -/
def retrace? (step? : σ → ε → Option (σ × ο)) (s : σ) :
    List ε → Option (List (Moment σ ε ο) × σ)
  | [] => some ([], s)
  | e :: es =>
    (step? s e).bind fun out =>
      (retrace? step? out.1 es).map fun rest => (⟨s, e, out.2, out.1⟩ :: rest.1, rest.2)

theorem of_retrace? {events : List ε} (h : retrace? step? s events = some (ms, t)) :
    Trace step? drift s ms t := by
  induction events generalizing s ms with
  | nil =>
    cases h
    exact .start
  | cons e es ih =>
    obtain ⟨out, hs, hr⟩ := Option.bind_eq_some_iff.1 h
    obtain ⟨⟨rest, last⟩, hrest, heq⟩ := Option.map_eq_some_iff.1 hr
    cases heq
    have still : Trace step? drift s [] s := .start
    have first : Trace step? drift s [⟨s, e, out.2, out.1⟩] out.1 :=
      .moment (m := ⟨s, e, out.2, out.1⟩) still hs
    exact first.trans (ih hrest)

theorem map_event_of_retrace? {events : List ε} (h : retrace? step? s events = some (ms, t)) :
    ms.map (·.event) = events := by
  induction events generalizing s ms with
  | nil =>
    cases h
    rfl
  | cons e es ih =>
    obtain ⟨out, hs, hr⟩ := Option.bind_eq_some_iff.1 h
    obtain ⟨⟨rest, last⟩, hrest, heq⟩ := Option.map_eq_some_iff.1 hr
    cases heq
    exact congrArg (e :: ·) (ih hrest)

theorem event_mem_of_retrace? {events : List ε} (h : retrace? step? s events = some (ms, t))
    {m : Moment σ ε ο} (hm : m ∈ ms) : m.event ∈ events := by
  rw [← map_event_of_retrace? h]
  exact List.mem_map_of_mem hm

end Trace

end ChainExplorer
