/-!
# What is bound to happen

Where several steps are possible at a time, something is bound to happen if it happens whichever of
them are taken: no choice leads past it, none puts it off for ever, and until it has happened there
is a step to take.
-/

namespace ChainExplorer

variable {σ : Type}

/-- From a state, a final one is reached whatever steps are taken. -/
inductive Inevitable (step : σ → σ → Prop) (final : σ → Prop) : σ → Prop
  | now {s : σ} (h : final s) : Inevitable step final s
  | later {s : σ} (some : ∃ t, step s t) (all : ∀ t, step s t → Inevitable step final t) :
      Inevitable step final s

theorem Inevitable.mono {step : σ → σ → Prop} {final weaker : σ → Prop}
    (hw : ∀ s, final s → weaker s) {s : σ} (h : Inevitable step final s) :
    Inevitable step weaker s := by
  induction h with
  | now h => exact .now (hw _ h)
  | later some _ ih => exact .later some ih

/-- Where something has a rank that every step lowers, and there is a step to take until the end
has come, the end is bound to come. -/
theorem Inevitable.of_rank {ρ : Type} {lt : ρ → ρ → Prop} (hlt : WellFounded lt) (rank : σ → ρ)
    {step : σ → σ → Prop} {final I : σ → Prop} (goesOn : ∀ s, I s → final s ∨ ∃ t, step s t)
    (keeps : ∀ s t, I s → step s t → I t ∧ lt (rank t) (rank s)) {s : σ} (h : I s) :
    Inevitable step final s := by
  induction hr : rank s using hlt.induction generalizing s with
  | h r ih =>
    subst hr
    rcases goesOn s h with hfinal | hsome
    · exact .now hfinal
    · refine .later hsome fun t ht => ?_
      obtain ⟨hkept, hless⟩ := keeps s t h ht
      exact ih (rank t) hless hkept rfl

end ChainExplorer
