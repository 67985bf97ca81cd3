import ChainExplorer.Proofs.Inevitable
import ChainExplorer.Proofs.Tasks.Round

/-!
# Cancelled tasks

Once everything is cancelled there is no more work: no task enters the queue, none starts and none
ends (`Happens.idle`). All that is left is to quit. Each party that quits is one less (`toQuit_lt`),
and there is one that can as long as a worker is up or a submission waits, so in the end they are all
gone, and with the last worker all that waited (`all_quit`).

A list on its way through cancelled workers comes to its end for the same reason: what is left of it
is handed in and dropped (`FanOut.Happens.drains`).
-/

namespace ChainExplorer

namespace Tasks

variable {ι ρ : Type} {t u : Tasks ι ρ} {e : Event ι ρ} {party : Party}

/-! ## No more work -/

/-- Whether an event is one that a cancellation rules out. -/
def Event.isWork : Event ι ρ → Bool
  | .enter | .start | .finish _ _ | .crash _ => true
  | .submit _ | .cancel | .quit _ | .close => false

/-- With the last worker nothing goes but what waits. -/
theorem lessened_eq (t : Tasks ι ρ) : ∃ queue blocked, t.lessened = { t with queue, blocked } := by
  rw [lessened]
  split
  · exact ⟨[], none, rfl⟩
  · exact ⟨t.queue, t.blocked, rfl⟩

/-- An event at which nothing is worked on. -/
structure Idle (t : Tasks ι ρ) (e : Event ι ρ) (u : Tasks ι ρ) : Prop where
  cancelled : u.cancelled = true
  running : u.running.Sublist t.running
  outcomes : u.outcomes = t.outcomes
  event : e.isWork = false

/-- **After a cancellation nothing is worked on.** -/
theorem Happens.idle (he : Happens t e u) (hu : t.cancelled = true) : Idle t e u := by
  cases he with
  | @submit input =>
    have hsubmit : t.submit input = { t with submitted := t.submitted + 1 } := by
      simp only [Tasks.submit, hu, Bool.true_or, if_true]
    rw [hsubmit]
    exact ⟨hu, .refl _, rfl, rfl⟩
  | enter h | start h | finish h | crash h => cases hu.symm.trans h
  | cancel => exact ⟨rfl, .refl _, rfl, rfl⟩
  | withdraw | close => exact ⟨hu, .refl _, rfl, rfl⟩
  | leave =>
    obtain ⟨queue, blocked, heq⟩ := lessened_eq { t with idle := t.idle - 1 }
    rw [heq]
    exact ⟨hu, .refl _, rfl, rfl⟩
  | @halt task rest _ hx =>
    obtain ⟨queue, blocked, heq⟩ := lessened_eq { t with running := rest }
    rw [heq]
    exact ⟨hu, sublist_of_extract? hx, rfl, rfl⟩

/-- A cancellation changes nothing but the flag. -/
theorem of_cancel (he : Happens t .cancel u) :
    u.cancelled = true ∧ u.running.Sublist t.running ∧ u.outcomes = t.outcomes := by
  cases he
  exact ⟨rfl, .refl _, rfl⟩

/-! ## Nothing waits for nobody -/

/-- Nothing waits for workers that are all gone, and no submission once there will be no more. -/
structure Tended (t : Tasks ι ρ) : Prop where
  forsaken : t.live = 0 → t.pending = []
  entered : t.closed = true → t.blocked = none

theorem Tended.of_live (hl : t.live ≠ 0) (hc : t.closed = true → t.blocked = none) : Tended t :=
  ⟨fun hnone => absurd hnone hl, hc⟩

theorem Tended.fresh (workers capacity : Nat) : Tended (fresh workers capacity : Tasks ι ρ) :=
  ⟨fun _ => rfl, nofun⟩

theorem Tended.lessened (hc : t.closed = true → t.blocked = none) : Tended t.lessened := by
  rw [Tasks.lessened]
  split
  · rename_i hlast
    refine ⟨fun _ => ?_, fun _ => rfl⟩
    have hrunning : t.running = [] :=
      List.eq_nil_of_length_eq_zero (Nat.eq_zero_of_add_eq_zero hlast).2
    simp [pending, forget, hrunning]
  · rename_i hup
    exact .of_live hup hc

/-- **Every event keeps it so.** -/
theorem Tended.event (h : Tended t) (he : Happens t e u) : Tended u := by
  cases he with
  | @submit input hc =>
    have hopen {b : Option (TaskItem ι)} (hclosed : t.closed = true) : b = none := by
      rw [hc] at hclosed
      cases hclosed
    have hnew := submitted_submit t input
    generalize t.submit input = u at hnew
    cases hnew with
    | dropped => exact ⟨h.forsaken, h.entered⟩
    | queued up | blocked up => exact .of_live up hopen
  | @enter task hu hb =>
    refine .of_live (fun hnone => ?_) fun _ => rfl
    have hpending := h.forsaken hnone
    simp [pending, hb] at hpending
  | start hu hq hi =>
    refine .of_live ?_ h.entered
    simp only [live, List.length_append, List.length_singleton]
    omega
  | finish =>
    refine .of_live ?_ h.entered
    simp only [live]
    omega
  | crash | leave | halt => exact .lessened h.entered
  | cancel => exact ⟨h.forsaken, h.entered⟩
  | @withdraw task hu hb =>
    refine ⟨fun hnone => ?_, fun _ => rfl⟩
    have hpending := h.forsaken hnone
    simp [pending, hb] at hpending
  | close hb => exact ⟨h.forsaken, fun _ => hb⟩

/-! ## Who is left -/

/-- How many can still quit. -/
def toQuit (t : Tasks ι ρ) : Nat := t.live + t.blocked.toList.length

theorem toQuit_lessened (t : Tasks ι ρ) : t.lessened.toQuit ≤ t.toQuit := by
  rw [lessened]
  split
  · simp [toQuit, forget, live]
  · exact Nat.le_refl _

/-- **Whoever quits is one less.** -/
theorem toQuit_lt (he : Happens t (.quit party) u) : u.toQuit < t.toQuit := by
  cases he with
  | withdraw hu hb => simp [toQuit, hb, live]
  | leave hu hi =>
    refine Nat.lt_of_le_of_lt (toQuit_lessened _) ?_
    simp only [toQuit, live]
    omega
  | halt hu hx =>
    have hlength := length_of_extract? hx
    refine Nat.lt_of_le_of_lt (toQuit_lessened _) ?_
    simp only [toQuit, live]
    omega

theorem closed_quit (he : Happens t (.quit party) u) : u.closed = t.closed := by
  cases he with
  | withdraw => rfl
  | leave | halt =>
    rw [lessened]
    split <;> rfl

/-- As long as somebody is left, somebody can quit. -/
theorem exists_quit (hu : t.cancelled = true) (hn : t.toQuit ≠ 0) :
    ∃ party u, t.step? (.quit party) = some u := by
  cases hb : t.blocked with
  | some task => exact ⟨.submitter, { t with blocked := none }, by simp [step?, quit?, hu, hb]⟩
  | none =>
    cases hr : t.running with
    | cons task rest =>
      exact ⟨.running task.number, lessened { t with running := rest }, by
        simp [step?, quit?, hu, hr, extract?]⟩
    | nil =>
      have hi : t.idle ≠ 0 := by simpa [toQuit, live, hb, hr] using hn
      exact ⟨.idle, lessened { t with idle := t.idle - 1 }, by simp [step?, quit?, hu, hi]⟩

/-- Somebody quits. -/
def Quits (t u : Tasks ι ρ) : Prop := ∃ party, t.step? (.quit party) = some u

/-- **In whatever order they quit, in the end they are all gone**, and nothing waits or runs. -/
theorem all_quit (hu : t.cancelled = true) (ht : t.Tended) :
    Inevitable Quits (fun u => u.live = 0 ∧ u.pending = []) t := by
  refine Inevitable.of_rank Nat.lt_wfRel.wf toQuit (I := fun t => t.cancelled = true ∧ t.Tended)
    ?_ ?_ ⟨hu, ht⟩
  · rintro t ⟨hu, ht⟩
    by_cases hn : t.toQuit = 0
    · have hlive : t.live = 0 := (Nat.eq_zero_of_add_eq_zero hn).1
      exact .inl ⟨hlive, ht.forsaken hlive⟩
    · obtain ⟨party, u, hstep⟩ := exists_quit hu hn
      exact .inr ⟨u, party, hstep⟩
  · rintro t u ⟨hu, ht⟩ ⟨party, hstep⟩
    have he := happens hstep
    exact ⟨⟨(he.idle hu).cancelled, ht.event he⟩, toQuit_lt he⟩

end Tasks

namespace FanOut

variable {ι ρ : Type} {f g : FanOut ι ρ} {e : Event ρ}

/-! ## What is left of a list -/

/-- What is left of a list whose workers are cancelled: the inputs to come and the end of the list,
and those who can still quit. -/
def leftover (f : FanOut ι ρ) : Nat :=
  f.inputs.length + f.tasks.toQuit + if f.tasks.closed then 0 else 1

/-- A step after a cancellation: an input is handed in, or the list ends, or somebody quits. -/
structure Drains (f : FanOut ι ρ) (e : Event ρ) (g : FanOut ι ρ) : Prop where
  event : e = .next ∨ ∃ party, e = .quit party
  cancelled : g.tasks.cancelled = true
  tended : g.tasks.Tended
  leftover_lt : g.leftover < f.leftover

/-- **After a cancellation every step leaves less of a list.** -/
theorem Happens.drains (he : Happens f e g) (hc : e ≠ .cancel) (hu : f.tasks.cancelled = true)
    (ht : f.tasks.Tended) : Drains f e g := by
  cases he with
  | @next input rest hi hclosed hb =>
    have hnext : Tasks.Happens f.tasks (.submit input) (f.tasks.submit input) := .submit hclosed hb
    refine ⟨.inl rfl, (hnext.idle hu).cancelled, ht.event hnext, ?_⟩
    simp [leftover, hi, Tasks.submit, hu, Tasks.toQuit, Tasks.live]
  | last hi hclosed hb =>
    refine ⟨.inl rfl, hu, ⟨ht.forsaken, fun _ => hb⟩, ?_⟩
    simp [leftover, hi, hclosed, Tasks.toQuit, Tasks.live]
  | enter h | start h | finish h => cases hu.symm.trans h
  | crash h =>
    have hidle := (Tasks.happens h).idle hu
    cases hidle.event
  | cancel => exact absurd rfl hc
  | @quit party t h =>
    have hquit := Tasks.happens h
    refine ⟨.inr ⟨party, rfl⟩, (hquit.idle hu).cancelled, ht.event hquit, ?_⟩
    have hless := Tasks.toQuit_lt hquit
    simp only [leftover, Tasks.closed_quit hquit]
    omega

/-- As long as a list is not through, it goes on. -/
theorem drains_on (hu : f.tasks.cancelled = true) (ht : f.tasks.Tended) (hd : f.isDone = false) :
    (∃ g, f.step? .next = some g) ∨ ∃ party g, f.step? (.quit party) = some g := by
  by_cases hn : f.tasks.toQuit = 0
  · -- Nobody is left, so nothing runs or waits, and it is the end of the list that is missing.
    obtain ⟨hlive, hblocked⟩ := Nat.eq_zero_of_add_eq_zero hn
    have hpending := ht.forsaken hlive
    simp only [Tasks.pending, List.append_eq_nil_iff, Option.toList_eq_nil_iff] at hpending
    obtain ⟨⟨hb, hqueue⟩, hrunning⟩ := hpending
    have hopen : f.tasks.closed = false := by
      simpa [isDone, Tasks.isDone, hrunning, hqueue] using hd
    refine .inl ?_
    cases hi : f.inputs <;> simp [step?, next?, Tasks.step?, hopen, hb, hi]
  · obtain ⟨party, t, hquit⟩ := Tasks.exists_quit hu hn
    exact .inr ⟨party, { f with tasks := t }, Option.map_eq_some_iff.2 ⟨t, hquit, rfl⟩⟩

theorem Logged.tended {inputs : List ι} {log : List (ι × ρ)} (h : Logged inputs f log) :
    f.tasks.Tended :=
  .of_live (Nat.ne_of_gt h.whole.live) fun hclosed => (h.ended hclosed).2

end FanOut
end ChainExplorer
