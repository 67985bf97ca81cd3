import Mathlib.Data.List.Forall2

/-!
# Results of several steps

A reader takes its steps one after the other and stops at the first that fails. So it succeeds if
each step does, on what the steps before it gave, and where it fails, the steps in front of the
failure have succeeded.
-/

namespace ChainExplorer

variable {α β ε : Type}

theorem bind_eq_ok {x : Except ε α} {f : α → Except ε β} {b : β} :
    (x >>= f) = .ok b ↔ ∃ a, x = .ok a ∧ f a = .ok b := by
  cases x with
  | error error => exact ⟨nofun, nofun⟩
  | ok a => exact ⟨fun h => ⟨a, rfl, h⟩, fun ⟨_, hx, h⟩ => Except.ok.inj hx ▸ h⟩

theorem bind_eq_error {x : Except ε α} {f : α → Except ε β} {error : ε} :
    (x >>= f) = .error error ↔ x = .error error ∨ ∃ a, x = .ok a ∧ f a = .error error := by
  cases x with
  | error cause =>
    constructor
    · intro h
      exact .inl (congrArg Except.error (Except.error.inj h))
    · rintro (hx | ⟨a, ha, -⟩)
      · exact congrArg Except.error (Except.error.inj hx)
      · cases ha
  | ok a =>
    constructor
    · intro h
      exact .inr ⟨a, rfl, h⟩
    · rintro (hx | ⟨b, hb, hf⟩)
      · cases hx
      · obtain rfl := Except.ok.inj hb
        exact hf

theorem toOption_eq_some {x : Except ε α} {a : α} : x.toOption = some a ↔ x = .ok a := by
  cases x with
  | error error => simp only [Except.toOption, reduceCtorEq]
  | ok b => simp only [Except.toOption, Option.some.injEq, Except.ok.injEq]

section Lists

variable {f : α → Except ε β} {xs : List α}

/-- A list is read if each element is. -/
theorem mapM_eq_ok {ys : List β} :
    xs.mapM f = .ok ys ↔ List.Forall₂ (fun x y => f x = .ok y) xs ys := by
  induction xs generalizing ys with
  | nil =>
    rw [List.mapM_nil, List.forall₂_nil_left_iff]
    exact ⟨fun h => (Except.ok.inj h).symm, fun h => congrArg Except.ok h.symm⟩
  | cons x xs ih =>
    rw [List.mapM_cons, bind_eq_ok, List.forall₂_cons_left_iff]
    simp only [bind_eq_ok, ih]
    constructor
    · rintro ⟨y, hy, rest, hrest, hys⟩
      exact ⟨y, rest, hy, hrest, (Except.ok.inj hys).symm⟩
    · rintro ⟨y, rest, hy, hrest, rfl⟩
      exact ⟨y, hy, rest, hrest, rfl⟩

/-- Otherwise it fails as its first element does that is not read. -/
theorem mapM_eq_error {error : ε} : xs.mapM f = .error error ↔
    ∃ before x after, xs = before ++ x :: after ∧ (∀ b ∈ before, ∃ y, f b = .ok y) ∧
      f x = .error error := by
  induction xs with
  | nil => simp [pure, Except.pure]
  | cons x xs ih =>
    have hrest : ∀ y, (xs.mapM f >>= fun ys => pure (y :: ys)) = .error error ↔
        xs.mapM f = .error error := by
      intro y
      rw [bind_eq_error]
      exact or_iff_left nofun
    rw [List.mapM_cons, bind_eq_error]
    simp only [hrest, ih]
    constructor
    · rintro (hx | ⟨y, hy, before, z, after, rfl, hbefore, hz⟩)
      · exact ⟨[], x, xs, rfl, nofun, hx⟩
      · exact ⟨x :: before, z, after, rfl, List.forall_mem_cons.2 ⟨⟨y, hy⟩, hbefore⟩, hz⟩
    · rintro ⟨before, z, after, hxs, hbefore, hz⟩
      cases before with
      | nil =>
        obtain ⟨rfl, -⟩ := List.cons.inj hxs
        exact .inl hz
      | cons b before =>
        obtain ⟨rfl, rfl⟩ := List.cons.inj hxs
        obtain ⟨⟨y, hy⟩, hothers⟩ := List.forall_mem_cons.1 hbefore
        exact .inr ⟨y, hy, before, z, after, rfl, hothers, hz⟩

theorem exists_mapM_eq_error :
    (∃ error, xs.mapM f = .error error) ↔ ∃ x ∈ xs, ∃ error, f x = .error error := by
  constructor
  · rintro ⟨error, h⟩
    obtain ⟨before, x, after, rfl, -, hx⟩ := mapM_eq_error.1 h
    exact ⟨x, List.mem_append_right before List.mem_cons_self, error, hx⟩
  · rintro ⟨x, hmem, error, hx⟩
    cases h : xs.mapM f with
    | error cause => exact ⟨cause, rfl⟩
    | ok ys =>
      have hall := mapM_eq_ok.1 h
      obtain ⟨i, hi, rfl⟩ := List.getElem_of_mem hmem
      have hy := hall.get hi (hall.length_eq ▸ hi)
      rw [List.get_eq_getElem, hx] at hy
      cases hy

end Lists

end ChainExplorer
