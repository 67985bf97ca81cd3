/-!
# Taking one element out of a list

The state machines of this library keep what is going on in lists, and an event names one entry of a
list, which leaves it. `extract?` is that step: the first entry that fits, and the list without it.
-/

namespace ChainExplorer

/-- The first element that satisfies a test, and the rest in the old order. -/
def extract? {α : Type} (p : α → Bool) : List α → Option (α × List α)
  | [] => none
  | x :: xs => if p x then some (x, xs) else (extract? p xs).map fun r => (r.1, x :: r.2)

/-- What is taken out satisfies the test, and nothing else changes. -/
theorem extract?_eq_some {α : Type} {p : α → Bool} {xs rest : List α} {x : α}
    (h : extract? p xs = some (x, rest)) :
    p x = true ∧ ∃ before after, xs = before ++ x :: after ∧ rest = before ++ after := by
  induction xs generalizing rest with
  | nil => simp [extract?] at h
  | cons y ys ih =>
    rw [extract?] at h
    split at h
    · rename_i hy
      obtain ⟨rfl, rfl⟩ := Prod.mk.inj (Option.some.inj h)
      exact ⟨hy, [], ys, rfl, rfl⟩
    · obtain ⟨⟨z, rest'⟩, hz, he⟩ := Option.map_eq_some_iff.1 h
      obtain ⟨rfl, rfl⟩ := Prod.mk.inj he
      obtain ⟨hp, before, after, rfl, rfl⟩ := ih hz
      exact ⟨hp, y :: before, after, rfl, rfl⟩

theorem length_of_extract? {α : Type} {p : α → Bool} {xs rest : List α} {x : α}
    (h : extract? p xs = some (x, rest)) : xs.length = rest.length + 1 := by
  obtain ⟨_, before, after, rfl, rfl⟩ := extract?_eq_some h
  simp; omega

theorem perm_of_extract? {α : Type} {p : α → Bool} {xs rest : List α} {x : α}
    (h : extract? p xs = some (x, rest)) : xs.Perm (x :: rest) := by
  obtain ⟨_, before, after, rfl, rfl⟩ := extract?_eq_some h
  exact List.perm_middle

theorem sublist_of_extract? {α : Type} {p : α → Bool} {xs rest : List α} {x : α}
    (h : extract? p xs = some (x, rest)) : rest.Sublist xs := by
  obtain ⟨_, before, after, rfl, rfl⟩ := extract?_eq_some h
  exact List.Sublist.append_left (List.sublist_cons_self x after) before

theorem countP_of_extract? {α : Type} {p : α → Bool} {xs rest : List α} {x : α}
    (h : extract? p xs = some (x, rest)) (q : α → Bool) :
    xs.countP q = rest.countP q + if q x then 1 else 0 := by
  rw [(perm_of_extract? h).countP_eq, List.countP_cons]

theorem mem_of_extract? {α : Type} {p : α → Bool} {xs rest : List α} {x y : α}
    (h : extract? p xs = some (x, rest)) : y ∈ xs ↔ y = x ∨ y ∈ rest := by
  rw [(perm_of_extract? h).mem_iff, List.mem_cons]

theorem extract?_eq_none {α : Type} {p : α → Bool} {xs : List α} :
    extract? p xs = none ↔ ∀ x ∈ xs, p x = false := by
  induction xs with
  | nil => simp [extract?]
  | cons y ys ih =>
    rw [extract?]
    split
    · simp_all
    · simp_all

/-- Where only the last element satisfies the test, it is taken. -/
theorem extract?_concat {α : Type} {p : α → Bool} {xs : List α} {x : α}
    (hxs : ∀ y ∈ xs, p y = false) (hx : p x = true) : extract? p (xs ++ [x]) = some (x, xs) := by
  induction xs with
  | nil => simp [extract?, hx]
  | cons y ys ih =>
    rw [List.forall_mem_cons] at hxs
    rw [List.cons_append, extract?, hxs.1, ih hxs.2]
    rfl

theorem extract?_map {α β : Type} {p : β → Bool} {f : α → β} {xs rest : List α} {x : α}
    (h : extract? (fun y => p (f y)) xs = some (x, rest)) :
    extract? p (xs.map f) = some (f x, rest.map f) := by
  induction xs generalizing rest with
  | nil => cases h
  | cons y ys ih =>
    rw [extract?] at h
    rw [List.map_cons, extract?]
    split at h
    · rename_i hy
      cases h
      rw [if_pos hy]
    · rename_i hy
      obtain ⟨⟨z, others⟩, hz, heq⟩ := Option.map_eq_some_iff.1 h
      cases heq
      rw [if_neg hy, ih hz]
      rfl

/-- What comes after the first element that satisfies the test makes no difference. -/
theorem extract?_append {α : Type} {p : α → Bool} {xs rest : List α} {x : α}
    (h : extract? p xs = some (x, rest)) (ys : List α) :
    extract? p (xs ++ ys) = some (x, rest ++ ys) := by
  induction xs generalizing rest with
  | nil => cases h
  | cons z zs ih =>
    rw [extract?] at h
    rw [List.cons_append, extract?]
    split at h
    · rename_i hz
      cases h
      rw [if_pos hz]
    · rename_i hz
      obtain ⟨⟨w, others⟩, hw, heq⟩ := Option.map_eq_some_iff.1 h
      cases heq
      rw [if_neg hz, ih hw]
      rfl

end ChainExplorer
