import ChainExplorer.History.Page
import Mathlib.Algebra.Order.Group.Nat
import Mathlib.Data.List.Basic
import Mathlib.Logic.ExistsUnique

/-!
# Pages cut a list up

A page is a window on the list as it is read from its end, and it begins where the page before it
ends. The start of a window is held at the largest word, which no list reaches, so a page that lies
so far out is as empty as if its start had been computed in full (`paginate_eq`). From there on
everything is about windows: side by side they give the list back, all of them are full but the
last, and an entry stands in exactly one of them (`pages_partition_index`).
-/

namespace ChainExplorer.History

variable {α : Type} {oldestFirst : List α} {page size : Nat}

/-! ## A page as a window -/

/-- On a list that a word can count, it makes no difference that the start of a page is held at the
largest word. -/
theorem paginate_eq (hl : oldestFirst.length < wordBound) (page size : Nat) :
    paginate oldestFirst page size = (oldestFirst.reverse.drop (page * size)).take size := by
  rw [paginate]
  rcases Nat.lt_or_ge (page * size) wordBound with hlt | hge
  · rw [Nat.min_eq_left (Nat.le_sub_one_of_lt hlt)]
  · rw [Nat.min_eq_right (by omega), List.drop_of_length_le (by rw [List.length_reverse]; omega),
      List.drop_of_length_le (by rw [List.length_reverse]; omega)]

theorem length_paginate (hl : oldestFirst.length < wordBound) (page size : Nat) :
    (paginate oldestFirst page size).length = min size (oldestFirst.length - page * size) := by
  rw [paginate_eq hl, List.length_take, List.length_drop, List.length_reverse]

theorem getElem?_paginate (hl : oldestFirst.length < wordBound) (page size slot : Nat) :
    (paginate oldestFirst page size)[slot]?
      = if slot < size then oldestFirst.reverse[page * size + slot]? else none := by
  rw [paginate_eq hl, List.getElem?_take, List.getElem?_drop]

theorem paginate_map {β : Type} (f : α → β) (oldestFirst : List α) (page size : Nat) :
    paginate (oldestFirst.map f) page size = (paginate oldestFirst page size).map f := by
  rw [paginate, paginate, List.map_take, List.map_drop, List.map_reverse]

/-- Windows side by side give back what they lie on. -/
theorem flatMap_paginate (hl : oldestFirst.length < wordBound) (size n : Nat) :
    (List.range n).flatMap (paginate oldestFirst · size) = oldestFirst.reverse.take (n * size) := by
  induction n with
  | zero => rw [List.range_zero, List.flatMap_nil, Nat.zero_mul, List.take_zero]
  | succ n ih =>
    rw [List.range_succ, List.flatMap_append, List.flatMap_singleton, ih, paginate_eq hl,
      Nat.succ_mul, List.take_add]

/-! ## How many pages there are -/

/-- The number of pages of so many entries. -/
def pageCount (entries size : Nat) : Nat := (entries + size - 1) / size

theorem lt_pageCount {entries : Nat} (hs : 0 < size) :
    page < pageCount entries size ↔ page * size < entries := by
  rw [pageCount, ← Nat.succ_le_iff, Nat.le_div_iff_mul_le hs, Nat.succ_mul]
  omega

/-! ## Entries and their places -/

/-- An entry under its number in the list stands where reading from the end comes to it. -/
theorem getElem?_paginate_zipIdx (hl : oldestFirst.length < wordBound) {i slot : Nat}
    (hi : i < oldestFirst.length) :
    (paginate oldestFirst.zipIdx page size)[slot]? = some (oldestFirst[i], i) ↔
      slot < size ∧ page * size + slot = oldestFirst.length - 1 - i := by
  have hzip : oldestFirst.zipIdx.length < wordBound := by rwa [List.length_zipIdx]
  rw [getElem?_paginate hzip]
  by_cases hslot : slot < size
  · rw [if_pos hslot]
    by_cases hplace : page * size + slot < oldestFirst.length
    · rw [List.getElem?_reverse (by rwa [List.length_zipIdx]), List.length_zipIdx,
        List.getElem?_zipIdx, Option.map_eq_some_iff]
      constructor
      · rintro ⟨entry, -, heq⟩
        have hnumber := (Prod.mk.inj heq).2
        omega
      · rintro ⟨-, hend⟩
        have hback : oldestFirst.length - 1 - (page * size + slot) = i := by omega
        refine ⟨oldestFirst[i], ?_, ?_⟩
        · rw [hback, List.getElem?_eq_getElem hi]
        · rw [hback, Nat.zero_add]
    · rw [List.getElem?_eq_none (by rw [List.length_reverse, List.length_zipIdx]; omega)]
      constructor
      · nofun
      · rintro ⟨-, hend⟩
        omega
  · rw [if_neg hslot]
    exact iff_of_false nofun fun h => hslot h.1

/-- **The pages of a list partition it.** Side by side they are the list from its end, every page
before the last has as many entries as fit, and every later one is empty, be it so far out that its
start is no word. So each entry, told apart from its likes by its number, has one page and one place
on it. -/
theorem pages_partition_index (hl : oldestFirst.length < wordBound) (hs : 0 < size) :
    (∀ n, pageCount oldestFirst.length size ≤ n →
      (List.range n).flatMap (paginate oldestFirst · size) = oldestFirst.reverse) ∧
    (∀ page, page < pageCount oldestFirst.length size ↔ paginate oldestFirst page size ≠ []) ∧
    (∀ page, page + 1 < pageCount oldestFirst.length size →
      (paginate oldestFirst page size).length = size) ∧
    (∀ page, wordBound ≤ page * size → paginate oldestFirst page size = []) ∧
    (∀ page, (paginate oldestFirst.zipIdx page size).map Prod.fst
      = paginate oldestFirst page size) ∧
    ∀ i (hi : i < oldestFirst.length), ∃! place : Nat × Nat,
      (paginate oldestFirst.zipIdx place.1 size)[place.2]? = some (oldestFirst[i], i) := by
  have hempty (page : Nat) :
      paginate oldestFirst page size ≠ [] ↔ page * size < oldestFirst.length := by
    rw [← List.length_pos_iff, length_paginate hl]
    omega
  refine ⟨fun n hn => ?_, fun page => ?_, fun page hp => ?_, fun page hp => ?_, fun page => ?_, ?_⟩
  · have hall := mt (lt_pageCount hs).2 (Nat.not_lt.2 hn)
    rw [flatMap_paginate hl, List.take_of_length_le]
    rw [List.length_reverse]
    omega
  · rw [hempty, lt_pageCount hs]
  · have hnext := (lt_pageCount hs).1 hp
    rw [Nat.succ_mul] at hnext
    rw [length_paginate hl]
    omega
  · by_contra hne
    have hwithin := (hempty page).1 hne
    omega
  · rw [← paginate_map, List.zipIdx_map_fst]
  · intro i hi
    refine ⟨((oldestFirst.length - 1 - i) / size, (oldestFirst.length - 1 - i) % size), ?_, ?_⟩
    · exact (getElem?_paginate_zipIdx hl hi).2 ⟨Nat.mod_lt _ hs, Nat.div_add_mod' _ _⟩
    · rintro ⟨page, slot⟩ hplace
      obtain ⟨hslot, hend⟩ := (getElem?_paginate_zipIdx hl hi).1 hplace
      rw [← hend, Nat.add_comm, Nat.add_mul_div_right _ _ hs, Nat.div_eq_of_lt hslot,
        Nat.add_mul_mod_self_right, Nat.mod_eq_of_lt hslot, Nat.zero_add]

/-- Five entries on pages of two, the last page with one; and a page of which the start is past the
largest word. -/
theorem pages_partition_index_ragged :
    [3, 1, 4, 1, 5].length < wordBound ∧ 0 < 2 ∧
    [0, 1, 2, 3].map (paginate [3, 1, 4, 1, 5] · 2) = [[5, 1], [4, 1], [3], []] ∧
    pageCount [3, 1, 4, 1, 5].length 2 = 3 ∧
    (List.range 3).flatMap (paginate [3, 1, 4, 1, 5] · 2) = [5, 1, 4, 1, 3] ∧
    (∀ page, page + 1 < 3 → (paginate [3, 1, 4, 1, 5] page 2).length = 2) ∧
    wordBound ≤ wordBound * 2 ∧ paginate [3, 1, 4, 1, 5] wordBound 2 = [] ∧
    ∃! place : Nat × Nat, (paginate [3, 1, 4, 1, 5].zipIdx place.1 2)[place.2]? = some (1, 3) := by
  have hl : [3, 1, 4, 1, 5].length < wordBound := by decide
  have hs : 0 < 2 := by decide
  obtain ⟨hall, -, hfull, hfar, -, hplace⟩ := pages_partition_index hl hs
  have hpast : wordBound ≤ wordBound * 2 := by decide
  exact ⟨hl, hs, by decide, by decide, hall 3 (by decide), hfull, hpast, hfar _ hpast,
    hplace 3 (by decide)⟩

end ChainExplorer.History
