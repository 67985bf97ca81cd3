import ChainExplorer.Proofs.Bytes.Utf8
import Mathlib.Data.String.Basic

/-!
# Operations that have no result everywhere

A reader that counts in bytes takes a number from a smaller one, looks behind the end of a list or
cuts a character in two if its own tests do not prevent it. The operations below do what such a
reader does and say what it has come upon where there is no result (`Breach`). A list is cut where
the range lies in it; a text also needs both ends of the range between two characters
(`text_eq_ok`), which is so everywhere in front of a character beyond ASCII (`text_of_ascii`).
-/

namespace ChainExplorer

/-- Why an operation has no result. -/
inductive Breach where
  | underflow (minuend subtrahend : Nat)
  | index (place length : Nat)
  | range (start stop length : Nat)
  | insideCharacter (offset : Nat)
  deriving DecidableEq, Repr

namespace Partial

variable {α : Type}

/-- The difference of two numbers. -/
def minus (m n : Nat) : Except Breach Nat :=
  if n ≤ m then .ok (m - n) else .error (.underflow m n)

/-- The element at a place of a list. -/
def item (xs : List α) (place : Nat) : Except Breach α :=
  match xs[place]? with
  | some x => .ok x
  | none => .error (.index place xs.length)

/-- The elements of a range of a list. -/
def items (xs : List α) (start stop : Nat) : Except Breach (List α) :=
  if start ≤ stop ∧ stop ≤ xs.length then .ok ((xs.drop start).take (stop - start))
  else .error (.range start stop xs.length)

/-- The text between two byte offsets of a text. -/
def text (s : String) (start stop : Nat) : Except Breach String :=
  if start ≤ stop ∧ stop ≤ s.utf8ByteSize then
    if (String.Pos.Raw.mk start).isValid s = false then .error (.insideCharacter start)
    else if (String.Pos.Raw.mk stop).isValid s = false then .error (.insideCharacter stop)
    else .ok (String.Pos.Raw.extract s ⟨start⟩ ⟨stop⟩)
  else .error (.range start stop s.utf8ByteSize)

theorem minus_eq_ok {m n d : Nat} : minus m n = .ok d ↔ n ≤ m ∧ d = m - n := by
  unfold minus
  split
  · rename_i h
    rw [Except.ok.injEq, eq_comm]
    exact (and_iff_right h).symm
  · rename_i h
    exact ⟨nofun, fun hd => absurd hd.1 h⟩

theorem item_eq_ok {xs : List α} {place : Nat} {x : α} :
    item xs place = .ok x ↔ xs[place]? = some x := by
  unfold item
  cases xs[place]? with
  | none => exact ⟨nofun, nofun⟩
  | some y => rw [Except.ok.injEq, Option.some.injEq]

theorem items_eq_ok {xs ys : List α} {start stop : Nat} : items xs start stop = .ok ys ↔
    (start ≤ stop ∧ stop ≤ xs.length) ∧ ys = (xs.drop start).take (stop - start) := by
  unfold items
  split
  · rename_i h
    rw [Except.ok.injEq, eq_comm]
    exact (and_iff_right h).symm
  · rename_i h
    exact ⟨nofun, fun hys => absurd hys.1 h⟩

theorem text_append (front middle back : String) :
    text (front ++ middle ++ back) front.utf8ByteSize (front ++ middle).utf8ByteSize
      = .ok middle := by
  have hstart : (String.Pos.Raw.mk front.utf8ByteSize).isValid (front ++ middle ++ back) = true := by
    rw [String.Pos.Raw.isValid_eq_true_iff, String.Pos.Raw.isValid_iff_exists_append]
    exact ⟨front, middle ++ back, String.append_assoc, rfl⟩
  have hstop : (String.Pos.Raw.mk (front ++ middle).utf8ByteSize).isValid
      (front ++ middle ++ back) = true := by
    rw [String.Pos.Raw.isValid_eq_true_iff, String.Pos.Raw.isValid_iff_exists_append]
    exact ⟨front ++ middle, back, rfl, rfl⟩
  have hcut := String.extract_of_valid front.toList middle.toList back.toList
  rw [String.ofList_append, String.ofList_append, String.ofList_toList, String.ofList_toList,
    String.ofList_toList, String.utf8Len_toList, String.utf8Len_toList,
    ← String.utf8ByteSize_append] at hcut
  unfold text
  rw [hstart, hstop, hcut, if_pos, if_neg, if_neg]
  · simp
  · simp
  · simp only [String.utf8ByteSize_append]
    omega

theorem exists_parts {s : String} {start stop : Nat} (h : start ≤ stop)
    (hstart : (String.Pos.Raw.mk start).IsValid s) (hstop : (String.Pos.Raw.mk stop).IsValid s) :
    ∃ front middle back, s = front ++ middle ++ back ∧ start = front.utf8ByteSize ∧
      stop = (front ++ middle).utf8ByteSize := by
  obtain ⟨head, back, rfl, hhead⟩ := String.Pos.Raw.isValid_iff_exists_append.1 hstop
  obtain rfl : stop = head.utf8ByteSize := congrArg String.Pos.Raw.byteIdx hhead
  rcases String.Pos.Raw.isValid_append.1 hstart with hin | ⟨hbehind, -⟩
  · obtain ⟨front, middle, rfl, hfront⟩ := String.Pos.Raw.isValid_iff_exists_append.1 hin
    exact ⟨front, middle, back, rfl, congrArg String.Pos.Raw.byteIdx hfront, rfl⟩
  · obtain rfl : start = head.utf8ByteSize := Nat.le_antisymm h hbehind
    exact ⟨head, "", back, by rw [String.append_empty], rfl, by rw [String.append_empty]⟩

/-- **A text is cut into three parts or not at all.** -/
theorem text_eq_ok {s t : String} {start stop : Nat} : text s start stop = .ok t ↔
    ∃ front back, s = front ++ t ++ back ∧ start = front.utf8ByteSize ∧
      stop = (front ++ t).utf8ByteSize := by
  constructor
  · intro h
    have hcut := h
    unfold text at h
    split at h
    · rename_i hrange
      split at h
      · cases h
      split at h
      · cases h
      rename_i hstart hstop
      rw [Bool.not_eq_false, String.Pos.Raw.isValid_eq_true_iff] at hstart hstop
      obtain ⟨front, middle, back, rfl, rfl, rfl⟩ := exists_parts hrange.1 hstart hstop
      rw [text_append] at hcut
      cases hcut
      exact ⟨front, back, rfl, rfl, rfl⟩
    · cases h
  · rintro ⟨front, back, rfl, rfl, rfl⟩
    exact text_append front t back

/-- The second byte of a letter with an accent is no place to cut. -/
example : text "aé" 0 2 = .error (.insideCharacter 2) := by decide

/-- In front of the first character beyond ASCII bytes and characters are the same. -/
theorem text_of_ascii {s : String} {start stop : Nat} (h : start ≤ stop)
    (hstop : stop ≤ s.toList.length) (hascii : Utf8.Ascii (s.toList.take stop)) :
    text s start stop = .ok (String.ofList ((s.toList.drop start).take (stop - start))) := by
  have hsize {n : Nat} (hn : n ≤ stop) : (String.ofList (s.toList.take n)).utf8ByteSize = n := by
    have hfront : Utf8.Ascii (String.ofList (s.toList.take n)).toList := by
      intro c hc
      rw [String.toList_ofList] at hc
      exact hascii c ((List.take_prefix_take_left hn).subset hc)
    rw [Utf8.utf8ByteSize_of_ascii hfront, String.toList_ofList, List.length_take]
    omega
  have hfront : String.ofList (s.toList.take stop) = String.ofList (s.toList.take start) ++
      String.ofList ((s.toList.drop start).take (stop - start)) := by
    rw [← String.ofList_append, ← List.take_add, Nat.add_sub_of_le h]
  rw [text_eq_ok]
  refine ⟨String.ofList (s.toList.take start), String.ofList (s.toList.drop stop), ?_, ?_, ?_⟩
  · rw [← hfront, ← String.ofList_append, List.take_append_drop, String.ofList_toList]
  · exact (hsize h).symm
  · rw [← hfront]
    exact (hsize (Nat.le_refl stop)).symm

theorem text_to_end {s : String} {start : Nat} (h : start ≤ s.toList.length)
    (hascii : Utf8.Ascii s.toList) :
    text s start s.utf8ByteSize = .ok (String.ofList (s.toList.drop start)) := by
  rw [Utf8.utf8ByteSize_of_ascii hascii,
    text_of_ascii h (Nat.le_refl _) (by rwa [List.take_length]), List.take_of_length_le]
  exact (List.length_drop ..).le

theorem text_ofList {cs : List Char} {start stop : Nat} (h : start ≤ stop)
    (hstop : stop ≤ cs.length) (hascii : Utf8.Ascii cs) : text (String.ofList cs) start stop
      = .ok (String.ofList ((cs.drop start).take (stop - start))) := by
  rw [text_of_ascii h, String.toList_ofList]
  · rwa [String.toList_ofList]
  · rw [String.toList_ofList]
    intro c hc
    exact hascii c (List.mem_of_mem_take hc)

theorem text_ofList_to_end {cs : List Char} {start : Nat} (h : start ≤ cs.length)
    (hascii : Utf8.Ascii cs) : text (String.ofList cs) start (String.ofList cs).utf8ByteSize
      = .ok (String.ofList (cs.drop start)) := by
  rw [text_to_end, String.toList_ofList]
  · rwa [String.toList_ofList]
  · rwa [String.toList_ofList]

end Partial

end ChainExplorer
