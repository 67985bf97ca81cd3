import ChainExplorer.Proofs.Bytes.Reversal
import ChainExplorer.Proofs.Checked.Reader
import ChainExplorer.Proofs.Results

/-!
# Words are read within their texts

A range is turned around by its bytes, after the tests that it is one of the text, and a word is cut
from its zeros, after the test that the text is one of digits.
-/

namespace ChainExplorer.Checked

/-! ## Byte order -/

/-- The whole pairs of a list of bytes; an odd one at the end is left out. -/
def pairs : List UInt8 → List (List UInt8)
  | a :: b :: bs => [a, b] :: pairs bs
  | _ => []

/-- The two characters of a pair. -/
def digitsOf (pair : List UInt8) : Except Breach (List Char) := do
  let first ← Partial.item pair 0
  let second ← Partial.item pair 1
  return [Char.ofUInt8 first, Char.ofUInt8 second]

def reverseBytes (text : String) (start stop : Nat) : Except Breach (Option String) :=
  if stop ≤ start ∨ text.utf8ByteSize < stop then return none
  else do
    let width ← Partial.minus stop start
    if width % 2 ≠ 0 ∨ (bytes text).all (·.toNat < 128) = false then return none
    else
      let range ← Partial.items (bytes text) start stop
      let turned ← (pairs range).reverse.mapM digitsOf
      return some (String.ofList turned.flatten)

theorem digitsOf_of_mem_pairs {bs pair : List UInt8} (h : pair ∈ pairs bs) :
    digitsOf pair = .ok (pair.map Char.ofUInt8) := by
  fun_induction pairs bs with
  | case1 a b bs ih =>
    rcases List.mem_cons.1 h with rfl | hrest
    · rfl
    · exact ih hrest
  | case2 => cases h

theorem mapM_digitsOf (bs : List UInt8) : (pairs bs).reverse.mapM digitsOf
    = .ok ((pairs bs).reverse.map fun pair => pair.map Char.ofUInt8) := by
  rw [mapM_eq_ok, List.forall₂_map_right_iff, List.forall₂_same]
  intro pair hpair
  exact digitsOf_of_mem_pairs (List.mem_reverse.1 hpair)

theorem flatten_pairs (bs : List UInt8) :
    ((pairs bs).reverse.map fun pair => pair.map Char.ofUInt8).flatten
      = Hex.reversePairs (bs.map Char.ofUInt8) := by
  fun_induction pairs bs with
  | case1 a b bs ih =>
    rw [List.reverse_cons, List.map_append, List.flatten_append, ih]
    exact (Hex.reversePairs_cons _ _ _).symm
  | case2 bs hshort =>
    match bs with
    | [] => rfl
    | [_] => rfl
    | a :: b :: bs => exact absurd rfl (hshort a b bs)

/-- The bytes of a range are its characters. -/
theorem map_range {text : String} {start stop : Nat} (h : Utf8.Ascii text.toList) :
    (((bytes text).drop start).take (stop - start)).map Char.ofUInt8
      = Script.range text start stop := by
  rw [List.map_take, List.map_drop, bytes, Utf8.map_ofUInt8_encode h, Script.range]

theorem reverseBytes_eq (text : String) (start stop : Nat) :
    reverseBytes text start stop = .ok (Script.reverseBytes? text start stop) := by
  have hall : (bytes text).all (·.toNat < 128) = true ↔ Utf8.Ascii text.toList := by
    rw [Utf8.ascii_iff]
    simp only [List.all_eq_true, decide_eq_true_eq, bytes]
  unfold reverseBytes
  -- The ends are tested before the width is taken of them, and all of that before the cut.
  by_cases hrange : stop ≤ start ∨ text.utf8ByteSize < stop
  · rw [if_pos hrange, Script.reverseBytes?_eq_none.2]
    · rfl
    · rintro ⟨-, hnonempty, hwithin, -⟩
      omega
  · rw [not_or, Nat.not_le, Nat.not_lt] at hrange
    rw [if_neg (by omega), bind_of_ok (Partial.minus_eq_ok.2 ⟨hrange.1.le, rfl⟩)]
    by_cases hbytes : (stop - start) % 2 ≠ 0 ∨ (bytes text).all (·.toNat < 128) = false
    · rw [if_pos hbytes, Script.reverseBytes?_eq_none.2]
      · rfl
      · rintro ⟨hascii, -, -, hwhole⟩
        rw [hall.2 hascii] at hbytes
        exact hbytes.elim (absurd hwhole) nofun
    · rw [if_neg hbytes]
      rw [not_or, Decidable.not_not, Bool.not_eq_false, hall] at hbytes
      have hwithin : stop ≤ (bytes text).length := by
        rw [length_bytes]
        exact hrange.2
      have hwhole : Script.WholeBytes text start stop :=
        ⟨hbytes.2, hrange.1, hrange.2, hbytes.1⟩
      rw [bind_of_ok (Partial.items_eq_ok.2 ⟨⟨hrange.1.le, hwithin⟩, rfl⟩),
        bind_of_ok (mapM_digitsOf _), flatten_pairs, map_range hbytes.2,
        Script.reverseBytes?_eq_some.2 ⟨hwhole, rfl⟩]
      rfl

/-! ## Words -/

def word (text : String) : Reader UInt64 :=
  if (bytes text).isEmpty || !(bytes text).all isHexByte then throw (.invalidHex text)
  else do
    let zeros := (text.toList.takeWhile (· = '0')).length
    let significant ← Partial.text text zeros text.utf8ByteSize
    if Script.wordWidth < significant.utf8ByteSize then throw (.overflow text)
    else if significant.utf8ByteSize = 0 then return 0
    else match Script.readWord? significant.toList with
      | some w => return w
      | none => throw (.invalidHex text)

def reversedWord (text : String) : Reader UInt64 := do
  match ← reverseBytes text 0 text.utf8ByteSize with
  | none => throw (.invalidHex text)
  | some reversed => word reversed

theorem drop_length_takeWhile (p : Char → Bool) (cs : List Char) :
    cs.drop (cs.takeWhile p).length = cs.dropWhile p :=
  calc cs.drop (cs.takeWhile p).length
      = (cs.takeWhile p ++ cs.dropWhile p).drop (cs.takeWhile p).length := by
        rw [List.takeWhile_append_dropWhile]
    _ = cs.dropWhile p := List.drop_left

theorem run_word (text : String) : (word text).run = .ok (Script.word text) := by
  have hempty : (bytes text).isEmpty = text.toList.isEmpty := by
    rw [Bool.eq_iff_iff, List.isEmpty_iff_length_eq_zero, List.isEmpty_iff, length_bytes,
      String.utf8ByteSize_eq_zero_iff, String.toList_eq_nil_iff]
  have hall : (bytes text).all isHexByte = Hex.isHex text.toList := all_isHexByte _
  unfold word Script.word
  rw [hempty, hall]
  refine run_ite Iff.rfl (fun _ => rfl) fun hhex => ?_
  simp only [Bool.or_eq_true, Bool.not_eq_true', not_or, Bool.not_eq_false] at hhex
  have hascii := ascii_of_digits (Hex.isHex_iff.1 hhex.2)
  -- The zeros are counted in characters and cut off in bytes, which is the same among digits.
  have hsize : (String.ofList (text.toList.dropWhile (· = '0'))).utf8ByteSize
      = (text.toList.dropWhile (· = '0')).length := by
    rw [Utf8.utf8ByteSize_of_ascii, String.toList_ofList]
    intro c hc
    rw [String.toList_ofList] at hc
    exact hascii c ((List.dropWhile_sublist _).subset hc)
  rw [run_lift_bind (Partial.text_to_end (List.takeWhile_sublist _).length_le hascii),
    drop_length_takeWhile, hsize, String.toList_ofList]
  refine run_ite Iff.rfl (fun _ => rfl) fun _ => ?_
  refine run_ite List.isEmpty_iff_length_eq_zero.symm (fun _ => rfl) fun _ => ?_
  cases Script.readWord? (text.toList.dropWhile (· = '0')) with
  | none => rfl
  | some w => rfl

/-- A text beyond ASCII is not turned around, whichever way its end is counted. -/
theorem reverseBytes_whole (text : String) :
    reverseBytes text 0 text.utf8ByteSize
      = .ok (Script.reverseBytes? text 0 text.toList.length) := by
  rw [reverseBytes_eq]
  by_cases hascii : Utf8.Ascii text.toList
  · rw [Utf8.utf8ByteSize_of_ascii hascii]
  · rw [Script.reverseBytes?_eq_none.2 (mt Script.WholeBytes.ascii hascii),
      Script.reverseBytes?_eq_none.2 (mt Script.WholeBytes.ascii hascii)]

theorem run_reversedWord (text : String) :
    (reversedWord text).run = .ok (Script.reversedWord text) := by
  unfold reversedWord Script.reversedWord
  rw [run_lift_bind (reverseBytes_whole text)]
  cases Script.reverseBytes? text 0 text.toList.length with
  | none => rfl
  | some reversed => exact run_word reversed

end ChainExplorer.Checked
