import ChainExplorer.Proofs.Bytes.Hex
import ChainExplorer.Proofs.Bytes.Utf8
import ChainExplorer.Script.Word

/-!
# Turning bytes around on their text

A text of digit pairs is turned around pair by pair, onto what has been turned already. All there is
to know of that follows from how it treats a text in two parts: the parts change places, each of them
turned around (`reversePairs_append`). A single pair stays as it is, so the pair that stood so far
from the end comes to stand so far from the front, and turning around twice changes nothing.

A range of a text is turned around exactly if it is one of whole bytes (`reversal_of_whole_bytes`).
It may begin anywhere, also between the digits of what another reader takes for a byte.
-/

namespace ChainExplorer

namespace Hex

/-- What has been turned already stays behind the rest. -/
theorem reverseOnto_append (acc tail cs : List Char) :
    reverseOnto (acc ++ tail) cs = reverseOnto acc cs ++ tail := by
  fun_induction reverseOnto acc cs with
  | case1 acc a b cs ih => exact ih
  | case2 cs acc hshort =>
    unfold reverseOnto
    split
    · exact absurd rfl (hshort _ _ _)
    · rfl

theorem reversePairs_cons (a b : Char) (cs : List Char) :
    reversePairs (a :: b :: cs) = reversePairs cs ++ [a, b] := by
  unfold reversePairs
  exact reverseOnto_append [] [a, b] cs

/-- **Two parts change places**, each of them turned around. -/
theorem reversePairs_append : ∀ {front : List Char}, front.length % 2 = 0 → ∀ back,
    reversePairs (front ++ back) = reversePairs back ++ reversePairs front
  | [], _, back => (List.append_nil _).symm
  | [_], h, _ => nomatch h
  | a :: b :: front, h, back => by
    have hrest : front.length % 2 = 0 := by
      simp only [List.length_cons] at h
      omega
    rw [List.cons_append, List.cons_append, reversePairs_cons, reversePairs_cons,
      reversePairs_append hrest, List.append_assoc]

theorem length_reversePairs {cs : List Char} (h : cs.length % 2 = 0) :
    (reversePairs cs).length = cs.length :=
  (perm_reverseOnto [] h).length_eq

theorem reversePairs_reversePairs : ∀ {cs : List Char}, cs.length % 2 = 0 →
    reversePairs (reversePairs cs) = cs
  | [], _ => rfl
  | [_], h => nomatch h
  | a :: b :: cs, h => by
    have hrest : cs.length % 2 = 0 := by
      simp only [List.length_cons] at h
      omega
    have hturned : (reversePairs cs).length % 2 = 0 := by rwa [length_reversePairs hrest]
    rw [reversePairs_cons, reversePairs_append hturned, reversePairs_reversePairs hrest]
    rfl

/-- The two digits of the byte at a place of a text. -/
def byteAt (cs : List Char) (place : Nat) : List Char := (cs.drop place).take 2

/-- **The byte that stood so far from the end stands so far from the front.** -/
theorem byteAt_reversePairs {cs : List Char} (h : cs.length % 2 = 0) {k : Nat}
    (hk : 2 * k < cs.length) :
    byteAt (reversePairs cs) (2 * k) = byteAt cs (cs.length - 2 * (k + 1)) := by
  have hbehind : (cs.drop (cs.length - 2 * k)).length = 2 * k := by
    rw [List.length_drop]
    omega
  have hbyte : (byteAt cs (cs.length - 2 * (k + 1))).length = 2 := by
    rw [byteAt, List.length_take, List.length_drop]
    omega
  have hfront : (cs.take (cs.length - 2 * (k + 1))).length % 2 = 0 := by
    rw [List.length_take]
    omega
  -- The text is what stands in front of the byte, the byte, and what stands behind it.
  have hparts : cs = cs.take (cs.length - 2 * (k + 1)) ++
      (byteAt cs (cs.length - 2 * (k + 1)) ++ cs.drop (cs.length - 2 * k)) := by
    have hplace : cs.length - 2 * k = cs.length - 2 * (k + 1) + 2 := by omega
    rw [hplace, byteAt, ← List.drop_drop, List.take_append_drop, List.take_append_drop]
  generalize byteAt cs (cs.length - 2 * (k + 1)) = byte at hbyte hparts ⊢
  generalize cs.take (cs.length - 2 * (k + 1)) = front at hfront hparts
  generalize cs.drop (cs.length - 2 * k) = behind at hbehind hparts
  have hwhole : byte.length % 2 = 0 := by rw [hbyte]
  have hturned : (reversePairs behind).length = 2 * k := by
    rw [length_reversePairs (by rw [hbehind]; exact Nat.mul_mod_right 2 k), hbehind]
  have hsame : reversePairs byte = byte := by
    match byte, hbyte with
    | [a, b], _ => rfl
  rw [hparts, reversePairs_append hfront, reversePairs_append hwhole, hsame, byteAt,
    List.append_assoc, ← hturned, List.drop_left, ← hbyte, List.take_left]

end Hex

namespace Script

/-- A range of a text within ASCII that is not empty and holds whole bytes. -/
structure WholeBytes (text : String) (start stop : Nat) : Prop where
  ascii : Utf8.Ascii text.toList
  nonempty : start < stop
  within : stop ≤ text.utf8ByteSize
  whole : (stop - start) % 2 = 0

/-- The characters of a range of a text. -/
def range (text : String) (start stop : Nat) : List Char :=
  (text.toList.drop start).take (stop - start)

theorem WholeBytes.length_range {text : String} {start stop : Nat}
    (h : WholeBytes text start stop) : (range text start stop).length = stop - start := by
  have hwithin := h.within
  rw [Utf8.utf8ByteSize_of_ascii h.ascii] at hwithin
  rw [range, List.length_take, List.length_drop]
  omega

theorem WholeBytes.ascii_range {text : String} {start stop : Nat}
    (h : WholeBytes text start stop) : Utf8.Ascii (range text start stop) := by
  intro c hc
  exact h.ascii c (List.mem_of_mem_drop (List.mem_of_mem_take hc))

theorem WholeBytes.even_range {text : String} {start stop : Nat}
    (h : WholeBytes text start stop) : (range text start stop).length % 2 = 0 := by
  rw [h.length_range]
  exact h.whole

theorem range_append {text : String} {start m stop : Nat} (hstart : start ≤ m) (hstop : m ≤ stop) :
    range text start stop = range text start m ++ range text m stop := by
  have hparts : stop - start = (m - start) + (stop - m) := by omega
  have hplace : start + (m - start) = m := by omega
  unfold range
  rw [hparts, List.take_add, List.drop_drop, hplace]

theorem range_whole {text : String} (h : Utf8.Ascii text.toList) :
    range text 0 text.utf8ByteSize = text.toList := by
  rw [range, Utf8.utf8ByteSize_of_ascii h, List.drop_zero, Nat.sub_zero, List.take_length]

theorem reverseBytes?_eq_some {text r : String} {start stop : Nat} :
    reverseBytes? text start stop = some r ↔
      WholeBytes text start stop ∧ r = String.ofList (Hex.reversePairs (range text start stop)) := by
  have hascii : text.toList.all (·.toNat < 128) = true ↔ Utf8.Ascii text.toList := by
    simp only [List.all_eq_true, decide_eq_true_eq, Utf8.Ascii]
  unfold reverseBytes? Hex.reverseRange?
  constructor
  · intro h
    split at h
    · rename_i hrange
      obtain ⟨hne, hwithin, hwhole, hall⟩ := hrange
      have htext := hascii.1 hall
      rw [← Utf8.utf8ByteSize_of_ascii htext] at hwithin
      exact ⟨⟨htext, hne, hwithin, hwhole⟩, (Option.some.inj h).symm⟩
    · cases h
  · rintro ⟨hrange, rfl⟩
    have hwithin := hrange.within
    rw [Utf8.utf8ByteSize_of_ascii hrange.ascii] at hwithin
    rw [if_pos ⟨hrange.nonempty, hwithin, hrange.whole, hascii.2 hrange.ascii⟩]
    rfl

theorem reverseBytes?_eq_none {text : String} {start stop : Nat} :
    reverseBytes? text start stop = none ↔ ¬ WholeBytes text start stop := by
  constructor
  · intro h hrange
    rw [reverseBytes?_eq_some.2 ⟨hrange, rfl⟩] at h
    cases h
  · intro hrange
    apply Option.eq_none_iff_forall_ne_some.2
    intro r hr
    exact hrange (reverseBytes?_eq_some.1 hr).1

/-- A text that has been turned around can be turned around again. -/
theorem WholeBytes.turned {text : String} {start stop : Nat} (h : WholeBytes text start stop) :
    WholeBytes (String.ofList (Hex.reversePairs (range text start stop))) 0 (stop - start) ∧
      (String.ofList (Hex.reversePairs (range text start stop))).utf8ByteSize = stop - start := by
  have hascii : Utf8.Ascii
      (String.ofList (Hex.reversePairs (range text start stop))).toList := by
    intro c hc
    rw [String.toList_ofList] at hc
    exact h.ascii_range c ((Hex.perm_reverseOnto [] h.even_range).mem_iff.1 hc)
  have hsize : (String.ofList (Hex.reversePairs (range text start stop))).utf8ByteSize
      = stop - start := by
    rw [Utf8.utf8ByteSize_of_ascii hascii, String.toList_ofList,
      Hex.length_reversePairs h.even_range, h.length_range]
  exact ⟨⟨hascii, Nat.sub_pos_of_lt h.nonempty, hsize.ge, h.whole⟩, hsize⟩

/-- **Ranges of whole bytes, and no others, are turned around.** The byte that is so far from the end
of the range comes so far from the front, turning the result around as a whole gives the range back,
and a range in two parts is turned around part by part with the parts in the opposite order. -/
theorem reversal_of_whole_bytes (text : String) (start stop : Nat) :
    ((∃ r, reverseBytes? text start stop = some r) ↔ WholeBytes text start stop) ∧
    ∀ r, reverseBytes? text start stop = some r →
      Utf8.Ascii r.toList ∧ r.utf8ByteSize = stop - start ∧
      (∀ k, 2 * k < stop - start → Hex.byteAt r.toList (2 * k)
        = Hex.byteAt (range text start stop) (stop - start - 2 * (k + 1))) ∧
      reverseBytes? r 0 r.utf8ByteSize = some (String.ofList (range text start stop)) ∧
      ∀ m, start < m → m < stop → (m - start) % 2 = 0 → (stop - m) % 2 = 0 →
        ∃ front behind, reverseBytes? text start m = some front ∧
          reverseBytes? text m stop = some behind ∧ r = behind ++ front := by
  constructor
  · constructor
    · rintro ⟨r, hr⟩
      exact (reverseBytes?_eq_some.1 hr).1
    · intro hrange
      exact ⟨_, reverseBytes?_eq_some.2 ⟨hrange, rfl⟩⟩
  · intro r hr
    obtain ⟨hrange, rfl⟩ := reverseBytes?_eq_some.1 hr
    obtain ⟨hturned, hsize⟩ := hrange.turned
    refine ⟨hturned.ascii, hsize, ?_, ?_, ?_⟩
    · intro k hk
      rw [String.toList_ofList, ← hrange.length_range]
      apply Hex.byteAt_reversePairs hrange.even_range
      rwa [hrange.length_range]
    · rw [reverseBytes?_eq_some]
      refine ⟨hsize ▸ hturned, ?_⟩
      rw [range_whole hturned.ascii, String.toList_ofList,
        Hex.reversePairs_reversePairs hrange.even_range]
    · intro m hstart hstop hfront hbehind
      have hfirst : WholeBytes text start m :=
        ⟨hrange.ascii, hstart, Nat.le_trans hstop.le hrange.within, hfront⟩
      have hsecond : WholeBytes text m stop := ⟨hrange.ascii, hstop, hrange.within, hbehind⟩
      refine ⟨_, _, reverseBytes?_eq_some.2 ⟨hfirst, rfl⟩, reverseBytes?_eq_some.2 ⟨hsecond, rfl⟩, ?_⟩
      rw [range_append hstart.le hstop.le, Hex.reversePairs_append hfirst.even_range,
        String.ofList_append]

/-- A range that begins and ends between the two digits of what another reader takes for a byte. -/
theorem reversal_of_whole_bytes_between :
    WholeBytes "aabbccdd" 1 7 ∧ reverseBytes? "aabbccdd" 1 7 = some "cdbcab" ∧
    Hex.byteAt "cdbcab".toList (2 * 1) = Hex.byteAt (range "aabbccdd" 1 7) (7 - 1 - 2 * (1 + 1)) ∧
    reverseBytes? "cdbcab" 0 "cdbcab".utf8ByteSize
      = some (String.ofList (range "aabbccdd" 1 7)) ∧
    ∃ front behind, reverseBytes? "aabbccdd" 1 3 = some front ∧
      reverseBytes? "aabbccdd" 3 7 = some behind ∧ "cdbcab" = behind ++ front := by
  obtain ⟨turns, turned⟩ := reversal_of_whole_bytes "aabbccdd" 1 7
  have hr : reverseBytes? "aabbccdd" 1 7 = some "cdbcab" := by decide
  obtain ⟨-, -, hbyte, hback, hparts⟩ := turned "cdbcab" hr
  exact ⟨turns.1 ⟨_, hr⟩, hr, hbyte 1 (by decide), hback,
    hparts 3 (by decide) (by decide) (by decide) (by decide)⟩

end Script

end ChainExplorer
