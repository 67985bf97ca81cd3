import ChainExplorer.Bytes.Hex
import ChainExplorer.Error.Decode
import ChainExplorer.Proofs.Bytes.Hex
import ChainExplorer.Proofs.Text.Slice

/-!
# Readers with operations that may have no result

A reader of the modules behind this one cuts texts and looks up fields with the operations of
`Partial`. It may refuse its text, and it may come upon an operation without a result; the second is
what never happens. So each step of a reader is compared with what the step gives that has no such
operations (`run_bind`, `run_ite`), and an operation that has its result drops out
(`run_lift_bind`).

The tests of a reader are on bytes. A text whose bytes are digits is within ASCII, so these tests
come to the same as those on characters (`isHexOfLength_eq`), and then each place between two bytes
is one between two characters.
-/

namespace ChainExplorer.Checked

/-- The bytes of a text. -/
def bytes (s : String) : List UInt8 := Utf8.encode s.toList

/-- Whether a byte is a hexadecimal digit. -/
def isHexByte (b : UInt8) : Bool := Hex.isDigit (Char.ofUInt8 b)

/-- Whether a text is of so many bytes and each is a digit. -/
def isHexOfLength (width : Nat) (s : String) : Bool :=
  s.utf8ByteSize == width && (bytes s).all isHexByte

/-! ## Digits among bytes -/

theorem length_bytes (s : String) : (bytes s).length = s.utf8ByteSize := Utf8.length_encode s

/-- A byte beyond ASCII is no digit, so the first byte of a character is a digit where the character
is, and it is the only one then. -/
theorem exists_encodeChar (c : Char) : ∃ b rest, String.utf8EncodeChar c = b :: rest ∧
    isHexByte b = Hex.isDigit c ∧ (Hex.isDigit c = true → rest = []) := by
  by_cases hc : c.toNat < 128
  · refine ⟨UInt8.ofNat c.toNat, [], Utf8.encodeChar_of_ascii hc, ?_, fun _ => rfl⟩
    rw [isHexByte, Utf8.ofUInt8_of_ascii hc]
  · obtain ⟨b, rest, hbytes, hb⟩ := Utf8.exists_le_of_not_ascii hc
    have hbeyond {d : Char} (hd : 128 ≤ d.toNat) : Hex.isDigit d = false := by
      apply Bool.eq_false_iff.2
      intro hdigit
      have hlt := (Hex.isDigit_iff.1 hdigit).toNat_lt
      omega
    have hnone : Hex.isDigit c = false := hbeyond (Nat.le_of_not_lt hc)
    refine ⟨b, rest, hbytes, ?_, ?_⟩
    · rw [isHexByte, hnone]
      exact hbeyond hb
    · intro h
      rw [hnone] at h
      cases h

theorem all_isHexByte (cs : List Char) : (Utf8.encode cs).all isHexByte = Hex.isHex cs := by
  induction cs with
  | nil => rfl
  | cons c cs ih =>
    obtain ⟨b, rest, hbytes, hb, hrest⟩ := exists_encodeChar c
    rw [Utf8.encode_cons, hbytes, List.cons_append, List.all_cons, hb, Hex.isHex, List.all_cons]
    cases hc : Hex.isDigit c with
    | false => rfl
    | true =>
      rw [hrest hc, List.nil_append, ih]
      rfl

/-- The same for the first bytes of a text, if it has so many. -/
theorem all_isHexByte_take {cs : List Char} {width : Nat}
    (h : width ≤ (Utf8.encode cs).length) :
    ((Utf8.encode cs).take width).all isHexByte = Hex.isHexOfLength width (cs.take width) := by
  induction cs generalizing width with
  | nil =>
    obtain rfl := Nat.le_zero.1 h
    rfl
  | cons c cs ih =>
    obtain ⟨b, rest, hbytes, hb, hrest⟩ := exists_encodeChar c
    rw [Utf8.encode_cons, hbytes, List.cons_append] at h ⊢
    cases width with
    | zero => rfl
    | succ width =>
      rw [List.take_succ_cons, List.take_succ_cons, List.all_cons, hb, Hex.isHexOfLength, Hex.isHex,
        List.all_cons]
      cases hc : Hex.isDigit c with
      | false => rw [Bool.false_and, Bool.false_and, Bool.and_false]
      | true =>
        rw [hrest hc, List.nil_append, List.length_cons] at h
        rw [hrest hc, List.nil_append, Bool.true_and, Bool.true_and, ih (Nat.le_of_succ_le_succ h)]
        simp only [Hex.isHexOfLength, Hex.isHex, List.length_cons, Nat.reduceBeqDiff]

theorem ascii_of_digits {cs : List Char} (h : ∀ c ∈ cs, Hex.Digit c) : Utf8.Ascii cs := by
  intro c hc
  have hlt := (h c hc).toNat_lt
  omega

theorem isHexOfLength_eq (width : Nat) (s : String) :
    isHexOfLength width s = Hex.isHexOfLength width s.toList := by
  unfold isHexOfLength Hex.isHexOfLength bytes
  rw [all_isHexByte]
  cases hhex : Hex.isHex s.toList with
  | false => rw [Bool.and_false, Bool.and_false]
  | true => rw [Utf8.utf8ByteSize_of_ascii (ascii_of_digits (Hex.isHex_iff.1 hhex))]

/-! ## Steps -/

/-- A reader that may refuse its text and may come upon an operation without a result. -/
abbrev Reader (α : Type) := ExceptT DecodeError (Except Breach) α

section Runs

variable {α β γ : Type}

/-- A reader that is made of operations with results only. -/
def total (r : Except DecodeError α) : Reader α := ExceptT.mk (pure r)

theorem run_total (r : Except DecodeError α) : (total r).run = .ok r := rfl

theorem bind_of_ok {x : Except Breach α} {a : α} (h : x = .ok a) (f : α → Except Breach β) :
    (x >>= f) = f a := by
  rw [h]
  rfl

theorem ite_of_ok {x : Except Breach Bool} {b : Bool} {r r' : Except Breach α} {a a' : α}
    (h : x = .ok b) (hr : r = .ok a) (hr' : r' = .ok a') :
    (do if ← x then r else r') = .ok (if b then a else a') := by
  rw [bind_of_ok h]
  cases b with
  | true => exact hr
  | false => exact hr'

/-- An operation that has its result leaves a reader with what follows. -/
theorem run_lift_bind {x : Except Breach α} {a : α} (h : x = .ok a) (f : α → Reader β) :
    ((liftM x : Reader α) >>= f).run = (f a).run := by
  rw [h]
  rfl

/-- A reader of two steps gives what it should if both steps do. What the first gives may have
another form than it should, which the second allows for. -/
theorem run_map_bind {r : Reader β} {x : Except DecodeError α} {form : α → β} {f : β → Reader γ}
    {g : α → Except DecodeError γ} (hr : r.run = .ok (x.map form))
    (hf : ∀ a, x = .ok a → (f (form a)).run = .ok (g a)) : (r >>= f).run = .ok (x >>= g) := by
  rw [ExceptT.run_bind, hr]
  cases x with
  | error error => rfl
  | ok a => exact hf a rfl

theorem run_bind {r : Reader α} {x : Except DecodeError α} {f : α → Reader γ}
    {g : α → Except DecodeError γ} (hr : r.run = .ok x)
    (hf : ∀ a, x = .ok a → (f a).run = .ok (g a)) : (r >>= f).run = .ok (x >>= g) := by
  have hsame : r.run = .ok (x.map id) := by
    rw [hr]
    cases x <;> rfl
  exact run_map_bind hsame hf

/-- Two readers that test the same give the same if they do so on either side of the test. -/
theorem run_ite {c d : Prop} [Decidable c] [Decidable d] {r r' : Reader α}
    {x x' : Except DecodeError α} (hsame : c ↔ d) (hr : c → r.run = .ok x)
    (hr' : ¬ c → r'.run = .ok x') : (if c then r else r').run = .ok (if d then x else x') := by
  by_cases hc : c
  · rw [if_pos hc, if_pos (hsame.1 hc), hr hc]
  · rw [if_neg hc, if_neg (mt hsame.2 hc), hr' hc]

end Runs

end ChainExplorer.Checked
