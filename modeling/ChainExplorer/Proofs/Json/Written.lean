import ChainExplorer.Proofs.Json.Numeral

/-!
# What is written can be passed over and read

A written value has no control character in it, whatever its strings hold, because every one is
escaped (`printable_render`). A reader that wants none of it passes over it to its very end
(`skipValue_render`), and one that wants some members of a written object finds exactly those
(`readObject?_render`). The fuel of both readers bounds the nesting and not the calls, so the length
of the text is enough of it.

Passing over is proved by the recursion of the printer. What stands behind a value never continues
it: a comma or a closing bracket in the middle of a text, and nothing at its end.
-/

namespace ChainExplorer.Json

open ChainExplorer.Text

/-! ## No control characters -/

/-- A text without control characters. -/
def Printable (cs : List Char) : Prop := ∀ c ∈ cs, 32 ≤ c.toNat

instance (cs : List Char) : Decidable (Printable cs) :=
  List.decidableBAll (fun c : Char => 32 ≤ c.toNat) cs

theorem Printable.nil : Printable [] := fun _ h => absurd h List.not_mem_nil

theorem Printable.append {cs ds : List Char} (hc : Printable cs) (hd : Printable ds) :
    Printable (cs ++ ds) := fun c hmem => (List.mem_append.1 hmem).elim (hc c) (hd c)

theorem Printable.cons {c : Char} {cs : List Char} (h : 32 ≤ c.toNat) (hcs : Printable cs) :
    Printable (c :: cs) := List.forall_mem_cons.2 ⟨h, hcs⟩

theorem printable_of_digits {ds : List Char} (hd : ∀ c ∈ ds, isDigit c = true) :
    Printable ds := by
  intro c hc
  have hdigit := hd c hc
  simp only [isDigit, digit?] at hdigit
  split at hdigit
  · rename_i hrange
    exact Nat.le_trans (by decide) (UInt32.le_iff_toNat_le.1 (Char.le_def.1 hrange.1))
  · cases hdigit

theorem printable_toDigits (n : Nat) : Printable (toDigits n) :=
  printable_of_digits fun _ hc => isDigit_of_mem_toDigits n hc

theorem printable_zeros (n : Nat) : Printable (List.replicate n '0') := by
  intro c hc
  rw [List.eq_of_mem_replicate hc]
  decide

theorem printable_escape (c : Char) : Printable (escape c) := by
  have hhex : ∀ d, d < 16 → 32 ≤ (Hex.digitChar d).toNat := by decide
  unfold escape
  repeat' split
  all_goals try decide
  · rename_i hlt
    have hh := hhex (c.toNat / 16) (by omega)
    have hl := hhex (c.toNat % 16) (by omega)
    exact .cons (by decide) (.cons (by decide) (.cons (by decide) (.cons (by decide)
      (.cons hh (.cons hl .nil)))))
  · rename_i hge
    exact .cons (Nat.le_of_not_lt hge) .nil

theorem printable_quote (s : String) : Printable (quote s) := by
  refine .cons (by decide) (.append ?_ (.cons (by decide) .nil))
  intro d hd
  obtain ⟨c, -, hmem⟩ := List.mem_flatMap.1 hd
  exact printable_escape c d hmem

theorem printable_renderInt (i : Int) : Printable (renderInt i) := by
  unfold renderInt
  split
  · exact .cons (by decide) (printable_toDigits _)
  · exact printable_toDigits _

theorem printable_layout (layout : Binary64.Layout) (d : Binary64.Decimal) :
    Printable (layout.render d) := by
  have hds := printable_toDigits d.digits
  have htake : ∀ n, Printable ((toDigits d.digits).take n) :=
    fun n c hc => hds c (List.mem_of_mem_take hc)
  have hdrop : ∀ n, Printable ('.' :: (toDigits d.digits).drop n) :=
    fun n => .cons (by decide) fun c hc => hds c (List.mem_of_mem_drop hc)
  simp only [Binary64.Layout.render]
  split
  · split
    · exact (hds.append (printable_zeros _)).append (by decide)
    · split
      · exact (htake _).append (hdrop _)
      · exact (Printable.append (by decide) (printable_zeros _)).append hds
  · refine .append (.append (.append (htake 1) ?_) ?_) (printable_toDigits _)
    · split
      · exact .nil
      · exact hdrop 1
    · split <;> decide

theorem printable_text (x : Binary64) : Printable x.text := by
  refine .append ?_ (printable_layout _ _)
  split <;> decide

mutual

/-- **No control character stands in a written value.** -/
theorem printable_render : ∀ v : Json, Printable (render v)
  | .null => by decide
  | .bool true => by decide
  | .bool false => by decide
  | .int i => printable_renderInt i
  | .float x => printable_text x
  | .string s => printable_quote s
  | .array items => .cons (by decide) (printable_renderItems items)
  | .object ms => .cons (by decide) (printable_renderMembers ms)

theorem printable_renderItems : ∀ items : List Json, Printable (renderItems items)
  | [] => by decide
  | [v] => (printable_render v).append (by decide)
  | v :: w :: vs =>
    (printable_render v).append (.cons (by decide) (printable_renderItems (w :: vs)))

theorem printable_renderMembers : ∀ ms : List (String × Json), Printable (renderMembers ms)
  | [] => by decide
  | [(k, v)] =>
    ((printable_quote k).append (.cons (by decide) (printable_render v))).append (by decide)
  | (k, v) :: m :: ms =>
    ((printable_quote k).append (.cons (by decide) (printable_render v))).append
      (.cons (by decide) (printable_renderMembers (m :: ms)))

end

/-! ## Strings -/

theorem hex_digit?_digitChar {n : Nat} (hn : n < 16) : Hex.digit? (Hex.digitChar n) = some n := by
  have h : ∀ d, d < 16 → Hex.digit? (Hex.digitChar d) = some d := by decide
  exact h n hn

/-- The four digits by which a control character is escaped. -/
theorem fourHex?_of_control {c : Char} (hc : c.toNat < 32) :
    fourHex? '0' '0' (Hex.digitChar (c.toNat / 16)) (Hex.digitChar (c.toNat % 16))
      = some c.toNat := by
  have hzero : Hex.digit? '0' = some 0 := by decide
  rw [fourHex?, hzero, hex_digit?_digitChar (by omega), hex_digit?_digitChar (by omega)]
  simp only [Option.some.injEq]
  omega

/-- A character that needs no escape. -/
def Plain (c : Char) : Prop := c ≠ '"' ∧ c ≠ '\\' ∧ 32 ≤ c.toNat

/-- A character is escaped by a letter, or by its number if it is a control character, or stands as
it is. -/
theorem escape_cases (c : Char) :
    (∃ d, escape c = ['\\', d] ∧ d ≠ 'u' ∧ unescape? d = some c) ∨
      (c.toNat < 32 ∧ escape c = ['\\', 'u', '0', '0', Hex.digitChar (c.toNat / 16),
        Hex.digitChar (c.toNat % 16)]) ∨ (Plain c ∧ escape c = [c]) := by
  unfold escape
  split
  · rename_i h
    exact .inl ⟨'"', rfl, by decide, congrArg some h.symm⟩
  split
  · rename_i h
    exact .inl ⟨'\\', rfl, by decide, congrArg some h.symm⟩
  split
  · rename_i h
    exact .inl ⟨'n', rfl, by decide, congrArg some h.symm⟩
  split
  · rename_i h
    exact .inl ⟨'r', rfl, by decide, congrArg some h.symm⟩
  split
  · rename_i h
    exact .inl ⟨'t', rfl, by decide, congrArg some h.symm⟩
  split
  · rename_i h; exact .inl ⟨_, rfl, by decide, congrArg some (Char.toNat_inj.1 h.symm)⟩
  split
  · rename_i h; exact .inl ⟨_, rfl, by decide, congrArg some (Char.toNat_inj.1 h.symm)⟩
  split
  · rename_i h; exact .inr (.inl ⟨h, rfl⟩)
  · rename_i hq hb _ _ _ _ _ hge
    exact .inr (.inr ⟨⟨hq, hb, Nat.le_of_not_lt hge⟩, rfl⟩)

theorem skipString_plain {c : Char} (hc : Plain c) (rest : List Char) :
    skipString (c :: rest) = skipString rest := by
  obtain ⟨hq, hb, hge⟩ := hc
  rw [skipString, if_neg (Nat.not_lt.2 hge)]
  · exact hq
  · exact fun _ _ _ _ _ h => absurd h hb
  · exact fun _ _ h => absurd h hb

theorem skipString_short {d : Char} (hu : d ≠ 'u') {c : Char} (hd : unescape? d = some c)
    (rest : List Char) : skipString ('\\' :: d :: rest) = skipString rest := by
  rw [skipString, hd, Option.isSome_some, if_pos rfl]
  exact fun _ _ _ _ _ h => absurd h hu

theorem readString_plain {c : Char} (hc : Plain c) (acc rest : List Char) :
    readString acc (c :: rest) = readString (c :: acc) rest := by
  obtain ⟨hq, hb, hge⟩ := hc
  rw [readString, if_neg (Nat.not_lt.2 hge)]
  · exact hq
  · exact fun _ _ _ _ _ _ _ _ _ h => absurd h hb
  · exact fun _ _ _ _ _ h => absurd h hb
  · exact fun _ _ h => absurd h hb

theorem readString_short {d : Char} (hu : d ≠ 'u') {c : Char} (hd : unescape? d = some c)
    (acc rest : List Char) : readString acc ('\\' :: d :: rest) = readString (c :: acc) rest := by
  rw [readString, hd]
  · exact fun _ _ _ _ _ _ _ _ _ h => absurd h hu
  · exact fun _ _ _ _ _ h => absurd h hu

theorem readString_numbered {a b c d : Char} {n : Nat} (hn : fourHex? a b c d = some n)
    (hl : n < 0xD800) (acc rest : List Char) :
    readString acc ('\\' :: 'u' :: a :: b :: c :: d :: rest)
      = readString (Char.ofNat n :: acc) rest := by
  have h : ¬ (0xD800 ≤ n ∧ n < 0xDC00) := by omega
  have h' : ¬ (0xDC00 ≤ n ∧ n < 0xE000) := by omega
  have h'' : ¬ (0xD800 ≤ n ∧ n < 0xE000) := by omega
  -- What follows decides only which of two equal branches is taken.
  rw [readString.eq_def]
  split
  · rename_i heq
    cases heq
  · rename_i heq
    cases heq
  · rename_i heq
    cases heq
    simp only [hn, if_neg h, if_neg h']
  · rename_i heq
    cases heq
    simp only [hn, if_neg h'']
  · rename_i hshape heq
    cases heq
    exact absurd rfl (hshape _ _ _ _ _ rfl)
  · rename_i hshape heq
    cases heq
    exact absurd rfl (hshape _ _ rfl)

theorem skipString_escape (c : Char) (rest : List Char) :
    skipString (escape c ++ rest) = skipString rest := by
  rcases escape_cases c with ⟨d, heq, hu, hd⟩ | ⟨hlt, heq⟩ | ⟨hplain, heq⟩
  · rw [heq]
    exact skipString_short hu hd rest
  · rw [heq]
    simp only [List.cons_append, List.nil_append]
    rw [skipString, fourHex?_of_control hlt]
    rfl
  · rw [heq]
    exact skipString_plain hplain rest

theorem readString_escape (c : Char) (acc rest : List Char) :
    readString acc (escape c ++ rest) = readString (c :: acc) rest := by
  rcases escape_cases c with ⟨d, heq, hu, hd⟩ | ⟨hlt, heq⟩ | ⟨hplain, heq⟩
  · rw [heq]
    exact readString_short hu hd acc rest
  · rw [heq]
    have hread := readString_numbered (fourHex?_of_control hlt) (by omega) acc rest
    rwa [Char.ofNat_toNat] at hread
  · rw [heq]
    exact readString_plain hplain acc rest

theorem skipString_quoted (cs rest : List Char) :
    skipString (cs.flatMap escape ++ '"' :: rest) = some rest := by
  induction cs with
  | nil => simp [skipString]
  | cons c cs ih => rw [List.flatMap_cons, List.append_assoc, skipString_escape, ih]

/-- **A written string is read as it was.** -/
theorem readString_quoted (cs acc rest : List Char) :
    readString acc (cs.flatMap escape ++ '"' :: rest) = some (acc.reverse ++ cs, rest) := by
  induction cs generalizing acc with
  | nil => simp [readString]
  | cons c cs ih =>
    rw [List.flatMap_cons, List.append_assoc, readString_escape, ih, List.reverse_cons,
      List.append_assoc]
    rfl

/-! ## Values that are passed over -/

theorem skipBlanks_of_ne {c : Char} (hc : c ≠ ' ' ∧ c ≠ '\n' ∧ c ≠ '\t' ∧ c ≠ '\r')
    (cs : List Char) : skipBlanks (c :: cs) = c :: cs := by
  simp [skipBlanks, hc]

theorem skipBlanks_skipBlanks (cs : List Char) : skipBlanks (skipBlanks cs) = skipBlanks cs := by
  induction cs with
  | nil => rfl
  | cons c cs ih =>
    rw [skipBlanks]
    split
    · exact ih
    · rename_i hc
      rw [skipBlanks, if_neg hc]

theorem skipValue_skipBlanks (fuel : Nat) (cs : List Char) :
    skipValue fuel (skipBlanks cs) = skipValue fuel cs := by
  cases fuel with
  | zero => simp only [skipValue]
  | succ fuel => rw [skipValue, skipValue, skipBlanks_skipBlanks]

theorem skipItems_skipBlanks (fuel : Nat) (cs : List Char) :
    skipItems fuel (skipBlanks cs) = skipItems fuel cs := by
  cases fuel with
  | zero => simp only [skipItems]
  | succ fuel => rw [skipItems, skipItems, skipValue_skipBlanks]

theorem skipMembers_skipBlanks (fuel : Nat) (cs : List Char) :
    skipMembers fuel (skipBlanks cs) = skipMembers fuel cs := by
  cases fuel with
  | zero => simp only [skipMembers]
  | succ fuel => rw [skipMembers, skipMembers, skipBlanks_skipBlanks]

/-- A number begins with a sign or a digit. -/
theorem head_of_skipNumber {cs rest : List Char} (h : skipNumber cs = some rest) :
    ∃ c tail, cs = c :: tail ∧ (c = '-' ∨ isDigit c = true) := by
  unfold skipNumber at h
  split at h
  · exact ⟨_, _, rfl, .inl rfl⟩
  · cases cs with
    | nil => cases h
    | cons c tail =>
      refine ⟨c, tail, rfl, .inr ?_⟩
      cases hc : isDigit c with
      | true => rfl
      | false =>
        rw [skipMagnitude, spanDigits, hc] at h
        cases h

theorem ne_of_begins {c d : Char} (hc : c = '-' ∨ isDigit c = true) (hsign : d ≠ '-')
    (hdigit : isDigit d = false) : c ≠ d := by
  rintro rfl
  rcases hc with hc | hc
  · exact hsign hc
  · rw [hdigit] at hc
    cases hc

theorem skipBlanks_of_begins {c : Char} (hc : c = '-' ∨ isDigit c = true) (tail : List Char) :
    skipBlanks (c :: tail) = c :: tail := by
  refine skipBlanks_of_ne ⟨?_, ?_, ?_, ?_⟩ tail <;>
    exact ne_of_begins hc (by decide) (by decide)

theorem skipValue_number {fuel : Nat} {cs rest : List Char} (h : skipNumber cs = some rest) :
    skipValue (fuel + 1) cs = some rest := by
  obtain ⟨c, tail, rfl, hc⟩ := head_of_skipNumber h
  rw [skipValue, skipBlanks_of_begins hc]
  split
  case h_7 => exact h
  all_goals
    rename_i heq
    exact absurd (List.cons.inj heq).1 (ne_of_begins hc (by decide) (by decide))

theorem skipValue_quote {fuel : Nat} (s : String) (rest : List Char) :
    skipValue (fuel + 1) (quote s ++ rest) = some rest := by
  rw [quote, List.cons_append, List.append_assoc, skipValue, skipBlanks_of_ne (by decide)]
  exact skipString_quoted s.toList rest

/-- Whatever the items look like, no array that has some begins with its closing bracket. -/
theorem skipValue_array {fuel : Nat} {cs rest : List Char} (h : skipItems fuel cs = some rest) :
    skipValue (fuel + 1) ('[' :: cs) = some rest := by
  rw [skipValue, skipBlanks_of_ne (by decide)]
  simp only
  split
  · rename_i tail heq
    rw [← skipItems_skipBlanks, heq] at h
    cases fuel with
    | zero => cases h
    | succ fuel =>
      cases fuel with
      | zero => cases h
      | succ fuel => cases h
  · rw [skipItems_skipBlanks]
    exact h

theorem skipValue_object {fuel : Nat} {cs rest : List Char}
    (h : skipMembers fuel cs = some rest) :
    skipValue (fuel + 1) ('\x7b' :: cs) = some rest := by
  rw [skipValue, skipBlanks_of_ne (by decide)]
  simp only
  split
  · rename_i tail heq
    rw [← skipMembers_skipBlanks, heq] at h
    cases fuel with
    | zero => cases h
    | succ fuel => cases h
  · rw [skipMembers_skipBlanks]
    exact h

theorem Parted.cons {c : Char} (hc : isDigit c = false ∧ c ≠ '.' ∧ c ≠ 'e' ∧ c ≠ 'E')
    (rest : List Char) : Parted (c :: rest) := by
  intro d hd
  obtain rfl := Option.some.inj hd
  exact hc

mutual

/-- **A written value is passed over to its end.** -/
theorem skipValue_render : ∀ (v : Json) {fuel : Nat} {rest : List Char},
    (render v).length < fuel → Parted rest → skipValue fuel (render v ++ rest) = some rest
  | v, 0, _, hf, _ => absurd hf (Nat.not_lt_zero _)
  | .null, fuel + 1, rest, _, _ => by simp [render, skipValue, skipBlanks]
  | .bool true, fuel + 1, rest, _, _ => by simp [render, skipValue, skipBlanks]
  | .bool false, fuel + 1, rest, _, _ => by simp [render, skipValue, skipBlanks]
  | .int i, fuel + 1, rest, _, hr => skipValue_number (skipNumber_renderInt i hr)
  | .float x, fuel + 1, rest, _, hr => skipValue_number (Binary64.skipNumber_text x hr)
  | .string s, fuel + 1, rest, _, _ => skipValue_quote s rest
  | .array [], fuel + 1, rest, _, _ => by simp [render, renderItems, skipValue, skipBlanks]
  | .array (v :: vs), fuel + 1, rest, hf, _ =>
    skipValue_array (skipItems_renderItems v vs (Nat.lt_of_succ_lt_succ hf))
  | .object [], fuel + 1, rest, _, _ => by simp [render, renderMembers, skipValue, skipBlanks]
  | .object (m :: ms), fuel + 1, rest, hf, _ =>
    skipValue_object (skipMembers_renderMembers m ms (Nat.lt_of_succ_lt_succ hf))

theorem skipItems_renderItems : ∀ (v : Json) (vs : List Json) {fuel : Nat} {rest : List Char},
    (renderItems (v :: vs)).length < fuel →
      skipItems fuel (renderItems (v :: vs) ++ rest) = some rest
  | v, vs, 0, _, hf => absurd hf (Nat.not_lt_zero _)
  | v, [], fuel + 1, rest, hf => by
    simp only [renderItems, List.length_append, List.length_singleton] at hf
    have hv : skipValue fuel (render v ++ ']' :: rest) = some (']' :: rest) :=
      skipValue_render v (by omega) (.cons (by decide) rest)
    rw [renderItems, List.append_assoc, List.singleton_append, skipItems, hv]
    simp [skipBlanks]
  | v, w :: vs, fuel + 1, rest, hf => by
    simp only [renderItems, List.length_append, List.length_cons] at hf
    have hv : skipValue fuel (render v ++ ',' :: (renderItems (w :: vs) ++ rest))
        = some (',' :: (renderItems (w :: vs) ++ rest)) :=
      skipValue_render v (by omega) (.cons (by decide) _)
    have hvs : skipItems fuel (renderItems (w :: vs) ++ rest) = some rest :=
      skipItems_renderItems w vs (by omega)
    rw [renderItems, List.append_assoc, List.cons_append, skipItems, hv]
    simpa [skipBlanks] using hvs

theorem skipMembers_renderMembers : ∀ (m : String × Json) (ms : List (String × Json))
    {fuel : Nat} {rest : List Char}, (renderMembers (m :: ms)).length < fuel →
      skipMembers fuel (renderMembers (m :: ms) ++ rest) = some rest
  | m, ms, 0, _, hf => absurd hf (Nat.not_lt_zero _)
  | (k, v), [], fuel + 1, rest, hf => by
    simp only [renderMembers, quote, List.length_append, List.length_cons,
      List.length_nil] at hf
    have hv : skipValue fuel (render v ++ '\x7d' :: rest) = some ('\x7d' :: rest) :=
      skipValue_render v (by omega) (.cons (by decide) rest)
    have hk := skipString_quoted k.toList (':' :: (render v ++ '\x7d' :: rest))
    simp [renderMembers, quote, skipMembers, skipBlanks, hk, hv]
  | (k, v), m :: ms, fuel + 1, rest, hf => by
    simp only [renderMembers, quote, List.length_append, List.length_cons,
      List.length_nil] at hf
    have hv : skipValue fuel (render v ++ ',' :: (renderMembers (m :: ms) ++ rest))
        = some (',' :: (renderMembers (m :: ms) ++ rest)) :=
      skipValue_render v (by omega) (.cons (by decide) _)
    have hk := skipString_quoted k.toList
      (':' :: (render v ++ ',' :: (renderMembers (m :: ms) ++ rest)))
    have hms : skipMembers fuel (renderMembers (m :: ms) ++ rest) = some rest :=
      skipMembers_renderMembers m ms (by omega)
    simp [renderMembers, quote, skipMembers, skipBlanks, hk, hv, hms]

end

/-! ## Members that are wanted -/

/-- A value that is read as it is written, in brackets of a depth. -/
def Readable (depth : Nat) (v : Json) : Prop :=
  ∀ {fuel : Nat} {rest : List Char}, (render v).length < fuel → Parted rest →
    readValue fuel depth (render v ++ rest) = some (v, rest)

/-- Further digits make no number smaller. -/
theorem le_foldl_digits (ds : List Char) (n : Nat) :
    n ≤ ds.foldl (fun n c => 10 * n + (digit? c).getD 0) n := by
  induction ds generalizing n with
  | nil => exact Nat.le_refl n
  | cons c ds ih =>
    have hfirst : n ≤ 10 * n + (digit? c).getD 0 := by omega
    exact Nat.le_trans hfirst (ih _)

theorem Scaled.whole_of_lt {ds : List Char} {s : Scaled}
    (h : ds.foldl (fun n c => 10 * n + (digit? c).getD 0) s.significand < wordBound) :
    s.whole ds = ⟨ds.foldl (fun n c => 10 * n + (digit? c).getD 0) s.significand, s.exponent⟩ := by
  induction ds generalizing s with
  | nil => rfl
  | cons c ds ih =>
    rw [List.foldl_cons] at h ⊢
    have hnext := Nat.lt_of_le_of_lt (le_foldl_digits ds _) h
    simp only [Scaled.whole, if_pos hnext]
    exact ih h

theorem readTail_of_parted {negative : Bool} {s : Scaled} {rest : List Char} (hr : Parted rest) :
    readTail negative s rest = (wholeNumber negative s).map fun v => (v, rest) := by
  unfold readTail
  split
  · exact absurd rfl (hr '.' rfl).2.1
  · exact absurd rfl (hr 'e' rfl).2.2.1
  · exact absurd rfl (hr 'E' rfl).2.2.2
  · rfl

theorem readMagnitude_append {negative : Bool} {ds rest : List Char} (hw : Whole ds)
    (hr : ∀ c ∈ rest.head?, isDigit c = false) :
    readMagnitude negative (ds ++ rest) = readTail negative (Scaled.whole ⟨0, 0⟩ ds) rest := by
  rw [readMagnitude, spanDigits_append hw.digits hr]
  split
  · rename_i heq
    exact absurd (Prod.mk.inj heq).1 hw.ne_nil
  · rename_i heq
    exact absurd (hw.lean _ (Prod.mk.inj heq).1) (List.cons_ne_nil _ _)
  · rename_i heq
    obtain ⟨rfl, rfl⟩ := Prod.mk.inj heq
    rfl

theorem readMagnitude_toDigits {n : Nat} (hn : n < wordBound) {rest : List Char}
    (hr : Parted rest) : readMagnitude false (toDigits n ++ rest) = some (int n, rest) := by
  have hvalue : Scaled.whole ⟨0, 0⟩ (toDigits n) = ⟨n, 0⟩ := by
    have hdigits := ofDigits_toDigits n
    rw [ofDigits] at hdigits
    rw [Scaled.whole_of_lt (by rwa [hdigits]), hdigits]
  rw [readMagnitude_append (whole_toDigits n) hr.head, readTail_of_parted hr, hvalue]
  rfl

/-- A number without a sign begins with a digit. -/
theorem readNumber_of_digit {c : Char} (hc : isDigit c = true) (tail : List Char) :
    readNumber (c :: tail) = readMagnitude false (c :: tail) := by
  unfold readNumber
  split
  · rename_i heq
    obtain ⟨rfl, -⟩ := List.cons.inj heq
    exact absurd hc (by decide)
  · rfl

theorem readValue_of_begins {c : Char} (hc : c = '-' ∨ isDigit c = true) (fuel depth : Nat)
    (tail : List Char) : readValue (fuel + 1) depth (c :: tail) = readNumber (c :: tail) := by
  rw [readValue, skipBlanks_of_begins hc]
  split
  case h_7 => rfl
  all_goals
    rename_i heq
    exact absurd (List.cons.inj heq).1 (ne_of_begins hc (by decide) (by decide))

theorem readable_word {n : Nat} (hn : n < wordBound) (depth : Nat) : Readable depth (int n) := by
  intro fuel rest hf hr
  obtain ⟨fuel, rfl⟩ := Nat.exists_eq_succ_of_ne_zero (Nat.ne_of_gt (Nat.zero_lt_of_lt hf))
  have hrender : render (int n) = toDigits n := by
    rw [render, renderInt, if_neg (by omega), Int.natAbs_natCast]
  obtain ⟨c, tail, hcs⟩ := List.exists_cons_of_ne_nil (toDigits_ne_nil n)
  have hdigit : isDigit c = true := isDigit_of_mem_toDigits n (hcs ▸ List.mem_cons_self)
  have hread := readMagnitude_toDigits hn hr
  rw [hcs, List.cons_append] at hread
  rw [hrender, hcs, List.cons_append, readValue_of_begins (.inr hdigit),
    readNumber_of_digit hdigit, hread]

theorem readIf_render {wanted : Bool} {depth : Nat} {v : Json}
    (hv : wanted = true → Readable depth v) {fuel : Nat} {rest : List Char}
    (hf : (render v).length < fuel) (hr : Parted rest) :
    readIf wanted fuel depth (render v ++ rest) = some (if wanted then some v else none, rest) := by
  cases wanted with
  | true => simp [readIf, hv rfl hf hr]
  | false => simp [readIf, skipValue_render v hf hr]

theorem readWanted_renderMembers {wanted : String → Bool} {depth : Nat} (m : String × Json)
    (ms : List (String × Json)) (hv : ∀ p ∈ m :: ms, wanted p.1 = true → Readable depth p.2)
    {fuel : Nat} (hf : (renderMembers (m :: ms)).length < fuel) (acc : List (String × Json))
    (rest : List Char) :
    readWanted wanted fuel depth (renderMembers (m :: ms) ++ rest) acc
      = some (acc.reverse ++ (m :: ms).filter (wanted ·.1), rest) := by
  induction ms generalizing m fuel acc with
  | nil =>
    obtain ⟨k, v⟩ := m
    obtain ⟨fuel, rfl⟩ := Nat.exists_eq_succ_of_ne_zero (Nat.ne_of_gt (Nat.zero_lt_of_lt hf))
    simp only [renderMembers, quote, List.length_append, List.length_cons,
      List.length_nil] at hf
    have hkey := readString_quoted k.toList [] (':' :: (render v ++ '\x7d' :: rest))
    have hwanted : wanted k = true → Readable depth v := hv (k, v) List.mem_cons_self
    have hvalue : readIf (wanted k) fuel depth (render v ++ '\x7d' :: rest)
        = some (if wanted k then some v else none, '\x7d' :: rest) :=
      readIf_render hwanted (by omega) (.cons (by decide) rest)
    cases hw : wanted k <;> rw [hw] at hvalue <;>
      simp [renderMembers, quote, readWanted, skipBlanks, hkey, hvalue, hw]
  | cons n ms ih =>
    obtain ⟨k, v⟩ := m
    obtain ⟨fuel, rfl⟩ := Nat.exists_eq_succ_of_ne_zero (Nat.ne_of_gt (Nat.zero_lt_of_lt hf))
    simp only [renderMembers, quote, List.length_append, List.length_cons,
      List.length_nil] at hf
    have hkey := readString_quoted k.toList []
      (':' :: (render v ++ ',' :: (renderMembers (n :: ms) ++ rest)))
    have hwanted : wanted k = true → Readable depth v := hv (k, v) List.mem_cons_self
    have hvalue : readIf (wanted k) fuel depth (render v ++ ',' :: (renderMembers (n :: ms) ++ rest))
        = some (if wanted k then some v else none, ',' :: (renderMembers (n :: ms) ++ rest)) :=
      readIf_render hwanted (by omega) (.cons (by decide) _)
    have hms : ∀ acc, readWanted wanted fuel depth (renderMembers (n :: ms) ++ rest) acc
        = some (acc.reverse ++ (n :: ms).filter (wanted ·.1), rest) :=
      ih n (fun p hp => hv p (List.mem_cons_of_mem _ hp)) (by omega)
    cases hw : wanted k <;> rw [hw] at hvalue <;>
      simp [renderMembers, quote, readWanted, skipBlanks, hkey, hvalue, hw, hms]

/-- **Of a written object the wanted members are read as they were**, whatever the others are. -/
theorem readObject?_render {wanted : String → Bool} (ms : List (String × Json))
    (hv : ∀ p ∈ ms, wanted p.1 = true → Readable (depthLimit - 1) p.2) :
    readObject? wanted (render (.object ms)) = some (ms.filter (wanted ·.1)) := by
  cases ms with
  | nil => simp [readObject?, render, renderMembers, skipBlanks]
  | cons m ms =>
    obtain ⟨tail, htail⟩ : ∃ tail, renderMembers (m :: ms) = '"' :: tail := by
      cases ms <;> exact ⟨_, rfl⟩
    have hfuel : (renderMembers (m :: ms)).length < fuelFor (render (.object (m :: ms))) := by
      simp only [fuelFor, render, List.length_cons]
      omega
    have hread := readWanted_renderMembers m ms hv hfuel [] []
    rw [List.append_nil] at hread
    rw [readObject?, render, skipBlanks_of_ne (by decide)]
    rw [render, htail] at hread
    simp only [htail]
    rw [skipBlanks_of_ne (by decide)]
    simp [hread, skipBlanks]

end ChainExplorer.Json
