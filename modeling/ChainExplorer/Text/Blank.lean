/-!
# White space and the fields of a line

A disassembled script is a line of fields with white space between them, and white space is the
Unicode property `White_Space`, not the handful of ASCII blanks: a server that separates fields
by a no-break space still separates them. This module holds the table and the splitter; every
reader of disassembly goes through `fields`.
-/

namespace ChainExplorer.Text

/-- The characters with the Unicode property `White_Space`. -/
def isBlank (c : Char) : Bool :=
  let n := c.toNat
  (9 ≤ n && n ≤ 13) || n == 0x20 || n == 0x85 || n == 0xA0 || n == 0x1680
    || (0x2000 ≤ n && n ≤ 0x200A) || n == 0x2028 || n == 0x2029 || n == 0x202F
    || n == 0x205F || n == 0x3000

/-- Whether the text begins inside a field. -/
def beginsField : List Char → Bool
  | [] => false
  | c :: _ => !isBlank c

/-- The maximal runs of characters that are not white space, in order. -/
def fields : List Char → List (List Char)
  | [] => []
  | c :: cs =>
    if isBlank c then fields cs
    else if beginsField cs then
      match fields cs with
      | [] => [[c]]
      | f :: fs => (c :: f) :: fs
    else [c] :: fields cs

/-- The fields of a text, as texts. -/
def words (s : String) : List String := (fields s.toList).map String.ofList

theorem isBlank_of_isWhitespace {c : Char} (h : c.isWhitespace = true) : isBlank c = true := by
  have h' : c = ' ' ∨ c = '\t' ∨ c = '\r' ∨ c = '\n' := by
    simpa [Char.isWhitespace, Bool.or_eq_true, or_assoc] using h
  rcases h' with rfl | rfl | rfl | rfl <;> rfl

/-- No field is empty. -/
theorem ne_nil_of_mem_fields {s f : List Char} (h : f ∈ fields s) : f ≠ [] := by
  induction s generalizing f with
  | nil => simp [fields] at h
  | cons c cs ih =>
    simp only [fields] at h
    split at h
    · exact ih h
    · split at h
      · split at h
        · simp_all
        · rename_i g gs hg
          rcases List.mem_cons.1 h with rfl | h'
          · simp
          · exact ih (hg ▸ List.mem_cons_of_mem g h')
      · rcases List.mem_cons.1 h with rfl | h'
        · simp
        · exact ih h'

/-- No field holds white space. -/
theorem not_isBlank_of_mem_fields {s f : List Char} (h : f ∈ fields s) {c : Char} (hc : c ∈ f) :
    isBlank c = false := by
  induction s generalizing f with
  | nil => simp [fields] at h
  | cons d cs ih =>
    simp only [fields] at h
    split at h
    · exact ih h hc
    · rename_i hd
      split at h
      · split at h
        · simp_all
        · rename_i g gs hg
          rcases List.mem_cons.1 h with rfl | h'
          · rcases List.mem_cons.1 hc with rfl | hc'
            · simpa using hd
            · exact ih (hg ▸ List.mem_cons_self) hc'
          · exact ih (hg ▸ List.mem_cons_of_mem g h') hc
      · rcases List.mem_cons.1 h with rfl | h'
        · simp_all
        · exact ih h' hc

end ChainExplorer.Text
