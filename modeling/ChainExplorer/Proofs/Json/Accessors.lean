import ChainExplorer.Json.Value

/-!
# What the accessors of a value answer

Each accessor answers for one kind of value, and a number only for what fits its word.
-/

namespace ChainExplorer.Json

variable {value : Json}

theorem natural?_eq_some {n : Nat} : value.natural? = some n ↔ value = .int n ∧ n < wordBound := by
  cases value with
  | int i =>
    simp only [natural?]
    split
    · rename_i hrange
      simp only [Option.some.injEq, int.injEq]
      omega
    · rename_i hrange
      simp only [reduceCtorEq, int.injEq, false_iff, not_and]
      omega
  | _ => simp [natural?]

/-- An integer that fits a signed word. -/
def Signed (i : Int) : Prop := -signedBound ≤ i ∧ i < signedBound

theorem integer?_eq_some {i : Int} : value.integer? = some i ↔ value = .int i ∧ Signed i := by
  cases value with
  | int j =>
    simp only [integer?, Signed]
    split
    · rename_i hrange
      simp only [Option.some.injEq, int.injEq]
      omega
    · rename_i hrange
      simp only [reduceCtorEq, int.injEq, false_iff, not_and]
      omega
  | _ => simp [integer?]

theorem string?_eq_some {text : String} : value.string? = some text ↔ value = .string text := by
  cases value <;> simp [string?]

end ChainExplorer.Json
