/-!
# Sets of labels

The two sides of a record are sets of labels, shown in the order of their characters. A set is a
strictly increasing list, so two equal sets are equal lists.
-/

namespace ChainExplorer

/-- A set of labels, in increasing order. -/
abbrev LabelSet := List String

namespace LabelSet

/-- The set with one more label. -/
def insert (label : String) : LabelSet → LabelSet
  | [] => [label]
  | x :: xs =>
    if label < x then label :: x :: xs
    else if label = x then x :: xs
    else x :: insert label xs

/-- The set of the labels of a list. -/
def ofList (labels : List String) : LabelSet := labels.foldl (fun set l => insert l set) []

@[simp] theorem mem_insert {label x : String} {set : LabelSet} :
    x ∈ insert label set ↔ x = label ∨ x ∈ set := by
  induction set with
  | nil => simp [insert]
  | cons y ys ih =>
    rw [insert]
    split
    · simp
    · split
      · rename_i h; subst h; simp
      · rw [List.mem_cons, ih, List.mem_cons]; grind

@[simp] theorem mem_ofList {labels : List String} {x : String} :
    x ∈ ofList labels ↔ x ∈ labels := by
  have all : ∀ (ls : List String) (set : LabelSet),
      x ∈ ls.foldl (fun set l => insert l set) set ↔ x ∈ ls ∨ x ∈ set := by
    intro ls
    induction ls with
    | nil => simp
    | cons l ls ih => intro set; rw [List.foldl_cons, ih, mem_insert, List.mem_cons]; grind
  simpa [ofList] using all labels []

end LabelSet

end ChainExplorer
