import Std.Data.ExtTreeSet

/-!
# Ascending lists

Answers list things in ascending order, each once. The list depends only on which things there
are: `ascending` goes through a set, so neither the order nor the repetitions of its input leave
a trace.
-/

namespace Attribution

variable {α : Type u} [Ord α] [Std.TransOrd α]

/-- The elements of a list in ascending order, each once. -/
def ascending (values : List α) : List α :=
  (Std.ExtTreeSet.ofList values).toList

/-- Ascending lists are strictly ascending. -/
theorem pairwise_ascending (values : List α) :
    (ascending values).Pairwise fun x y => compare x y = .lt :=
  Std.ExtTreeSet.ordered_toList

/-- Nothing is lost and nothing is added. -/
@[simp] theorem mem_ascending [Std.LawfulEqOrd α] {values : List α} {x : α} :
    x ∈ ascending values ↔ x ∈ values := by
  classical
  simp [ascending, Std.ExtTreeSet.mem_ofList]

end Attribution
