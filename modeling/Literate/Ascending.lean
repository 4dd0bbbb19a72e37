/-
This file keeps lists in ascending order without repetitions, as the listings of
names and the dependencies of a graph are kept.
-/

namespace Literate

variable {α : Type} [LT α] [DecidableLT α] [DecidableEq α]

/-- Puts a value at its place in an ascending list, unless it is there already. -/
def insertAscending (value : α) : List α → List α
  | [] => [value]
  | first :: rest =>
    if value = first then first :: rest
    else if value < first then value :: first :: rest
    else first :: insertAscending value rest

/-- Inserting adds the value and nothing else. -/
theorem mem_insertAscending {value other : α} {values : List α} :
    other ∈ insertAscending value values ↔ other = value ∨ other ∈ values := by
  induction values with
  | nil => simp [insertAscending]
  | cons first rest inductionHypothesis =>
    rw [insertAscending]
    split
    · rename_i same
      simp [same]
    · split
      · simp
      · simp only [List.mem_cons, inductionHypothesis]
        constructor
        · rintro (head | value | tail)
          · exact Or.inr (Or.inl head)
          · exact Or.inl value
          · exact Or.inr (Or.inr tail)
        · rintro (value | head | tail)
          · exact Or.inr (Or.inl value)
          · exact Or.inl head
          · exact Or.inr (Or.inr tail)

end Literate
