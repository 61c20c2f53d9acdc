/-!
# Distinct texts

A set of texts is kept as the list of its members in increasing order, each once.

* `Text.insert`: one more member; `Text.distinct`: the members of a list.
* `Text.mem_distinct`, `Text.sorted_distinct`: what is in it, and in which order.
-/

namespace TypeMapper.Text

/-- Enter a text into a sorted list of distinct texts. -/
def insert (x : String) : List String → List String
  | [] => [x]
  | y :: rest => if x = y then y :: rest else if x < y then x :: y :: rest else y :: insert x rest

/-- The distinct texts of a list, in increasing order. -/
def distinct (xs : List String) : List String := xs.foldr insert []

theorem mem_insert {x z : String} : ∀ {xs : List String}, z ∈ insert x xs ↔ z = x ∨ z ∈ xs
  | [] => by simp [insert]
  | y :: rest => by
    have ih : z ∈ insert x rest ↔ z = x ∨ z ∈ rest := mem_insert
    unfold insert
    split
    · rename_i h
      subst h
      simp
    · split
      · simp
      · rw [List.mem_cons, ih, List.mem_cons]
        exact or_left_comm

/-- The distinct texts are those of the list. -/
theorem mem_distinct {z : String} {xs : List String} : z ∈ distinct xs ↔ z ∈ xs := by
  induction xs with
  | nil => simp [distinct]
  | cons x rest ih =>
    have h : distinct (x :: rest) = insert x (distinct rest) := rfl
    rw [h, mem_insert, ih, List.mem_cons]

/-- Entering a text keeps the order. -/
theorem sorted_insert (x : String) : ∀ {xs : List String},
    xs.Pairwise (· < ·) → (insert x xs).Pairwise (· < ·)
  | [], _ => by simp [insert]
  | y :: rest, h => by
    have hy := List.pairwise_cons.1 h
    unfold insert
    split
    · exact h
    · split
      · rename_i hlt
        refine List.pairwise_cons.2 ⟨fun z hz => ?_, h⟩
        rcases List.mem_cons.1 hz with rfl | hz
        · exact hlt
        · exact String.lt_trans hlt (hy.1 z hz)
      · rename_i hne hnlt
        refine List.pairwise_cons.2 ⟨fun z hz => ?_, sorted_insert x hy.2⟩
        rcases mem_insert.1 hz with rfl | hz
        · exact Std.lt_of_le_of_ne (String.not_lt.mp hnlt) (Ne.symm hne)
        · exact hy.1 z hz

/-- The distinct texts stand in increasing order. -/
theorem sorted_distinct (xs : List String) : (distinct xs).Pairwise (· < ·) := by
  induction xs with
  | nil => exact List.Pairwise.nil
  | cons x rest ih => exact sorted_insert x ih

end TypeMapper.Text
