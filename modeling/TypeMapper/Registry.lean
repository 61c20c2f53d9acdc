import TypeMapper.MappingError
/-!
# Registries

A registry holds at most one routine for each pair of types. The routines share one type of values,
of which the types named by a key are parts.

* `Registry.get?`: the view; `get?_register` says what registering does to it.
* `Registry.map`: run the routine of a pair, or fail because there is none.
-/

namespace TypeMapper

/-- A routine: it maps a value or fails. -/
abbrev Routine (α : Type) := α → Except MappingError α

/-- Routines under distinct pairs of types. -/
structure Registry (α : Type) where
  routines : List (MappingKey × Routine α)
  distinct : (routines.map Prod.fst).Nodup

namespace Registry

variable {α : Type}

/-- The registry without routines. -/
def empty : Registry α := ⟨[], List.nodup_nil⟩

/-- The number of routines. -/
def size (r : Registry α) : Nat := r.routines.length

/-- The routine of a pair of types. -/
def get? (r : Registry α) (key : MappingKey) : Option (Routine α) :=
  (r.routines.find? fun p => p.1 == key).map Prod.snd

/-- There is a routine for a pair of types. -/
def contains (r : Registry α) (key : MappingKey) : Bool := (r.get? key).isSome

/-- Register a routine in place of one that the pair of types has. -/
def register (r : Registry α) (key : MappingKey) (f : Routine α) : Registry α where
  routines := (key, f) :: r.routines.filter fun p => p.1 != key
  distinct := by
    rw [List.map_cons, List.nodup_cons]
    constructor
    · intro h
      obtain ⟨p, hp, he⟩ := List.mem_map.1 h
      have := (List.mem_filter.1 hp).2
      simp [he] at this
    · exact List.Pairwise.sublist (List.filter_sublist.map _) r.distinct

/-- Run the routine of a pair of types. -/
def map (r : Registry α) (key : MappingKey) (x : α) : Except MappingError α :=
  match r.get? key with
  | some f => f x
  | none => .error (.notConfigured key)

/-- Lookup after registering: the new routine under its own pair, the old one elsewhere. -/
theorem get?_register (r : Registry α) (key k : MappingKey) (f : Routine α) :
    (r.register key f).get? k = if k = key then some f else r.get? k := by
  unfold get? register
  by_cases h : k = key
  · subst h
    simp
  · have hk : ¬ key = k := fun e => h e.symm
    rw [if_neg h, List.find?_cons_of_neg (by simp [hk])]
    congr 1
    induction r.routines with
    | nil => rfl
    | cons p rest ih =>
      by_cases hp : p.1 = key
      · rw [List.filter_cons_of_neg (by simp [hp]), ih, List.find?_cons_of_neg (by simp [hp, hk])]
      · rw [List.filter_cons_of_pos (by simpa using hp), List.find?_cons, List.find?_cons, ih]

end Registry

end TypeMapper
