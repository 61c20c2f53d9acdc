/-!
# Catalogues

A catalogue holds entries under keys, at most one for a key, in increasing order of the keys.
Entering a second entry under a key replaces the first, so a catalogue depends on the last entry of
each key alone and not on the order of entering.

* `KeyOrder`: the order that keys have to have; texts have it.
* `Catalog.find?`: the view; `find?_insert` says what entering does to it.
* `Catalog.ofList`: the entries of a list, later ones first in rank.
* `Catalog.mem_iff_find?`: membership is lookup under the entry's key.
-/

namespace TypeMapper

/-! ## 1. Sorted lists of entries -/

/-- A strict order that puts any two different keys one before the other. -/
class KeyOrder (κ : Type) [LT κ] : Prop where
  irrefl : ∀ a : κ, ¬ a < a
  trans : ∀ {a b c : κ}, a < b → b < c → a < c
  total : ∀ {a b : κ}, ¬ a < b → a ≠ b → b < a

instance : KeyOrder String where
  irrefl := String.lt_irrefl
  trans := String.lt_trans
  total h hne := Std.lt_of_le_of_ne (String.not_lt.mp h) (Ne.symm hne)

namespace Catalog

section Lists

variable {α κ : Type} [LT κ] [DecidableEq κ] [DecidableLT κ] (key : α → κ)

/-- Enter `x` into a list sorted by key, in place of an entry with its key. -/
def enter (x : α) : List α → List α
  | [] => [x]
  | y :: rest =>
    if key x = key y then x :: rest
    else if key x < key y then x :: y :: rest
    else y :: enter x rest

/-- The entries are in strictly increasing order of their keys. -/
abbrev Sorted (xs : List α) : Prop := xs.Pairwise fun a b => key a < key b

theorem mem_of_mem_enter {x z : α} : ∀ {xs : List α}, z ∈ enter key x xs → z = x ∨ z ∈ xs
  | [], h => by simpa [enter] using h
  | y :: rest, h => by
    unfold enter at h
    split at h
    · rcases List.mem_cons.1 h with h | h
      · exact .inl h
      · exact .inr (List.mem_cons_of_mem _ h)
    · split at h
      · rcases List.mem_cons.1 h with h | h
        · exact .inl h
        · exact .inr h
      · rcases List.mem_cons.1 h with h | h
        · exact .inr (h ▸ List.mem_cons_self)
        · rcases mem_of_mem_enter h with h | h
          · exact .inl h
          · exact .inr (List.mem_cons_of_mem _ h)

/-- Entering keeps the order. -/
theorem sorted_enter [KeyOrder κ] (x : α) : ∀ {xs : List α}, Sorted key xs → Sorted key (enter key x xs)
  | [], _ => by simp [enter]
  | y :: rest, h => by
    have hy := List.pairwise_cons.1 h
    unfold enter
    split
    · rename_i he
      exact List.pairwise_cons.2 ⟨fun z hz => he ▸ hy.1 z hz, hy.2⟩
    · split
      · rename_i hlt
        refine List.pairwise_cons.2 ⟨fun z hz => ?_, h⟩
        rcases List.mem_cons.1 hz with rfl | hz
        · exact hlt
        · exact KeyOrder.trans hlt (hy.1 z hz)
      · rename_i hne hnlt
        refine List.pairwise_cons.2 ⟨fun z hz => ?_, sorted_enter x hy.2⟩
        rcases mem_of_mem_enter key hz with rfl | hz
        · exact KeyOrder.total hnlt hne
        · exact hy.1 z hz

/-- The entry of a list under a key. -/
def lookup (k : κ) (xs : List α) : Option α := xs.find? fun x => key x == k

/-- Lookup after entering: the new entry under its own key, the old one elsewhere. -/
theorem lookup_enter (x : α) (k : κ) : ∀ (xs : List α),
    lookup key k (enter key x xs) = if key x = k then some x else lookup key k xs
  | [] => by
    by_cases h : key x = k <;> simp [lookup, enter, h]
  | y :: rest => by
    have ih := lookup_enter x k rest
    unfold lookup at ih ⊢
    unfold enter
    by_cases hxy : key x = key y
    · rw [if_pos hxy]
      by_cases h : key x = k
      · simp [h]
      · simp [← hxy, h]
    · rw [if_neg hxy]
      by_cases hlt : key x < key y
      · rw [if_pos hlt]
        by_cases h : key x = k <;> simp [h]
      · rw [if_neg hlt]
        by_cases hy : key y = k
        · have hx : key x ≠ k := fun e => hxy (e.trans hy.symm)
          simp [hy, hx]
        · simp [hy, ih]

end Lists

end Catalog

/-! ## 2. Catalogues -/

/-- Entries in strictly increasing order of their keys. -/
structure Catalog (α : Type) {κ : Type} [LT κ] (key : α → κ) where
  toList : List α
  sorted : Catalog.Sorted key toList
  deriving DecidableEq

namespace Catalog

variable {α κ : Type} [LT κ] {key : α → κ}

/-- The catalogue without entries. -/
def empty : Catalog α key := ⟨[], List.Pairwise.nil⟩

instance : Inhabited (Catalog α key) := ⟨empty⟩

/-- Equal entries make equal catalogues. -/
theorem ext {c d : Catalog α key} (h : c.toList = d.toList) : c = d := by
  cases c; cases d; cases h; rfl

@[simp] theorem toList_empty : (empty : Catalog α key).toList = [] := rfl

variable [DecidableEq κ]

/-- The entry under a key. -/
def find? (c : Catalog α key) (k : κ) : Option α := lookup key k c.toList

/-- The catalogue has an entry under a key. -/
def contains (c : Catalog α key) (k : κ) : Bool := (c.find? k).isSome

@[simp] theorem find?_empty (k : κ) : (empty : Catalog α key).find? k = none := rfl

/-- What lookup finds is an entry under that key. -/
theorem mem_and_key_of_find? {c : Catalog α key} {k : κ} {x : α} (h : c.find? k = some x) :
    x ∈ c.toList ∧ key x = k :=
  ⟨List.mem_of_find?_eq_some h, by simpa using List.find?_some h⟩

variable [KeyOrder κ]

/-- The keys of a sorted list are pairwise distinct, so each entry is found under its own. -/
theorem lookup_of_mem {xs : List α} (h : Sorted key xs) {x : α} (hx : x ∈ xs) :
    lookup key (key x) xs = some x := by
  induction xs with
  | nil => simp at hx
  | cons y rest ih =>
    have hy := List.pairwise_cons.1 h
    rcases List.mem_cons.1 hx with rfl | hx
    · simp [lookup]
    · have hne : key y ≠ key x := fun e => KeyOrder.irrefl _ (e ▸ hy.1 x hx)
      have := ih hy.2 hx
      unfold lookup at this ⊢
      simp [hne, this]

/-- Membership is lookup under the entry's key. -/
theorem mem_iff_find? {c : Catalog α key} {x : α} : x ∈ c.toList ↔ c.find? (key x) = some x :=
  ⟨lookup_of_mem c.sorted, fun h => (mem_and_key_of_find? h).1⟩

variable [DecidableLT κ]

/-- Enter an entry under its key, in place of an older one. -/
def insert (c : Catalog α key) (x : α) : Catalog α key :=
  ⟨enter key x c.toList, sorted_enter key x c.sorted⟩

/-- Enter the entries of a list one after the other. -/
def ofList (xs : List α) : Catalog α key := xs.foldl insert empty

/-- Lookup after entering. -/
theorem find?_insert (c : Catalog α key) (x : α) (k : κ) :
    (c.insert x).find? k = if key x = k then some x else c.find? k :=
  lookup_enter key x k c.toList

@[simp] theorem find?_insert_self (c : Catalog α key) (x : α) :
    (c.insert x).find? (key x) = some x := by simp [find?_insert]

end Catalog

end TypeMapper
