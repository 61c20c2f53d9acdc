import Mathlib.Data.List.Nodup
import TypeMapper.Catalog
/-!
# Catalogues as maps

A catalogue is what it has under each key. The order of its entries leaves no choice, so neither the
order of entering nor an entry that was replaced leaves a trace.

* `Catalog.ofList_toList`, `Catalog.find?_ofList`: catalogues of listed entries.
* `Catalog.filter_foldl_insert`, `Catalog.find?_foldl_insert`: more entries change nothing elsewhere.
* `Catalog.ext_find?`, `Catalog.ofList_eq_iff`: equal under every key, equal as catalogues.
-/

namespace TypeMapper.Catalog

variable {α κ : Type} [DecidableEq κ] {key : α → κ}

/-! ## 1. Last entries -/

/-- The last entry of a list under a key. -/
def last? (key : α → κ) (xs : List α) (k : κ) : Option α :=
  xs.reverse.find? fun x => key x == k

/-- In a list with distinct keys the last entry under a key is the only one. -/
theorem last?_eq_some_iff {xs : List α} (h : (xs.map key).Nodup) {k : κ} {x : α} :
    last? key xs k = some x ↔ x ∈ xs ∧ key x = k := by
  constructor
  · intro hx
    have hkey := List.find?_some hx
    exact ⟨List.mem_reverse.mp (List.mem_of_find?_eq_some hx), by simpa using hkey⟩
  · rintro ⟨hx, rfl⟩
    cases hlast : last? key xs (key x) with
    | none =>
        have hno := List.find?_eq_none.mp hlast x (List.mem_reverse.mpr hx)
        exact absurd (beq_self_eq_true _) hno
    | some y =>
        have hy : y ∈ xs := List.mem_reverse.mp (List.mem_of_find?_eq_some hlast)
        have hkey : key y = key x := by simpa using List.find?_some hlast
        rw [List.inj_on_of_nodup_map h hy hx hkey]

/-- The order of entries with distinct keys does not count. -/
theorem last?_of_perm {xs ys : List α} (hp : xs.Perm ys) (h : (xs.map key).Nodup) (k : κ) :
    last? key xs k = last? key ys k := by
  have hys : (ys.map key).Nodup := (hp.map key).nodup_iff.mp h
  ext x
  rw [last?_eq_some_iff h, last?_eq_some_iff hys, hp.mem_iff]

/-! ## 2. Equality -/

variable [LT κ] [KeyOrder κ]

omit [DecidableEq κ] in
/-- Sorted lists with the same members are the same list: an order leaves no choice. -/
theorem eq_of_mem_iff {xs ys : List α} (hxs : Sorted key xs) (hys : Sorted key ys)
    (h : ∀ x, x ∈ xs ↔ x ∈ ys) : xs = ys := by
  have hnodup : ∀ {zs : List α}, Sorted key zs → zs.Nodup := by
    intro zs hzs
    refine List.Pairwise.imp ?_ hzs
    rintro x _ hlt rfl
    exact KeyOrder.irrefl _ hlt
  have hperm : xs.Perm ys := (List.perm_ext_iff_of_nodup (hnodup hxs) (hnodup hys)).mpr h
  have hasymm : ∀ a b : α, a ∈ xs → b ∈ ys → key a < key b → key b < key a → a = b := by
    intro a b _ _ hab hba
    exact absurd (KeyOrder.trans hab hba) (KeyOrder.irrefl _)
  exact hperm.eq_of_pairwise hasymm hxs hys

/-- Catalogues that have the same under every key are the same. -/
theorem ext_find? {c d : Catalog α key} (h : ∀ k, c.find? k = d.find? k) : c = d := by
  have hmem : ∀ x, x ∈ c.toList ↔ x ∈ d.toList := by
    intro x
    rw [mem_iff_find?, mem_iff_find?, h]
  exact ext (eq_of_mem_iff c.sorted d.sorted hmem)

/-! ## 3. Listed entries -/

variable [DecidableLT κ]

theorem enter_of_forall_lt {x : α} {xs : List α} (h : ∀ y ∈ xs, key y < key x) :
    enter key x xs = xs ++ [x] := by
  induction xs with
  | nil => rfl
  | cons y ys ih =>
      rw [List.forall_mem_cons] at h
      have hne : key x ≠ key y := fun he => KeyOrder.irrefl _ (he ▸ h.1)
      have hnlt : ¬ key x < key y := fun hlt => KeyOrder.irrefl _ (KeyOrder.trans hlt h.1)
      rw [enter, if_neg hne, if_neg hnlt, ih h.2, List.cons_append]

/-- Entries behind all others are appended. -/
theorem toList_foldl_insert {xs : List α} (c : Catalog α key) (h : Sorted key (c.toList ++ xs)) :
    (xs.foldl insert c).toList = c.toList ++ xs := by
  induction xs generalizing c with
  | nil => exact (List.append_nil _).symm
  | cons x xs ih =>
      have hinsert : (c.insert x).toList = c.toList ++ [x] :=
        enter_of_forall_lt fun y hy => (List.pairwise_append.mp h).2.2 y hy x List.mem_cons_self
      rw [List.foldl_cons, ih (c.insert x) (by rwa [hinsert, List.append_assoc]), hinsert,
        List.append_assoc]
      rfl

/-- The entries of a catalogue make that catalogue. -/
theorem ofList_toList (c : Catalog α key) : ofList c.toList = c :=
  ext (toList_foldl_insert empty c.sorted)

/-- **Of several entries under a key the last one counts.** -/
theorem find?_ofList (xs : List α) (k : κ) :
    (ofList xs : Catalog α key).find? k = xs.reverse.find? fun x => key x == k := by
  have hfold : ∀ c : Catalog α key, (xs.foldl insert c).find? k =
      (xs.reverse.find? fun x => key x == k).or (c.find? k) := by
    induction xs with
    | nil => exact fun c => rfl
    | cons x xs ih =>
        intro c
        rw [List.foldl_cons, ih, find?_insert, List.reverse_cons, List.find?_append,
          List.find?_singleton, Option.or_assoc]
        by_cases hk : key x = k <;> simp [hk]
  rw [ofList, hfold, find?_empty, Option.or_none]

theorem mem_of_mem_ofList {xs : List α} {x : α}
    (h : x ∈ (ofList xs : Catalog α key).toList) : x ∈ xs := by
  rw [mem_iff_find?, find?_ofList] at h
  exact List.mem_reverse.mp (List.mem_of_find?_eq_some h)

/-- Lists make the same catalogue if they end with the same entry under every key. -/
theorem ofList_eq_iff {xs ys : List α} :
    (ofList xs : Catalog α key) = ofList ys ↔ ∀ k, last? key xs k = last? key ys k := by
  constructor
  · intro h k
    rw [last?, last?, ← find?_ofList, ← find?_ofList, h]
  · intro h
    refine ext_find? fun k => ?_
    rw [find?_ofList, find?_ofList]
    exact h k

/-- Entering one more entry behind those of a list. -/
theorem insert_ofList (xs : List α) (x : α) :
    (ofList xs : Catalog α key).insert x = ofList (xs ++ [x]) := by
  rw [ofList, ofList, List.foldl_append, List.foldl_cons, List.foldl_nil]

/-! ## 4. More entries -/

omit [KeyOrder κ] in
/-- Entering an entry changes nothing among those with other keys. -/
theorem filter_enter {keep : κ → Bool} {x : α} (hx : keep (key x) = false) (xs : List α) :
    (enter key x xs).filter (fun y => keep (key y)) = xs.filter fun y => keep (key y) := by
  induction xs with
  | nil => exact List.filter_cons_of_neg (by rw [hx]; exact Bool.false_ne_true)
  | cons y rest ih =>
      have hskip : ∀ ys, (x :: ys).filter (fun y => keep (key y)) =
          ys.filter fun y => keep (key y) :=
        fun ys => List.filter_cons_of_neg (by rw [hx]; exact Bool.false_ne_true)
      unfold enter
      split
      · rename_i heq
        rw [hskip, List.filter_cons_of_neg (by rw [← heq, hx]; exact Bool.false_ne_true)]
      · split
        · rw [hskip]
        · rw [List.filter_cons, List.filter_cons, ih]

theorem filter_foldl_insert {keep : κ → Bool} {xs : List α}
    (hxs : ∀ x ∈ xs, keep (key x) = false) (c : Catalog α key) :
    (xs.foldl insert c).toList.filter (fun y => keep (key y)) =
      c.toList.filter fun y => keep (key y) := by
  induction xs generalizing c with
  | nil => rfl
  | cons x xs ih =>
      rw [List.forall_mem_cons] at hxs
      rw [List.foldl_cons, ih hxs.2]
      exact filter_enter hxs.1 c.toList

theorem find?_foldl_insert {xs : List α} {k : κ} (hxs : ∀ x ∈ xs, key x ≠ k)
    (c : Catalog α key) : (xs.foldl insert c).find? k = c.find? k := by
  induction xs generalizing c with
  | nil => rfl
  | cons x xs ih =>
      rw [List.forall_mem_cons] at hxs
      rw [List.foldl_cons, ih hxs.2, find?_insert, if_neg hxs.1]

end TypeMapper.Catalog
