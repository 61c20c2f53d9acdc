import TypeMapper.Proofs.Arena.Tables
import TypeMapper.Proofs.Catalog
/-!
# Lookups in an arena

The two tables of an arena, by id and by pair of types, and what a change of every mapping does to
them. They are linked, so no two mappings share a pair and each is found under its own pair; what an
arena has under each id is all that there is to it.

* `Arena.find?_eq_some_iff`: the two tables agree; `Arena.nodup_keys`: no pair has two mappings.
* `Arena.ext_get?`: an arena is what it has under each id.
* `Arena.mappings_of_allocate?`, `exists_allocate?`: what a new mapping adds, and when there is one.
* `Arena.get?_transform_of_key`, `find?_transform`: both views after a change that keeps the pairs.
* `Arena.entries_transform`, `mappings_transform`: the lists behind them after such a change.
* `countP_split`: what one pass of a loop takes away from a count, it counts itself.
-/

namespace TypeMapper

/-- What a list has of one property is what it has of two that exclude each other and cover it. -/
theorem countP_split {α : Type} {p q r : α → Bool} {xs : List α}
    (h : ∀ x ∈ xs, p x = (q x || r x) ∧ (q x && r x) = false) :
    xs.countP q + xs.countP r = xs.countP p := by
  induction xs with
  | nil => rfl
  | cons x xs ih =>
      obtain ⟨hp, hqr⟩ := h x List.mem_cons_self
      have hxs := ih fun y hy => h y (List.mem_cons_of_mem x hy)
      simp only [List.countP_cons, hp]
      cases hq : q x <;> cases hr : r x <;> simp [hq, hr] at hqr ⊢ <;> omega

namespace Arena

variable {a b : Arena} {id : MappingId} {m : Mapping} {key : MappingKey}

/-! ## 1. By id -/

theorem entries_getElem? (a : Arena) (i : Nat) :
    a.entries[i]? = (a.get? i).map fun m => (i, m) := a.written.linked.entries_getElem? i

theorem mappings_getElem? (a : Arena) (i : Nat) : a.mappings[i]? = a.get? i := List.getElem?_map

theorem mem_mappings_of_get? (h : a.get? id = some m) : m ∈ a.mappings :=
  List.mem_of_getElem? ((a.mappings_getElem? id).trans h)

theorem exists_get?_of_mem (h : m ∈ a.mappings) : ∃ id, a.get? id = some m := by
  obtain ⟨id, hid⟩ := List.mem_iff_getElem?.mp h
  exact ⟨id, (a.mappings_getElem? id).symm.trans hid⟩

theorem lt_size_of_get? (h : a.get? id = some m) : id < a.size := by
  obtain ⟨e, he, -⟩ := Option.map_eq_some_iff.mp h
  exact (List.getElem?_eq_some_iff.mp he).1

theorem get?_of_lt_size (h : id < a.size) : ∃ m, a.get? id = some m :=
  ⟨_, congrArg (Option.map Prod.snd) (List.getElem?_eq_getElem h)⟩

theorem get?_eq_none_iff : a.get? id = none ↔ a.size ≤ id := by
  rw [← mappings_getElem?, List.getElem?_eq_none_iff, length_mappings]

theorem mem_entries_iff {p : MappingId × Mapping} : p ∈ a.entries ↔ a.get? p.1 = some p.2 := by
  rw [List.mem_iff_getElem?]
  constructor
  · rintro ⟨i, hi⟩
    rw [entries_getElem?, Option.map_eq_some_iff] at hi
    obtain ⟨m, hm, rfl⟩ := hi
    exact hm
  · intro h
    exact ⟨p.1, by rw [entries_getElem?, h]; rfl⟩

/-! ## 2. By pair of types -/

theorem keys_getElem? : a.keys[id]? = (a.get? id).map Mapping.key := by
  rw [keys, List.getElem?_map, mappings_getElem?]

/-- **What is found for a pair is the id of the mapping with that pair.** -/
theorem find?_eq_some_iff : a.find? key = some id ↔ ∃ m, a.get? id = some m ∧ m.key = key :=
  a.written.linked.found key id

/-- Two mappings of one pair are one mapping. -/
theorem id_unique {i j : MappingId} {n : Mapping} (hi : a.get? i = some m) (hj : a.get? j = some n)
    (hk : m.key = n.key) : i = j := by
  have hi' : a.find? n.key = some i := find?_eq_some_iff.mpr ⟨m, hi, hk⟩
  have hj' : a.find? n.key = some j := find?_eq_some_iff.mpr ⟨n, hj, rfl⟩
  exact Option.some.inj (hi'.symm.trans hj')

/-- **No pair of types has two mappings.** -/
theorem nodup_keys (a : Arena) : a.keys.Nodup := by
  refine List.nodup_iff_getElem?_ne_getElem?.mpr fun i j hij hj heq => ?_
  rw [keys_getElem?, keys_getElem?] at heq
  have hjs : j < a.size := by simpa [keys, length_mappings] using hj
  obtain ⟨m, hm⟩ := get?_of_lt_size (Nat.lt_trans hij hjs)
  obtain ⟨n, hn⟩ := get?_of_lt_size hjs
  rw [hm, hn] at heq
  exact Nat.ne_of_lt hij (id_unique hm hn (Option.some.inj heq))

/-- The pair that is found at an id is the pair there. -/
theorem find?_eq_some_iff_keys : a.find? key = some id ↔ a.keys[id]? = some key := by
  rw [find?_eq_some_iff, keys_getElem?, Option.map_eq_some_iff]

theorem mem_keys_iff : key ∈ a.keys ↔ ∃ id, a.find? key = some id := by
  rw [List.mem_iff_getElem?]
  exact exists_congr fun _ => find?_eq_some_iff_keys.symm

/-- What is found depends on the pairs alone. -/
theorem find?_congr (h : a.keys = b.keys) (key : MappingKey) : a.find? key = b.find? key := by
  ext id
  rw [find?_eq_some_iff_keys, find?_eq_some_iff_keys, h]

/-- The row of a pair. -/
theorem byKey_find? (a : Arena) (key : MappingKey) :
    a.tables.byKey.find? key = (a.find? key).map fun id => (key, id) := by
  show _ = ((a.tables.byKey.find? key).map Prod.snd).map _
  cases hrow : a.tables.byKey.find? key with
  | none => rfl
  | some row =>
      obtain ⟨-, rfl⟩ := Catalog.mem_and_key_of_find? hrow
      rfl

theorem mem_byKey_iff : (key, id) ∈ a.tables.byKey.toList ↔ a.find? key = some id := by
  rw [Catalog.mem_iff_find?, byKey_find?]
  cases a.find? key <;> simp

/-- **An arena is what it has under each id.** -/
theorem ext_get? (h : ∀ id, a.get? id = b.get? id) : a = b := by
  have hentries : a.tables.entries = b.tables.entries := List.ext_getElem? fun i => by
    show a.entries[i]? = b.entries[i]?
    rw [entries_getElem?, entries_getElem?, h]
  have hrows : a.tables.byKey = b.tables.byKey := Catalog.ext_find? fun key => by
    have hfind : a.find? key = b.find? key := by
      ext id
      rw [find?_eq_some_iff, find?_eq_some_iff, h]
    rw [byKey_find?, byKey_find?, hfind]
  obtain ⟨⟨es, rows⟩, ha⟩ := a
  obtain ⟨⟨fs, sows⟩, hb⟩ := b
  cases hentries
  cases hrows
  rfl

theorem size_of_keys (h : a.keys = b.keys) : a.size = b.size := by
  rw [← length_mappings, ← length_mappings]
  simpa [keys] using congrArg List.length h

/-! ## 3. New mappings -/

/-- There is no new mapping for a pair that has one. -/
theorem allocate?_eq_none_iff {index : Option UInt32} {declaredOn : String} :
    a.allocate? key index declaredOn = none ↔ key ∈ a.keys := by
  have hmem : key ∈ a.keys ↔ a.tables.hasKey key = true := mem_keys_iff.trans Tables.hasKey_iff.symm
  rw [hmem, allocate?, Option.pmap_eq_none_iff, Tables.allocate?]
  split <;> simp_all

/-- **A new mapping** stands behind the others, under the next id. -/
theorem mappings_of_allocate? {index : Option UInt32} {declaredOn : String}
    (h : a.allocate? key index declaredOn = some (b, id)) :
    b.mappings = a.mappings ++ [Mapping.declare key index declaredOn] ∧ id = a.size := by
  obtain ⟨q, _, hq, hp⟩ := Option.pmap_eq_some_iff.mp h
  obtain ⟨rfl, rfl⟩ := Prod.mk.inj hp
  unfold Tables.allocate? at hq
  split at hq
  · cases hq
  · obtain rfl := Option.some.inj hq
    exact ⟨List.map_append, rfl⟩

/-- There is a new mapping for a pair that has none. -/
theorem exists_allocate? (h : key ∉ a.keys) (index : Option UInt32) (declaredOn : String) :
    ∃ b, a.allocate? key index declaredOn = some (b, a.size) ∧
      b.mappings = a.mappings ++ [Mapping.declare key index declaredOn] := by
  cases hnew : a.allocate? key index declaredOn with
  | none => exact absurd (allocate?_eq_none_iff.mp hnew) h
  | some p =>
      obtain ⟨b, id⟩ := p
      obtain ⟨hb, rfl⟩ := mappings_of_allocate? hnew
      exact ⟨b, rfl, hb⟩

/-- An arena with one more mapping, unless its pair has one. -/
def put (a : Arena) (m : Mapping) : Arena :=
  match a.allocate? m.key m.index m.declaredOn with
  | some (b, id) => b.modify id fun _ => m
  | none => a

/-- The arena of listed mappings. -/
def ofMappings (ms : List Mapping) : Arena := ms.foldl put empty

/-! ## 4. Changes -/

section Transform

variable {f g : MappingId → Mapping → Mapping}

/-- The mapping of an id after a change. -/
theorem get?_transform (f : MappingId → Mapping → Mapping) (a : Arena) (id : MappingId) :
    (a.transform f).get? id = (a.get? id).map (Tables.rekeyed f id) :=
  a.written.linked.get?_transform f id

@[simp] theorem size_transform (f : MappingId → Mapping → Mapping) (a : Arena) :
    (a.transform f).size = a.size := List.length_map _

@[simp] theorem keys_transform (f : MappingId → Mapping → Mapping) (a : Arena) :
    (a.transform f).keys = a.keys := by
  refine List.ext_getElem? fun id => ?_
  rw [keys_getElem?, keys_getElem?, get?_transform, Option.map_map]
  rfl

/-- The mapping of an id after a change that keeps its pair by itself. -/
theorem get?_transform_of_key (hf : ∀ id m, (f id m).key = m.key) (a : Arena) (id : MappingId) :
    (a.transform f).get? id = (a.get? id).map (f id) := by
  rw [get?_transform]
  congr 1
  funext m
  show { f id m with key := m.key } = f id m
  rw [← hf id m]

@[simp] theorem find?_transform (f : MappingId → Mapping → Mapping) (a : Arena)
    (key : MappingKey) : (a.transform f).find? key = a.find? key :=
  find?_congr (keys_transform f a) key

/-- A change that leaves every mapping alone leaves the arena alone. -/
theorem transform_eq_self (hf : ∀ id m, a.get? id = some m → f id m = m) : a.transform f = a :=
  ext_get? fun id => by
    rw [get?_transform]
    cases h : a.get? id with
    | none => rfl
    | some m =>
        show some { f id m with key := m.key } = some m
        rw [hf id m h]

theorem transform_congr (hfg : ∀ id m, a.get? id = some m → f id m = g id m) :
    a.transform f = a.transform g :=
  ext_get? fun id => by
    rw [get?_transform, get?_transform]
    cases h : a.get? id with
    | none => rfl
    | some m =>
        show some (Tables.rekeyed f id m) = some (Tables.rekeyed g id m)
        rw [Tables.rekeyed, Tables.rekeyed, hfg id m h]

theorem transform_transform (hf : ∀ id m, (f id m).key = m.key)
    (hg : ∀ id m, (g id m).key = m.key) :
    (a.transform f).transform g = a.transform fun id m => g id (f id m) :=
  ext_get? fun id => by
    rw [get?_transform_of_key hg, get?_transform_of_key hf,
      get?_transform_of_key fun id m => (hg id _).trans (hf id m), Option.map_map]
    rfl

theorem entries_transform (hf : ∀ id m, (f id m).key = m.key) :
    (a.transform f).entries = a.entries.map fun p => (p.1, f p.1 p.2) := by
  refine List.ext_getElem? fun i => ?_
  rw [entries_getElem?, List.getElem?_map, entries_getElem?, get?_transform_of_key hf,
    Option.map_map, Option.map_map]
  rfl

theorem map_snd_entries (a : Arena) : a.entries.map Prod.snd = a.mappings := rfl

/-- The mappings after a change that does not look at ids. -/
theorem mappings_transform {f : Mapping → Mapping} (hf : ∀ m, (f m).key = m.key) (a : Arena) :
    (a.transform fun _ m => f m).mappings = a.mappings.map f := by
  rw [← map_snd_entries, entries_transform fun _ m => hf m, ← map_snd_entries, List.map_map,
    List.map_map]
  rfl

end Transform

end Arena

end TypeMapper
