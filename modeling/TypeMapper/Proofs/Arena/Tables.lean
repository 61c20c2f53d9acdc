import TypeMapper.Mapping.Arena
/-!
# The two tables of an arena

The id of a mapping stands in three places: it is the position of the mapping, it is stored with the
mapping, and the index by pair of types leads to it. A new mapping is written to both tables and a
change to the first one alone; neither lets them come apart.

* `Tables.Linked`: the two tables are in bijection.
* `Linked.empty`, `Linked.allocate`, `Linked.transform`: what every writing keeps.
* `Tables.Written.linked`: all tables that come about are linked.
-/

namespace TypeMapper.Tables

variable {t : Tables} {key : MappingKey} {id : MappingId}

/-! ## 1. Lookups behind a new mapping -/

theorem hasKey_iff : t.hasKey key = true ↔ ∃ id, t.find? key = some id := by
  unfold hasKey find? Catalog.contains
  cases t.byKey.find? key <;> simp

/-- The mapping of an id behind a new one. -/
theorem get?_concat (t : Tables) (m : Mapping) (rows : Catalog (MappingKey × MappingId) Prod.fst)
    (id : MappingId) :
    get? ⟨t.entries ++ [(t.size, m)], rows⟩ id = if id = t.size then some m else t.get? id := by
  unfold get? size
  rcases Nat.lt_trichotomy id t.entries.length with hlt | rfl | hgt
  · rw [List.getElem?_append_left hlt, if_neg (Nat.ne_of_lt hlt)]
  · rw [List.getElem?_concat_length, if_pos rfl, Option.map_some]
  · have hlong : (t.entries ++ [(t.entries.length, m)]).length ≤ id := by
      rw [List.length_append]
      exact hgt
    rw [List.getElem?_eq_none hlong, List.getElem?_eq_none (Nat.le_of_lt hgt),
      if_neg (Nat.ne_of_gt hgt)]

/-- The id for a pair behind a new row. -/
theorem find?_insert (es : List (MappingId × Mapping)) (t : Tables) (row : MappingKey × MappingId)
    (key : MappingKey) :
    find? ⟨es, t.byKey.insert row⟩ key = if row.1 = key then some row.2 else t.find? key := by
  unfold find?
  rw [Catalog.find?_insert]
  split <;> rfl

/-! ## 2. What every writing keeps -/

/-- **The tables are linked**: ids are positions, and the one table leads to an id under exactly the
pair of types that the other one has there. -/
structure Linked (t : Tables) : Prop where
  ids : t.entries.map Prod.fst = List.range t.size
  found : ∀ key id, t.find? key = some id ↔ ∃ m, t.get? id = some m ∧ m.key = key

/-- What is behind the mapping that linked tables hold at a position. -/
theorem Linked.entries_getElem? (h : t.Linked) (i : Nat) :
    t.entries[i]? = (t.get? i).map fun m => (i, m) := by
  have hid : (t.entries.map Prod.fst)[i]? = (List.range t.size)[i]? := by rw [h.ids]
  rw [List.getElem?_map] at hid
  unfold get?
  cases he : t.entries[i]? with
  | none => rfl
  | some e =>
      rw [he] at hid
      have hi : i = e.1 := (List.getElem?_eq_some_iff.mp hid.symm).2 ▸ by simp
      rw [hi]
      rfl

/-- The mapping of an id after a change. -/
theorem Linked.get?_transform (h : t.Linked) (f : MappingId → Mapping → Mapping) (id : MappingId) :
    (t.transform f).get? id = (t.get? id).map (rekeyed f id) := by
  have hget : (t.transform f).get? id =
      (t.entries[id]?.map fun e => (e.1, rekeyed f e.1 e.2)).map Prod.snd := by
    rw [transform, get?, List.getElem?_map]
  rw [hget, h.entries_getElem?, Option.map_map, Option.map_map]
  rfl

/-- **The empty tables are linked.** -/
theorem Linked.empty : Linked empty := ⟨rfl, fun _ _ => iff_of_false nofun nofun⟩

/-- **Allocation keeps tables linked.** -/
theorem Linked.allocate (h : t.Linked) {index : Option UInt32} {declaredOn : String}
    {p : Tables × MappingId} (he : t.allocate? key index declaredOn = some p) : p.1.Linked := by
  unfold allocate? at he
  split at he
  · cases he
  rename_i hfree
  obtain rfl := Option.some.inj he
  have hno (id : MappingId) (hid : t.find? key = some id) : False :=
    hfree (hasKey_iff.mpr ⟨id, hid⟩)
  refine ⟨?_, fun k id => ?_⟩
  case refine_1 =>
    show (t.entries ++ [(t.size, _)]).map Prod.fst = List.range (t.entries ++ [_]).length
    rw [List.map_append, h.ids, List.length_append, List.length_singleton, List.range_succ]
    rfl
  case refine_2 =>
    have hget := get?_concat t (Mapping.declare key index declaredOn)
      (t.byKey.insert (key, t.size)) id
    rw [find?_insert, hget]
    by_cases hid : id = t.size
    · -- the new id is that of the new pair alone
      subst hid
      have hnew : t.get? t.size = none := by simp [get?, size]
      have hold : ¬ t.find? k = some t.size := fun hk => by
        obtain ⟨m, hm, -⟩ := (h.found k _).mp hk
        rw [hnew] at hm
        cases hm
      by_cases hk : key = k <;> simp [hk, hold, Mapping.declare]
    · rw [if_neg hid, ← h.found k id]
      by_cases hk : key = k
      · subst hk
        rw [if_pos rfl]
        exact iff_of_false (fun heq => hid (Option.some.inj heq).symm) (hno id)
      · rw [if_neg hk]

/-- **A change of every mapping keeps tables linked.** -/
theorem Linked.transform (h : t.Linked) (f : MappingId → Mapping → Mapping) :
    (t.transform f).Linked := by
  refine ⟨?_, fun k id => ?_⟩
  case refine_1 =>
    have hmap : (t.transform f).entries.map Prod.fst = t.entries.map Prod.fst := by
      rw [Tables.transform, List.map_map]
      rfl
    rw [hmap, h.ids, size, size, Tables.transform, List.length_map]
  case refine_2 =>
    have hfind : (t.transform f).find? k = t.find? k := rfl
    rw [hfind, h.get?_transform, h.found]
    cases t.get? id with
    | none => simp
    | some m => simp [rekeyed]

/-- **The tables that come about are linked.** -/
theorem Written.linked (h : t.Written) : t.Linked := by
  induction h with
  | empty => exact .empty
  | allocate _ he ih => exact ih.allocate he
  | transform _ f ih => exact ih.transform f

end TypeMapper.Tables
