import TypeMapper.Proofs.Arena.Lookup
import TypeMapper.Proofs.Schema.Cycles
/-!
# Chains of bases

The chain of a type goes from base to base. Its length is bounded by the number of types, and the
bound never cuts it short: it ends where there is no further base, or where the next base is in it
already. The properties along a chain are those that no type before declares by name.

* `Schema.Ascends`: types in a row, each the base of the one before, as far as it goes.
* `Schema.chainFrom_of_lt`, `nodup_chain`: the bound cuts no chain short; no type comes twice.
* `Schema.unhidden`: the properties that no type before declares by name.
* `Schema.ascends_iff`, `visible_eq`: the chain of a type and the properties along it.
-/

namespace TypeMapper.Schema

variable {s : Schema} {path : String} {d : TypeDecl} {p : Property}

/-! ## 1. Chains with a bound -/

theorem mem_types_of_type? (h : s.type? path = some d) : d ∈ s.types.toList :=
  (type?_eq_some_iff.mp h).1

theorem mem_types_of_base? {e : TypeDecl} (h : s.base? d = some e) : e ∈ s.types.toList :=
  (base?_eq_some_iff.mp h).2

/-- The number of types that a chain may still get to. -/
def unseenTypes (s : Schema) (seen : List String) : Nat :=
  s.types.toList.countP fun d => !seen.contains d.path

theorem unseenTypes_cons_lt {seen : List String} (hd : d ∈ s.types.toList)
    (hnew : seen.contains d.path = false) :
    s.unseenTypes (d.path :: seen) < s.unseenTypes seen := by
  have hsplit : s.unseenTypes (d.path :: seen) +
      s.types.toList.countP (fun e => !seen.contains e.path && e.path == d.path) =
        s.unseenTypes seen := countP_split fun e _ => by
    rw [List.contains_cons]
    cases seen.contains e.path <;> cases e.path == d.path <;> exact ⟨rfl, rfl⟩
  have hpos : 0 < s.types.toList.countP
      (fun e => !seen.contains e.path && e.path == d.path) :=
    List.countP_pos_iff.mpr ⟨d, hd, by rw [hnew, beq_self_eq_true]; rfl⟩
  omega

/-- **The bound never cuts a chain short**: a chain that is allowed more links is the same chain. -/
theorem chainFrom_of_lt {n k : Nat} {seen : List String} {o : Option TypeDecl}
    (ho : ∀ d ∈ o, d ∈ s.types.toList) (hn : s.unseenTypes seen < n) (hk : s.unseenTypes seen < k) :
    s.chainFrom n seen o = s.chainFrom k seen o := by
  induction n generalizing k seen o with
  | zero => omega
  | succ n ih =>
      obtain ⟨k, rfl⟩ : ∃ j, k = j + 1 := ⟨k - 1, by omega⟩
      cases o with
      | none => rfl
      | some d =>
          unfold chainFrom
          split
          · rfl
          · rename_i hnew
            have hlt := unseenTypes_cons_lt (ho d rfl) (Bool.eq_false_iff.mpr hnew)
            exact congrArg (d :: ·)
              (ih (fun _ he => mem_types_of_base? he) (by omega) (by omega))

theorem mem_types_of_mem_chainFrom {n : Nat} {seen : List String} {o : Option TypeDecl}
    (ho : ∀ d ∈ o, d ∈ s.types.toList) (hd : d ∈ s.chainFrom n seen o) : d ∈ s.types.toList := by
  induction n generalizing seen o with
  | zero => exact absurd hd List.not_mem_nil
  | succ n ih =>
      cases o with
      | none => exact absurd hd List.not_mem_nil
      | some e =>
          unfold chainFrom at hd
          split at hd
          · exact absurd hd List.not_mem_nil
          · rcases List.mem_cons.mp hd with rfl | hd
            · exact ho d rfl
            · exact ih (fun _ hf => mem_types_of_base? hf) hd

/-- A chain gets to no path twice, and to none that it has seen. -/
theorem nodup_chainFrom (n : Nat) (seen : List String) (o : Option TypeDecl) :
    ((s.chainFrom n seen o).map TypeDecl.path).Nodup ∧
      ∀ t ∈ s.chainFrom n seen o, t.path ∉ seen := by
  induction n generalizing seen o with
  | zero => exact ⟨List.nodup_nil, fun t ht => absurd ht List.not_mem_nil⟩
  | succ n ih =>
      cases o with
      | none => exact ⟨List.nodup_nil, fun t ht => absurd ht List.not_mem_nil⟩
      | some t =>
          unfold chainFrom
          split
          · exact ⟨List.nodup_nil, fun t ht => absurd ht List.not_mem_nil⟩
          · rename_i hnew
            obtain ⟨hnodup, hunseen⟩ := ih (t.path :: seen) (s.base? t)
            refine ⟨List.nodup_cons.mpr ⟨fun hmem => ?_, hnodup⟩, fun u hu => ?_⟩
            · obtain ⟨u, hu, hpath⟩ := List.mem_map.mp hmem
              exact hunseen u hu (hpath ▸ List.mem_cons_self)
            · rcases List.mem_cons.mp hu with rfl | hu
              · exact fun hmem => hnew (List.contains_iff_mem.mpr hmem)
              · exact fun hmem => hunseen u hu (List.mem_cons_of_mem t.path hmem)

/-- **A chain lists a type once**, whatever cycles the bases make. -/
theorem nodup_chain (s : Schema) (path : String) : (s.chain path).Nodup :=
  (nodup_chainFrom _ _ _).1.of_map _

/-! ## 2. Where a chain leads -/

/-- Types in a row from `first` on: each is the base of the one before, no two are at one path, and
the last one has no base that the schema knows, or one that is in the row already. -/
structure Ascends (s : Schema) (first : Option TypeDecl) (ts : List TypeDecl) : Prop where
  starts : ts.head? = first
  climbs : ts.IsChain fun t u => s.base? t = some u
  distinct : (ts.map TypeDecl.path).Nodup
  ends : ∀ t ∈ ts.getLast?, ∀ u ∈ s.base? t, u ∈ ts

theorem chainFrom_none (n : Nat) (seen : List String) : s.chainFrom n seen none = [] := by
  cases n <;> rfl

theorem chainFrom_of_seen (n : Nat) {seen : List String} {t : TypeDecl} (h : t.path ∈ seen) :
    s.chainFrom n seen (some t) = [] := by
  cases n with
  | zero => rfl
  | succ n => exact if_pos (List.contains_iff_mem.mpr h)

theorem chainFrom_of_not_seen {n : Nat} {seen : List String} {t : TypeDecl} (h : t.path ∉ seen) :
    s.chainFrom (n + 1) seen (some t) = t :: s.chainFrom n (t.path :: seen) (s.base? t) :=
  if_neg (mt List.contains_iff_mem.mp h)

theorem mem_of_mem_head?_chainFrom {n : Nat} {seen : List String} {o : Option TypeDecl}
    {t : TypeDecl} (h : t ∈ (s.chainFrom n seen o).head?) : t ∈ o := by
  cases o with
  | none => rw [chainFrom_none] at h; cases h
  | some u =>
      by_cases hu : u.path ∈ seen
      · rw [chainFrom_of_seen n hu] at h; cases h
      · cases n with
        | zero => cases h
        | succ n => rw [chainFrom_of_not_seen hu] at h; exact h

/-- Each link is the base of the one before. -/
theorem isChain_chainFrom (n : Nat) (seen : List String) (o : Option TypeDecl) :
    (s.chainFrom n seen o).IsChain fun t u => s.base? t = some u := by
  induction n generalizing seen o with
  | zero => exact .nil
  | succ n ih =>
      cases o with
      | none => exact .nil
      | some t =>
          by_cases ht : t.path ∈ seen
          · rw [chainFrom_of_seen _ ht]
            exact .nil
          · rw [chainFrom_of_not_seen ht]
            exact List.isChain_cons.mpr ⟨fun u hu => mem_of_mem_head?_chainFrom hu, ih _ _⟩

/-- **A chain ends where it must**: the last type has no base that the schema knows, or one at a
path that has been seen, if the bound allows for all types that have not. -/
theorem mem_of_base_getLast? {n : Nat} {seen : List String} {o : Option TypeDecl}
    (ho : ∀ d ∈ o, d ∈ s.types.toList) (hn : s.unseenTypes seen < n) :
    ∀ t ∈ (s.chainFrom n seen o).getLast?, ∀ u ∈ s.base? t,
      u.path ∈ seen ∨ u.path ∈ (s.chainFrom n seen o).map TypeDecl.path := by
  induction n generalizing seen o with
  | zero => omega
  | succ n ih =>
      cases o with
      | none => exact nofun
      | some d =>
          by_cases hd : d.path ∈ seen
          · rw [chainFrom_of_seen _ hd]
            exact nofun
          · rw [chainFrom_of_not_seen hd]
            have hlt := unseenTypes_cons_lt (ho d rfl) (s := s)
              (Bool.eq_false_iff.mpr (mt List.contains_iff_mem.mp hd))
            have hrest := ih (fun _ he => mem_types_of_base? (d := d) he)
              (Nat.lt_of_lt_of_le hlt (Nat.le_of_lt_succ hn))
            intro t ht u hu
            cases hlist : s.chainFrom n (d.path :: seen) (s.base? d) with
            | nil =>
                -- the type is the last one, so its base has been seen, perhaps as the type itself
                rw [hlist] at ht
                obtain rfl : d = t := Option.some.inj ht
                have hseen : u.path ∈ d.path :: seen := by
                  refine Classical.byContradiction fun hnew => ?_
                  obtain ⟨k, rfl⟩ : ∃ k, n = k + 1 := ⟨n - 1, by omega⟩
                  rw [show s.base? d = some u from hu, chainFrom_of_not_seen hnew] at hlist
                  cases hlist
                exact (List.mem_cons.mp hseen).symm.imp_right fun h => List.mem_cons.mpr (.inl h)
            | cons e rest =>
                rw [hlist, List.getLast?_cons_cons] at ht
                rw [hlist] at hrest
                rw [List.map_cons, List.mem_cons]
                rcases hrest t ht u hu with hseen | hin
                · exact (List.mem_cons.mp hseen).symm.imp_right .inl
                · exact .inr (.inr hin)

/-- **A row that goes as far as it can is the chain**, if the bound allows for it. -/
theorem chainFrom_head? {n : Nat} {seen : List String} {ts : List TypeDecl}
    (hclimbs : ts.IsChain fun t u => s.base? t = some u) (hdistinct : (ts.map TypeDecl.path).Nodup)
    (hseen : ∀ t ∈ ts, t.path ∉ seen)
    (hends : ∀ t ∈ ts.getLast?, ∀ u ∈ s.base? t, u.path ∈ seen ∨ u.path ∈ ts.map TypeDecl.path)
    (hn : ts.length ≤ n) : s.chainFrom n seen ts.head? = ts := by
  induction ts generalizing n seen with
  | nil => exact chainFrom_none n seen
  | cons t rest ih =>
      obtain ⟨n, rfl⟩ : ∃ k, n = k + 1 := ⟨n - 1, by rw [List.length_cons] at hn; omega⟩
      obtain ⟨hnew, hdistinct⟩ := List.nodup_cons.mp hdistinct
      obtain ⟨hbase, hclimbs⟩ := List.isChain_cons.mp hclimbs
      obtain ⟨ht, hseen⟩ := List.forall_mem_cons.mp hseen
      rw [List.head?_cons, chainFrom_of_not_seen ht]
      refine congrArg (t :: ·) ?_
      cases rest with
      | nil =>
          cases hu : s.base? t with
          | none => exact chainFrom_none _ _
          | some u =>
              refine chainFrom_of_seen _ (List.mem_cons.mpr ?_)
              exact (hends t rfl u hu).symm.imp_left List.mem_singleton.mp
      | cons u rest =>
          rw [hbase u rfl]
          refine ih hclimbs hdistinct (fun v hv hmem => ?_) (fun v hv w hw => ?_)
            (by simpa using hn)
          · rcases List.mem_cons.mp hmem with hpath | hmem
            · exact hnew (hpath ▸ List.mem_map_of_mem hv)
            · exact hseen v hv hmem
          · rw [← List.getLast?_cons_cons (a := t)] at hv
            rcases hends v hv w hw with hmem | hmem
            · exact .inl (List.mem_cons_of_mem _ hmem)
            · exact (List.mem_cons.mp hmem).imp_left fun h => List.mem_cons.mpr (.inl h)

/-- **The chain of a type** is the one row of types that starts there and goes as far as it can. -/
theorem ascends_iff {ts : List TypeDecl} :
    s.Ascends (s.type? path) ts ↔ ts = s.chain path := by
  have hall : ∀ d ∈ s.type? path, d ∈ s.types.toList := fun _ => mem_types_of_type?
  have hle : s.unseenTypes [] ≤ s.types.toList.length := List.countP_le_length
  constructor
  · intro h
    have hchain : s.chainFrom (s.types.toList.length + 1 + ts.length) [] ts.head? = ts :=
      chainFrom_head? h.climbs h.distinct (fun _ _ => List.not_mem_nil)
        (fun t ht u hu => .inr (List.mem_map_of_mem (h.ends t ht u hu))) (by omega)
    rw [h.starts] at hchain
    exact hchain.symm.trans (chainFrom_of_lt hall (by omega) (by omega))
  · rintro rfl
    refine ⟨?_, isChain_chainFrom _ _ _, (nodup_chainFrom _ _ _).1, fun t ht u hu => ?_⟩
    · cases ht : s.type? path with
      | none => rw [chain, ht, chainFrom_none]; rfl
      | some t => rw [chain, ht, chainFrom_of_not_seen List.not_mem_nil]; rfl
    · have hin := (mem_of_base_getLast? hall (by omega) t ht u hu).resolve_left List.not_mem_nil
      obtain ⟨v, hv, hpath⟩ := List.mem_map.mp hin
      have hsame := eq_of_path_eq (mem_types_of_mem_chainFrom hall hv) (mem_types_of_base? hu) hpath
      exact hsame ▸ hv

/-! ## 3. Properties along a chain -/

/-- The properties of types in a row that no type before declares by name, in the order of the types
and of their declarations. -/
def unhidden (ts : List TypeDecl) : List Property :=
  (ts.mapIdx fun i t => t.properties.filter fun p =>
    (ts.take i).all fun u => (u.property? p.name).isNone).flatten

theorem mem_of_mem_visible {hidden : List String} {ds : List TypeDecl}
    (hp : p ∈ visible hidden ds) :
    ∃ d ∈ ds, p ∈ d.properties := by
  induction ds generalizing hidden with
  | nil => exact absurd hp List.not_mem_nil
  | cons d ds ih =>
      rcases List.mem_append.mp hp with hp | hp
      · exact ⟨d, List.mem_cons_self, (List.mem_filter.mp hp).1⟩
      · obtain ⟨e, he, hpe⟩ := ih hp
        exact ⟨e, List.mem_cons_of_mem d he, hpe⟩

/-- A property of a type is declared by a type of the schema. -/
theorem exists_of_mem_flattened (hp : p ∈ s.flattened path) :
    ∃ d ∈ s.types.toList, p ∈ d.properties := by
  obtain ⟨d, hd, hpd⟩ := mem_of_mem_visible hp
  exact ⟨d, mem_types_of_mem_chainFrom (fun _ => mem_types_of_type?) hd, hpd⟩

/-- Behind a type, the names are hidden that were so before and those that the type declares. -/
theorem not_contains_append_own (t : TypeDecl) (hidden : List String) (name : String) :
    (!(hidden ++ (t.properties.filter fun p => !hidden.contains p.name).map
      Property.name).contains name) = (!hidden.contains name && (t.property? name).isNone) := by
  have hdeclared : (t.property? name).isNone = true ↔ ∀ p ∈ t.properties, p.name ≠ name := by
    rw [TypeDecl.property?, Option.isNone_iff_eq_none, List.find?_eq_none]
    simp only [beq_iff_eq, ne_eq]
  rw [Bool.eq_iff_iff, Bool.and_eq_true, hdeclared]
  simp only [Bool.not_eq_true', Bool.eq_false_iff, ne_eq, List.contains_iff_mem, List.mem_append,
    not_or, List.mem_map, List.mem_filter, not_exists, not_and, and_imp]
  refine and_congr_right fun hshown => forall₂_congr fun p _ => ⟨fun h hname => ?_, fun h _ => h⟩
  exact h (hname ▸ hshown) hname

/-- What is visible is what neither is hidden nor declared before. -/
theorem visible_eq (hidden : List String) (ts : List TypeDecl) :
    visible hidden ts = (ts.mapIdx fun i t => t.properties.filter fun p =>
      !hidden.contains p.name && (ts.take i).all fun u => (u.property? p.name).isNone).flatten := by
  induction ts generalizing hidden with
  | nil => rfl
  | cons t rest ih =>
      rw [visible, ih, List.mapIdx_cons, List.flatten_cons]
      refine congrArg₂ (· ++ ·) ?_ (congrArg List.flatten (List.mapIdx_eq_mapIdx_iff.mpr ?_))
      · exact List.filter_congr fun p _ => (Bool.and_true _).symm
      · intro i hi
        refine List.filter_congr fun p _ => ?_
        rw [not_contains_append_own, List.take_succ_cons, List.all_cons, Bool.and_assoc]

/-- **The chain of a type and the properties along it**, whatever bases are unknown or come back:
the chain is the one row that goes from base to base as far as it can, and the properties are those
that no type before declares by name. -/
theorem ascends_chain_and_flattened_eq (s : Schema) (path : String) :
    s.Ascends (s.type? path) (s.chain path) ∧
      (∀ ts, s.Ascends (s.type? path) ts → ts = s.chain path) ∧
      s.flattened path = unhidden (s.chain path) :=
  ⟨ascends_iff.mpr rfl, fun _ => ascends_iff.mp, visible_eq [] _⟩

end TypeMapper.Schema
