import Mathlib.Data.List.Find
import TypeMapper.Proofs.Batch.Correspondence
import TypeMapper.Proofs.Batch.Rejection
import TypeMapper.Proofs.Schema.Extension
/-!
# Batches of extended schemas

Types that a schema knows nothing of may declare mappings of their own, with errors, in circles, and
into the types of the schema. They shift the ids of the mappings and take part in every loop over
the arena. But what a mapping of the schema becomes depends on the mapping and on those it delegates to,
and none of these is new: the batch of the extended schema has it as it was, under another id.

* `Arena.find?_mappings_declareAll`: of several declarations of a pair the first one counts.
* `Schema.Foreign.filter_candidates_extend`: the old declarations, in order.
* `Arena.idIn`: the id of a mapping in another arena, that of the same pair of types.
* `Arena.Framed`, `Batch.framed_of_extend`: what the batch of the extended schema has for a mapping.
-/

namespace TypeMapper

/-! ## 1. Declarations -/

/-- Members that give nothing can be left out. -/
theorem flatMap_filter_of_nil {α β : Type} {keep : α → Bool} {f : α → List β} {xs : List α}
    (h : ∀ x ∈ xs, keep x = false → f x = []) : xs.flatMap f = (xs.filter keep).flatMap f := by
  induction xs with
  | nil => rfl
  | cons x xs ih =>
      rw [List.forall_mem_cons] at h
      cases hx : keep x with
      | true => rw [List.filter_cons_of_pos hx, List.flatMap_cons, List.flatMap_cons, ih h.2]
      | false =>
          rw [List.filter_cons_of_neg (Bool.eq_false_iff.mp hx), List.flatMap_cons, h.1 hx, ih h.2]
          rfl

/-- The mapping that a declaration stands for. -/
def Candidate.declare (d : Candidate) : Mapping := Mapping.declare d.key d.index d.declaredOn

namespace Arena

variable {a : Arena} {k : MappingKey} {m : Mapping}

/-- **Of several declarations of a pair the first one counts.** -/
theorem find?_mappings_declareAll (a : Arena) (ds : List Candidate) (k : MappingKey) :
    (a.declareAll ds).1.mappings.find? (fun m => m.key == k) =
      (a.mappings.find? fun m => m.key == k).or
        ((ds.find? fun d => d.key == k).map Candidate.declare) := by
  induction ds generalizing a with
  | nil => exact (Option.or_none).symm
  | cons d rest ih =>
      unfold declareAll
      by_cases hmem : d.key ∈ a.keys
      · rw [allocate?_eq_none_iff.mpr hmem]
        dsimp only
        rw [ih, List.find?_cons]
        by_cases heq : d.key = k
        · obtain ⟨m, hm, hkey⟩ := List.mem_map.mp hmem
          have hsome : (a.mappings.find? fun m => m.key == k).isSome = true :=
            List.find?_isSome.mpr ⟨m, hm, beq_iff_eq.mpr (hkey.trans heq)⟩
          rw [Option.or_of_isSome hsome, Option.or_of_isSome hsome]
        · rw [beq_eq_false_iff_ne.mpr heq]
      · obtain ⟨b, hb, hmappings⟩ := exists_allocate? hmem d.index d.declaredOn
        have hdeclare : b.mappings = a.mappings ++ [d.declare] := hmappings
        rw [hb]
        dsimp only
        rw [ih, hdeclare, List.find?_append, List.find?_singleton, List.find?_cons,
          Option.or_assoc]
        congr 1
        show (if d.key == k then some d.declare else none).or _ = _
        cases d.key == k <;> rfl

theorem find?_mappings_eq_some_iff :
    (a.mappings.find? fun m => m.key == k) = some m ↔ ∃ i, a.get? i = some m ∧ m.key = k := by
  constructor
  · intro h
    obtain ⟨i, hi⟩ := exists_get?_of_mem (List.mem_of_find?_eq_some h)
    have hkey := List.find?_some h
    exact ⟨i, hi, beq_iff_eq.mp hkey⟩
  · rintro ⟨i, hm, hkey⟩
    have hsome : (a.mappings.find? fun m => m.key == k).isSome = true :=
      List.find?_isSome.mpr ⟨m, Arena.mem_mappings_of_get? hm, beq_iff_eq.mpr hkey⟩
    obtain ⟨n, hn⟩ := Option.isSome_iff_exists.mp hsome
    obtain ⟨j, hj⟩ := exists_get?_of_mem (List.mem_of_find?_eq_some hn)
    have hnkey := List.find?_some hn
    obtain rfl := id_unique hm hj (hkey.trans (beq_iff_eq.mp hnkey).symm)
    obtain rfl := Option.some.inj (hm.symm.trans hj)
    exact hn

end Arena

/-- A declaration is on one of its two types; its directive names the other one. -/
theorem declaredKey?_eq_some {t : TypeDecl} {d : Directive} {k : MappingKey}
    (h : declaredKey? t d = some k) : (t.path = k.source ∨ t.path = k.destination) ∧
      ∀ p ∈ [k.source, k.destination], p = t.path ∨ p ∈ d.operands := by
  cases d with
  | mapTo q =>
      obtain rfl := Option.some.inj h
      simp [Directive.operands]
  | mapFrom q =>
      obtain rfl := Option.some.inj h
      simp [Directive.operands]
  | _ => cases h

namespace Schema

variable {s : Schema} {extra : List TypeDecl} {t : TypeDecl} {e : DirectiveEntry} {d : Candidate}

theorem candidate?_eq_some (h : s.candidate? t e = some d) :
    declaredKey? t e.directive = some d.key ∧ d.declaredOn = t.path := by
  unfold candidate? at h
  split at h
  · rename_i k hk
    split at h
    · rw [← Option.some.inj h]
      exact ⟨hk, rfl⟩
    · cases h
  · cases h

namespace Foreign

variable (h : s.Foreign extra)

include h

/-- The directives of an old type declare what they declared. -/
theorem candidate?_extend (ht : t ∈ s.types.toList) (he : e ∈ t.directives) :
    (s.extend extra).candidate? t e = s.candidate? t e := by
  unfold candidate?
  cases hkey : declaredKey? t e.directive with
  | none => rfl
  | some k =>
      have hmissing : (s.extend extra).missing k = s.missing k := by
        refine List.filter_congr fun p hp => congrArg not (hasType_extend ?_)
        rcases (declaredKey?_eq_some hkey).2 p hp with rfl | hp
        · exact h.isOutside_of_mem ht
        · exact h.isOutside_of_mentions <| List.mem_flatMap.mpr ⟨t, ht,
            List.mem_append_right _ (List.mem_flatMap.mpr ⟨e, he, hp⟩)⟩
      dsimp only
      rw [hmissing]

/-- **The old declarations are those that are not on a new type**, in the same order. -/
theorem filter_candidates_extend :
    (s.extend extra).candidates.filter (fun d => isOutside extra d.declaredOn) = s.candidates := by
  have hon : ∀ (t : TypeDecl), ∀ d ∈ t.directives.filterMap ((s.extend extra).candidate? t),
      d.declaredOn = t.path := fun t d hd => by
    obtain ⟨e, -, hd⟩ := List.mem_filterMap.mp hd
    exact (candidate?_eq_some hd).2
  have hnew : ∀ t ∈ (s.extend extra).types.toList, isOutside extra t.path = false →
      (t.directives.filterMap ((s.extend extra).candidate? t)).filter
        (fun d => isOutside extra d.declaredOn) = [] := fun t _ hdrop =>
    List.filter_eq_nil_iff.mpr fun d hd => by
      rw [hon t d hd, hdrop]
      exact Bool.false_ne_true
  rw [candidates, List.filter_flatMap, flatMap_filter_of_nil hnew, h.filter_types_extend,
    candidates]
  refine List.flatMap_congr fun t ht => ?_
  rw [List.filter_eq_self.mpr fun d hd => by rw [hon t d hd, h.isOutside_of_mem ht]]
  exact List.filterMap_congr fun e he => h.candidate?_extend ht he

/-- **A pair of old types is declared as it was**, if it was declared at all. -/
theorem find?_mappings_extend {k : MappingKey}
    (hk : k.Within fun p => isOutside extra p = true) :
    ((s.extend extra).declared.mappings.find? fun m => m.key == k) =
      s.declared.mappings.find? fun m => m.key == k := by
  have hfirst : ((s.extend extra).candidates.find? fun d => d.key == k) =
      s.candidates.find? fun d => d.key == k := by
    rw [← h.filter_candidates_extend, List.find?_filter]
    refine List.find?_congr fun d hd => ?_
    obtain ⟨t, -, hd⟩ := List.mem_flatMap.mp hd
    obtain ⟨e, -, hd⟩ := List.mem_filterMap.mp hd
    obtain ⟨hkey, hon⟩ := candidate?_eq_some hd
    by_cases heq : d.key = k
    · -- the declaration is on one of the two types, and both are old
      have hold : isOutside extra d.declaredOn = true := by
        rw [hon]
        rcases (declaredKey?_eq_some hkey).1 with hpath | hpath
        · rw [hpath, heq]
          exact hk.1
        · rw [hpath, heq]
          exact hk.2
      simp [hold, heq]
    · simp [heq]
  rw [declared, declared, Arena.find?_mappings_declareAll, Arena.find?_mappings_declareAll, hfirst]

end Foreign

end Schema

/-! ## 2. Ids in another arena -/

namespace Arena

/-- The id in the arena `b` for the mapping that the arena `a` has under an id: that of the mapping
of the same pair of types. -/
def idIn (a b : Arena) (id : MappingId) : MappingId :=
  ((a.get? id).bind fun m => b.find? m.key).getD id

variable {a b a' b' : Arena} {id i : MappingId} {m : Mapping}

theorem idIn_of_find? (hm : a.get? id = some m) (hi : b.find? m.key = some i) :
    a.idIn b id = i := by
  rw [idIn, hm, Option.bind_some, hi, Option.getD_some]

/-- The ids depend on the pairs of types alone. -/
theorem idIn_congr (ha : a'.keys = a.keys) (hb : b'.keys = b.keys) : a'.idIn b' = a.idIn b := by
  have hkeys : ∀ c d : Arena, ∀ id, c.idIn d id = ((c.keys[id]?).bind d.find?).getD id :=
    fun c d id => by
      rw [keys_getElem?, Option.bind_map]
      rfl
  funext id
  rw [hkeys, hkeys, ha, funext (find?_congr hb)]

end Arena

/-! ## 3. Frames -/

namespace Schema.Foreign

variable {s : Schema} {extra : List TypeDecl} {id : MappingId} {m : Mapping}

/-- **Every declared mapping is declared in the extended schema**, in the same way. -/
theorem get?_declared_extend (h : s.Foreign extra) (hm : s.declared.get? id = some m) :
    m.key.Within (fun p => isOutside extra p = true) ∧
      (s.extend extra).declared.get? (s.declared.idIn (s.extend extra).declared id) = some m := by
  have hwithin : m.key.Within fun p => isOutside extra p = true := by
    obtain ⟨d, hd, rfl⟩ := get?_declared hm
    obtain ⟨⟨source, hs⟩, destination, ht⟩ := mem_candidates hd
    exact ⟨h.isOutside_of_hasType (congrArg Option.isSome hs),
      h.isOutside_of_hasType (congrArg Option.isSome ht)⟩
  refine ⟨hwithin, ?_⟩
  have hfound := Arena.find?_mappings_eq_some_iff.mpr ⟨id, hm, rfl⟩
  rw [← h.find?_mappings_extend hwithin] at hfound
  obtain ⟨i, hi, -⟩ := Arena.find?_mappings_eq_some_iff.mp hfound
  rwa [Arena.idIn_of_find? hm (Arena.find?_eq_some_iff.mpr ⟨m, hi, rfl⟩)]

/-- **The run over the extended schema shares every mapping of the old run.** -/
theorem shares (h : s.Foreign extra) (c : Config) :
    Shares .whole (s.declared.idIn (s.extend extra).declared)
      (fun id => ∃ m, s.declared.get? id = some m) (fun p => isOutside extra p = true)
      s (s.extend extra) c c where
  schemas := h.agreesOn
  config := ⟨fun h => h, fun h => h, fun _ => ⟨rfl, rfl⟩, fun _ => ⟨rfl, rfl⟩⟩
  find k hk := by
    have hfound := h.find?_mappings_extend hk
    cases hid : s.declared.find? k with
    | some id =>
        obtain ⟨m, hm, hkey⟩ := Arena.find?_eq_some_iff.mp hid
        exact Arena.find?_eq_some_iff.mpr ⟨m, (h.get?_declared_extend hm).2, hkey⟩
    | none =>
        cases hid' : (s.extend extra).declared.find? k with
        | none => rfl
        | some i =>
            obtain ⟨m, hm, hkey⟩ := Arena.find?_eq_some_iff.mp hid'
            rw [Arena.find?_mappings_eq_some_iff.mpr ⟨i, hm, hkey⟩] at hfound
            obtain ⟨j, hj, -⟩ := Arena.find?_mappings_eq_some_iff.mp hfound.symm
            rw [Arena.find?_eq_some_iff.mpr ⟨m, hj, hkey⟩] at hid
            cases hid
  get id hid := by
    obtain ⟨m, hm⟩ := hid
    obtain ⟨hwithin, hm'⟩ := h.get?_declared_extend hm
    exact ⟨m, hm, hwithin, hm'⟩
  closed _ _ _ _ _ _ j hj := by
    obtain ⟨m, hm, -⟩ := Arena.find?_eq_some_iff.mp hj
    exact ⟨m, hm⟩
  looks := .inl rfl

end Schema.Foreign

/-- What another arena has for a mapping of this one. -/
structure Arena.Framed (a b : Arena) (m n : Mapping) : Prop where
  /-- Nothing is different but the ids of targets. -/
  eq : n = m.rename (a.idIn b)
  /-- A call goes to the mapping of its pair of types in both arenas. -/
  targets : ∀ d ∈ m.delegates, ∀ t, d.target = some t →
    (∃ k, a.get? t = some k ∧ k.key = d.key) ∧ ∃ k, b.get? (a.idIn b t) = some k ∧ k.key = d.key

namespace Batch

variable {s : Schema} {extra : List TypeDecl} {c : Config} {id : MappingId} {m : Mapping}

/-- **Types that a schema knows nothing of change none of its mappings**, whatever they declare,
with errors or not, and even into the types of the schema. -/
theorem framed_of_extend (h : s.Foreign extra) (hm : (discover s c).arena.get? id = some m) :
    ∃ n, (discover (s.extend extra) c).arena.get?
        ((discover s c).arena.idIn (discover (s.extend extra) c).arena id) = some n ∧
      (discover s c).arena.Framed (discover (s.extend extra) c).arena m n := by
  have hshares := h.shares c
  have hpart := hshares.part.discover hshares.config
  rw [← Arena.idIn_congr (keys_discover_declared s c)
    (keys_discover_declared (s.extend extra) c)] at hpart
  have hdeclared : ∃ m, s.declared.get? id = some m := by
    refine Arena.get?_of_lt_size ?_
    rw [← Arena.size_of_keys (keys_discover_declared s c)]
    exact Arena.lt_size_of_get? hm
  obtain ⟨n, hn, hview⟩ := hpart.exists_of_get? hdeclared hm
  rw [View.mapping_whole, View.mapping_whole] at hview
  refine ⟨n, hn, hview, fun d hd t ht => ?_⟩
  -- both arenas have found the target under the pair of the call
  have hcall := hpart.calls id m hdeclared hm d hd
  have hfound := hcall.bound t ht
  have hfound' := hcall.find
  rw [hfound] at hfound'
  exact ⟨Arena.find?_eq_some_iff.mp hfound, Arena.find?_eq_some_iff.mp hfound'⟩

/-- A box that is its own base and holds a line, and a lid that nothing fills; boxes are to be
mapped to lids, to views of orders and to a type that there is not. -/
def boxTypes : List TypeDecl :=
  [⟨"box::Box", some "box::Box", false, true, [⟨"line", .object "shop::Line" false, false,
      ⟨true, true⟩, []⟩], [⟨.mapTo "view::Order", none⟩, ⟨.mapTo "box::Lid", none⟩,
        ⟨.mapTo "box::Key", none⟩], []⟩,
    ⟨"box::Lid", none, false, false, [⟨"knob", .object "box::Key" true, false, ⟨true, true⟩, []⟩],
      [], []⟩]

/-- The mappings of an order, its line and its item have two more before them, and are otherwise
what they were. -/
theorem framed_order : orderSchema.Foreign boxTypes ∧
    (discover (orderSchema.extend boxTypes) Config.standard).arena.size = 5 ∧
    ∃ m n, (discover orderSchema Config.standard).arena.get? 2 = some m ∧ m.targets = [1] ∧
      (discover (orderSchema.extend boxTypes) Config.standard).arena.get? 4 = some n ∧
      n.targets = [3] ∧
      (discover orderSchema Config.standard).arena.Framed
        (discover (orderSchema.extend boxTypes) Config.standard).arena m n := by
  have hforeign : orderSchema.Foreign boxTypes := by decide +kernel
  have hid : (discover orderSchema Config.standard).arena.idIn
      (discover (orderSchema.extend boxTypes) Config.standard).arena 2 = 4 := by decide +kernel
  have hreport : ((discover orderSchema Config.standard).arena.get? 2).map Mapping.targets =
      some [1] := by decide +kernel
  have hreport' : ((discover (orderSchema.extend boxTypes) Config.standard).arena.get? 4).map
      Mapping.targets = some [3] := by decide +kernel
  obtain ⟨m, hm, htargets⟩ := Option.map_eq_some_iff.mp hreport
  obtain ⟨n, hn, hframed⟩ := framed_of_extend hforeign hm
  rw [hid] at hn
  rw [hn, Option.map_some, Option.some.injEq] at hreport'
  exact ⟨hforeign, by decide +kernel, m, n, hm, htargets, hn, hreport', hframed⟩

end Batch

end TypeMapper
