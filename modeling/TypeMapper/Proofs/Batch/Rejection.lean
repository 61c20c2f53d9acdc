import TypeMapper.Proofs.Batch.Phases
/-!
# What a batch accepts

Rejection at the end of a batch spreads from the mappings with errors to those that reach them. What
remains is closed: every delegate of an accepted mapping is bound, to an accepted mapping of exactly
its pair of types.

* `Mapping.target_of_check`: what the check on calls finds.
* `Batch.delegates_of_isValid`, `Batch.isValid_of_reaches`: the delegates of an accepted mapping, and
  what it reaches.
* `Batch.Settled`, `Batch.discover_settled`: what a batch comes to, field by field.
-/

namespace TypeMapper

/-- A mapping without reports on its calls has a target for every one of them. -/
theorem Mapping.target_of_check {c : Config} {m : Mapping} {d : DelegateCall}
    (h : Diagnostic.hasErrors (m.check c) = false) (hd : d ∈ m.delegates) :
    ∃ t, d.target = some t := by
  refine DelegateCall.isBound_iff.mp (Bool.of_not_eq_false fun hb => ?_)
  obtain ⟨st, hst, hdel⟩ := List.mem_filterMap.mp hd
  obtain ⟨p, hp, hst⟩ := List.mem_flatMap.mp hst
  have hmem : d ∈ p.delegates := List.mem_filterMap.mpr ⟨st, hst, hdel⟩
  simp only [check, Diagnostic.hasErrors_append, Bool.or_eq_false_iff] at h
  -- the report on the call is an error
  have hreport : Diagnostic.hasErrors (m.properties.flatMap fun p =>
      m.unboundReports p ++ m.omissionReports c p) = true := by
    refine List.any_eq_true.mpr ⟨_, List.mem_flatMap.mpr ⟨p, hp, List.mem_append_left _
      (List.mem_map_of_mem (List.mem_filter.mpr ⟨hmem, ?_⟩))⟩, rfl⟩
    rw [hb]
    rfl
  rw [h.2] at hreport
  cases hreport

namespace Batch

variable {s : Schema} {c : Config} {id : MappingId} {m : Mapping} {d : DelegateCall}

/-- The pairs of types are those of the resolved mappings. -/
theorem keys_discover (s : Schema) (c : Config) :
    (discover s c).arena.keys = (s.resolved c).keys := by
  rw [(discover_closure s c).pairs, Schema.checked, Arena.checkAll, Arena.parameterize,
    Arena.keys_transform, Arena.keys_transform]

/-- The target of a call of an accepted mapping is accepted. -/
theorem not_rejected_target {t : MappingId} (h : (discover s c).arena.get? id = some m)
    (hv : m.isValid = true) (hd : d ∈ m.delegates) (ht : d.target = some t) :
    ¬ (discover s c).arena.Rejected t := by
  intro hrej
  have hclosure := discover_closure s c
  have hstep : (s.checked c).Delegates id t :=
    ⟨m, get?_checked_of_isValid h hv, Arena.mem_targets_iff.mpr ⟨d, hd, ht⟩⟩
  obtain ⟨u, hreach, hu⟩ := (hclosure.rejected t).mp hrej
  have hid := (hclosure.rejected id).mpr ⟨u, hreach.head hstep, hu⟩
  rw [Arena.rejected_iff_of_get? h, hv] at hid
  cases hid

/-- **Every delegate of an accepted mapping is bound to an accepted mapping** of exactly its pair of
types. -/
theorem delegates_of_isValid (h : (discover s c).arena.get? id = some m) (hv : m.isValid = true)
    (hd : d ∈ m.delegates) : ∃ t k, d.target = some t ∧ (discover s c).arena.get? t = some k ∧
      k.key = d.key ∧ k.isValid = true := by
  obtain ⟨n, l, hpassed⟩ := passed_of_isValid h hv
  have hdn : d ∈ n.delegates := hpassed.delegates_eq ▸ hd
  obtain ⟨t, ht⟩ := Mapping.target_of_check hpassed.noFindings hdn
  obtain ⟨k, hk, hkey⟩ := Arena.target_resolve (Schema.selfBound_built s c) hpassed.resolved hdn ht
  have hkeys : ((discover s c).arena.get? t).map Mapping.key = some d.key := by
    rw [← Arena.keys_getElem?, keys_discover, Arena.keys_getElem?, Schema.resolved, hk, ← hkey]
    rfl
  obtain ⟨k', hk', hkey'⟩ := Option.map_eq_some_iff.mp hkeys
  refine ⟨t, k', ht, hk', hkey', Bool.of_not_eq_false fun hr => ?_⟩
  exact not_rejected_target h hv hd ht ((Arena.rejected_iff_of_get? hk').mpr hr)

/-- An accepted mapping reaches accepted mappings only. -/
theorem isValid_of_reaches (h : (discover s c).arena.get? id = some m) (hv : m.isValid = true)
    {t : MappingId} (hr : (discover s c).arena.Reaches id t) :
    ∃ k, (discover s c).arena.get? t = some k ∧ k.isValid = true := by
  induction hr with
  | refl => exact ⟨m, h, hv⟩
  | tail _ hstep ih =>
      obtain ⟨k, hk, hkv⟩ := ih
      obtain ⟨d, hd, ht⟩ := Arena.mem_targets_iff.mp ((Arena.delegates_iff_of_get? hk).mp hstep)
      obtain ⟨t', k', ht', hk', -, hkv'⟩ := delegates_of_isValid hk hkv hd
      obtain rfl := Option.some.inj (ht.symm.trans ht')
      exact ⟨k', hk', hkv'⟩

theorem isValid_of_reaches_get? (h : (discover s c).arena.get? id = some m)
    (hv : m.isValid = true) {t : MappingId} {k : Mapping}
    (hr : (discover s c).arena.Reaches id t)
    (hk : (discover s c).arena.get? t = some k) : k.isValid = true := by
  obtain ⟨k', hk', hkv⟩ := isValid_of_reaches h hv hr
  obtain rfl := Option.some.inj (hk.symm.trans hk')
  exact hkv

/-- What a batch has to come to, of a schema under settings. -/
structure Settled (s : Schema) (c : Config) (b : Batch) : Prop where
  /-- A mapping is rejected exactly if it had an error before rejection or reaches one that had;
  each newly rejected one gets one report, and the batch tells how many there are. -/
  closure : Arena.RejectionClosure (s.checked c) b.arena b.rejected
  /-- Rejection comes to an end: with more rounds it is the same. -/
  uncut : ∀ n, (s.checked c).accepted < n →
    Arena.rejectRounds n (s.checked c) = (b.arena, b.rejected)
  /-- Every delegate of an accepted mapping is bound to an accepted mapping of exactly its key. -/
  delegates : ∀ id m, b.arena.get? id = some m → m.isValid = true → ∀ d ∈ m.delegates,
    ∃ t k, d.target = some t ∧ b.arena.get? t = some k ∧ k.key = d.key ∧ k.isValid = true

/-- **A batch rejects exactly what reaches an error**, and what it accepts is closed. -/
theorem discover_settled (s : Schema) (c : Config) : Settled s c (discover s c) where
  closure := discover_closure s c
  uncut n hn := by
    rw [discover_arena, discover_rejected, Arena.rejectRounds_eq hn]
  delegates _ _ h hv _ hd := delegates_of_isValid h hv hd

/-- An order with a line with an item, each with its view; nothing fills the weight of an item. -/
def orderSchema : Schema :=
  Schema.ofLists
    [type "shop::Order" [property "line" (.object "shop::Line" false)] (some "view::Order"),
      type "shop::Line" [property "item" (.object "shop::Item" false)] (some "view::Line"),
      type "shop::Item" [property "code" (.scalar "String" false false)] (some "view::Item"),
      type "view::Order" [property "line" (.object "view::Line" false)] none,
      type "view::Line" [property "item" (.object "view::Item" false)] none,
      type "view::Item" [property "code" (.scalar "String" false false),
        property "weight" (.scalar "f64" true false)] none]
    []
where
  /-- A property without directives. -/
  property (name : String) (ty : TypeRef) : Property := ⟨name, ty, false, ⟨true, true⟩, []⟩
  /-- A type that may be mapped to another. -/
  type (path : String) (properties : List Property) (view : Option String) : TypeDecl :=
    ⟨path, none, false, true, properties, view.toList.map fun d => ⟨.mapTo d, none⟩, []⟩

/-- The mapping of an item has an error; those of a line and of an order are rejected with it. -/
theorem settled_order : Settled orderSchema Config.standard
      (discover orderSchema Config.standard) ∧
    (discover orderSchema Config.standard).rejected = 2 ∧
    (discover orderSchema Config.standard).validIds = [] :=
  ⟨discover_settled orderSchema Config.standard, by decide +kernel, by decide +kernel⟩

end Batch

end TypeMapper
