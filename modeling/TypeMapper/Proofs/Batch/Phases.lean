import TypeMapper.Batch
import TypeMapper.Proofs.Acceptance
import TypeMapper.Proofs.Construction.Property
import TypeMapper.Proofs.EntryParameters
import TypeMapper.Proofs.Matching
import TypeMapper.Proofs.Resolution.Fixpoint
/-!
# The phases of a batch

A batch is what five changes of one arena come to: the mappings are declared, built, resolved, given
their parameters and checked, and then rejection spreads. Each phase is said once, mapping by
mapping, so that what a later phase leaves alone can be read off the phase before it.

* `Schema.declared`, `built`, `resolved`, `checked`: the arena after each phase.
* `BuiltMapping`: what construction makes of a declaration; `Schema.builtMapping_of_get?`.
* `Schema.selfBound_built`: construction binds only calls of a mapping to itself.
* `Batch.exists_checked`: rejection adds a report to a mapping or leaves it alone;
  `exists_parameterized`: what the phases behind resolution add to a mapping.
* `PassedMapping`: what an accepted mapping has passed; `Batch.passed_of_isValid`.
-/

namespace TypeMapper

variable {s : Schema} {c : Config} {id : MappingId} {m : Mapping}

/-! ## 1. Declarations -/

theorem Schema.mem_candidates {d : Candidate} (h : d ∈ s.candidates) :
    (∃ t, s.type? d.key.source = some t) ∧ ∃ t, s.type? d.key.destination = some t := by
  obtain ⟨t, -, hd⟩ := List.mem_flatMap.mp h
  obtain ⟨e, -, hd⟩ := List.mem_filterMap.mp hd
  unfold candidate? at hd
  split at hd
  · rename_i key _
    split at hd
    · rename_i hmissing
      have hknown : ∀ path ∈ [key.source, key.destination], ∃ t, s.type? path = some t :=
        fun path hpath => by
          have hno := List.filter_eq_nil_iff.mp (List.isEmpty_iff.mp hmissing) path hpath
          exact Option.ne_none_iff_exists'.mp (by simpa [hasType] using hno)
      rw [← Option.some.inj hd]
      exact ⟨hknown _ List.mem_cons_self, hknown _ (List.mem_cons_of_mem _ List.mem_cons_self)⟩
    · cases hd
  · cases hd

/-- The arena of the declared mappings. -/
def Schema.declared (s : Schema) : Arena := (Arena.empty.declareAll s.candidates).1

/-- Declaring mappings adds mappings of which only the declaration is known. -/
theorem Arena.get?_declareAll {a : Arena} {ds : List Candidate}
    (h : (a.declareAll ds).1.get? id = some m) :
    a.get? id = some m ∨ ∃ d ∈ ds, m = Mapping.declare d.key d.index d.declaredOn := by
  induction ds generalizing a with
  | nil => exact Or.inl h
  | cons d rest ih =>
      unfold declareAll at h
      split at h
      · rename_i b j halloc
        refine (ih h).elim (fun hb => ?_) fun ⟨e, he, hm⟩ =>
          Or.inr ⟨e, List.mem_cons_of_mem d he, hm⟩
        rw [← mappings_getElem?, (mappings_of_allocate? halloc).1, List.getElem?_append] at hb
        split at hb
        · exact Or.inl ((a.mappings_getElem? id).symm.trans hb)
        · refine Or.inr ⟨d, List.mem_cons_self, ?_⟩
          rw [List.getElem?_singleton] at hb
          split at hb
          · exact (Option.some.inj hb).symm
          · cases hb
      · exact (ih h).imp_right fun ⟨e, he, hm⟩ => ⟨e, List.mem_cons_of_mem d he, hm⟩

theorem Schema.get?_declared (h : s.declared.get? id = some m) :
    ∃ d ∈ s.candidates, m = Mapping.declare d.key d.index d.declaredOn :=
  (Arena.get?_declareAll h).resolve_left nofun

/-! ## 2. Construction -/

/-- What every mapping of a schema is built from. -/
def Schema.context (s : Schema) (c : Config) : BuildContext := ⟨s, c, s.declared.keys⟩

/-- The mappings built each on its own. -/
def Schema.built (s : Schema) (c : Config) : Arena := s.declared.buildAll s c

/-- What construction makes of a declaration. -/
structure BuiltMapping (s : Schema) (c : Config) (id : MappingId) (m : Mapping) : Prop where
  /-- Every strategy has what it needs; a call is bound at once only to the mapping itself. -/
  supplied : ∀ t ∈ m.strategies,
    t.Supplied ⟨s.context c, m.key, id⟩ ⟨m.resolvers, m.localParameters⟩
  /-- What the constructors of resolvers take are parameters. -/
  closed : Helpers.Closed ⟨m.resolvers, m.localParameters⟩
  /-- Without errors and leftovers every destination that is not left out is filled, once. -/
  complete : m.isValid = true → m.leftovers = [] →
    m.properties.map (fun p => p.destination.name) =
      ((s.settable m.destination).filter fun p => !s.leavesOut m.key m.index p).map Property.name ∧
    (m.properties.map fun p => p.destination.name).Nodup

theorem builtMapping_buildFrom (s : Schema) (c : Config) (id : MappingId) (d : Candidate)
    (source destination : TypeDecl) : BuiltMapping s c id
      ((Mapping.declare d.key d.index d.declaredOn).buildFrom (s.context c) id source
        destination) := by
  have hbuilt := Builder.properties_built (b := ⟨s.context c, d.key, id⟩) (h := Helpers.none)
    fun p (hp : p ∈ (matchProperties s d.key d.index).pairs) => Sides.source_ne_nil_of_mem_pairs hp
  refine ⟨fun t ht => ?_, hbuilt.grow.closed Helpers.closed_none, fun hv hl => ?_⟩
  · obtain ⟨p, hp, ht⟩ := List.mem_flatMap.mp ht
    exact hbuilt.supplied p hp t ht
  · have hclean := (Bool.not_eq_true' _).mp hv
    simp only [Mapping.buildFrom, Diagnostic.hasErrors_append, Bool.or_eq_false_iff] at hclean
    obtain ⟨hpairs, hnodup⟩ := matchProperties_complete s d.key d.index hl hclean.1.2
    have hnames : (Builder.properties ⟨s.context c, d.key, id⟩ Helpers.none
        (matchProperties s d.key d.index).pairs).1.map (fun p => p.destination.name) =
        ((s.settable d.key.destination).filter fun p => !s.leavesOut d.key d.index p).map
          Property.name := by
      rw [← hpairs, List.map_map]
      have hdest := congrArg (List.map PropertyEnd.name) (hbuilt.complete hclean.2)
      rwa [List.map_map, List.map_map] at hdest
    exact ⟨hnames, hnames ▸ hnodup.sublist (List.filter_sublist.map _)⟩

theorem Mapping.build_of_types {c : BuildContext} (id : MappingId) {source destination : TypeDecl}
    (hs : c.schema.type? m.source = some source)
    (hd : c.schema.type? m.destination = some destination) :
    m.build c id = .ok (m.buildFrom c id source destination) := by
  unfold build
  rw [hs]
  dsimp only
  rw [hd]

/-- What is built of a declared mapping: its types are known. -/
theorem Schema.get?_built_of_declared (h : s.declared.get? id = some m) :
    ∃ source destination, s.type? m.source = some source ∧
      s.type? m.destination = some destination ∧
      (s.built c).get? id = some (m.buildFrom (s.context c) id source destination) := by
  obtain ⟨d, hd, rfl⟩ := get?_declared h
  obtain ⟨⟨source, hs⟩, destination, ht⟩ := mem_candidates hd
  have hbuild := Mapping.build_of_types (c := s.context c)
    (m := Mapping.declare d.key d.index d.declaredOn) id hs ht
  refine ⟨source, destination, hs, ht, ?_⟩
  rw [built, Arena.buildAll, Arena.get?_transform, h]
  show some (Tables.rekeyed (Arena.buildOne (s.context c)) id _) = _
  rw [Tables.rekeyed, Arena.buildOne, hbuild]
  rfl

theorem Schema.get?_built (h : (s.built c).get? id = some m) :
    ∃ d ∈ s.candidates, ∃ source destination,
      m = (Mapping.declare d.key d.index d.declaredOn).buildFrom (s.context c) id source
        destination := by
  have hm := h
  rw [built, Arena.buildAll, Arena.get?_transform, Option.map_eq_some_iff] at hm
  obtain ⟨m0, hm0, -⟩ := hm
  obtain ⟨source, destination, -, -, hget⟩ := get?_built_of_declared (c := c) hm0
  obtain ⟨d, hd, rfl⟩ := get?_declared hm0
  exact ⟨d, hd, source, destination, Option.some.inj (h.symm.trans hget)⟩

/-- **Every mapping of the arena is built from its declaration**: no construction breaks off. -/
theorem Schema.builtMapping_of_get? (h : (s.built c).get? id = some m) : BuiltMapping s c id m := by
  obtain ⟨d, -, source, destination, rfl⟩ := get?_built h
  exact builtMapping_buildFrom s c id d source destination

/-- **Construction binds only calls of a mapping to itself**, as resolution demands. -/
theorem Schema.selfBound_built (s : Schema) (c : Config) : (s.built c).SelfBound := by
  intro p hp call hcall hb
  have hbuilt := builtMapping_of_get? (Arena.mem_entries_iff.mp hp)
  obtain ⟨t, ht, hc⟩ := List.mem_filterMap.mp hcall
  have hsup := hbuilt.supplied t ht
  cases t with
  | delegate d =>
      obtain rfl := Option.some.inj hc
      exact hsup hb
  | method d => cases hc
  | resolver d => cases hc

/-! ## 3. Resolution -/

/-- The mappings with their delegates resolved. -/
def Schema.resolved (s : Schema) (c : Config) : Arena := (s.built c).resolve.1

/-- What resolution makes of a built mapping: its calls change, each into one of the same pair of
types, and its flag. -/
theorem Schema.get?_resolved_key (h : (s.resolved c).get? id = some m) :
    ∃ n g flag, (s.built c).get? id = some n ∧ (∀ d, (g d).key = d.key) ∧
      m = (n.mapDelegates g).withAsync flag := by
  obtain ⟨g, hg, hr⟩ := Arena.resolve_eq (selfBound_built s c)
  rw [resolved, Arena.get?_resolve hr, Option.map_eq_some_iff] at h
  obtain ⟨n, hn, rfl⟩ := h
  exact ⟨n, g id, _, hn, hg.key id, rfl⟩

/-- What resolution makes of a built mapping: its calls change and its flag. -/
theorem Schema.get?_resolved (h : (s.resolved c).get? id = some m) :
    ∃ n g flag, (s.built c).get? id = some n ∧ m = (n.mapDelegates g).withAsync flag := by
  obtain ⟨n, g, flag, hn, -, hm⟩ := get?_resolved_key h
  exact ⟨n, g, flag, hn, hm⟩

/-- What the helpers of a resolved mapping take is among its parameters. -/
theorem Schema.helpers_resolved (h : (s.resolved c).get? id = some m) :
    (∀ d, Strategy.method d ∈ m.strategies → ∀ p ∈ d.arguments,
      (EntryParameter.ofLocal p.name p.ty).isIn m.localParameters = true) ∧
    ∀ i ∈ m.resolvers, ∀ p ∈ i.arguments, p.isIn m.localParameters = true := by
  obtain ⟨n, g, flag, hn, rfl⟩ := get?_resolved h
  have hbuilt := builtMapping_of_get? hn
  refine ⟨fun d hd => ?_, hbuilt.closed⟩
  have hd' : Strategy.method d ∈ n.strategies.map (Strategy.mapDelegate g) :=
    Mapping.strategies_mapDelegates g n ▸ hd
  obtain ⟨t, ht, htd⟩ := List.mem_map.mp hd'
  -- resolution changes delegates only
  cases t with
  | delegate e => cases htd
  | method e =>
      obtain rfl := Strategy.method.inj htd
      exact hbuilt.supplied _ ht
  | resolver e => cases htd

/-! ## 4. Checks -/

/-- A mapping with the entry parameters of a list, and the reports on them. -/
def Mapping.withParameters (m : Mapping) (l : ParameterList) : Mapping :=
  { m with entryParameters := l.parameters }.report l.reports

/-- The mappings with their entry parameters, each checked on its own. -/
def Schema.checked (s : Schema) (c : Config) : Arena := (s.resolved c).parameterize.checkAll c

theorem Arena.get?_parameterize (a : Arena) (id : MappingId) : a.parameterize.get? id =
    (a.get? id).map fun m => m.withParameters (a.entryParameters id) :=
  get?_transform_of_key (f := fun id m => m.withParameters (a.entryParameters id))
    (fun _ _ => rfl) a id

theorem Arena.get?_checkAll (a : Arena) (c : Config) (id : MappingId) : (a.checkAll c).get? id =
    (a.get? id).map fun m => m.report (m.check c) :=
  get?_transform_of_key (f := fun _ m => m.report (m.check c)) (fun _ _ => rfl) a id

theorem Schema.get?_checked (h : (s.checked c).get? id = some m) : ∃ n,
    (s.resolved c).get? id = some n ∧ ∃ ds, m =
      (n.withParameters ((s.resolved c).entryParameters id)).report ds ∧
      ds = (n.withParameters ((s.resolved c).entryParameters id)).check c := by
  rw [checked, Arena.get?_checkAll, Arena.get?_parameterize, Option.map_map,
    Option.map_eq_some_iff] at h
  obtain ⟨n, hn, rfl⟩ := h
  exact ⟨n, hn, _, rfl, rfl⟩

/-- The pairs of types are those of the declared mappings. -/
theorem Schema.keys_checked (s : Schema) (c : Config) : (s.checked c).keys = s.declared.keys := by
  rw [checked, Arena.checkAll, Arena.parameterize, Arena.keys_transform, Arena.keys_transform,
    resolved, Arena.keys_resolve (s.selfBound_built c)]
  exact Arena.keys_transform _ _

/-- A batch is what the phases come to. -/
theorem Batch.discover_eq (s : Schema) (c : Config) : discover s c =
    ⟨(s.checked c).rejectDelegates.1,
      s.candidateReports ++ (Arena.empty.declareAll s.candidates).2,
      (s.built c).resolve.2, (s.checked c).rejectDelegates.2⟩ := by
  unfold discover Schema.checked Schema.resolved Schema.built Schema.declared
  obtain ⟨declared, duplicates⟩ := Arena.empty.declareAll s.candidates
  dsimp only

theorem Batch.discover_arena (s : Schema) (c : Config) :
    (discover s c).arena = (s.checked c).rejectDelegates.1 := by rw [discover_eq]

theorem Batch.discover_rejected (s : Schema) (c : Config) :
    (discover s c).rejected = (s.checked c).rejectDelegates.2 := by rw [discover_eq]

/-- Rejection at the end of a batch comes to the closure. -/
theorem Batch.discover_closure (s : Schema) (c : Config) :
    Arena.RejectionClosure (s.checked c) (discover s c).arena (discover s c).rejected := by
  rw [discover_arena, discover_rejected]
  exact (s.checked c).rejectDelegates_closure

theorem Batch.keys_discover_declared (s : Schema) (c : Config) :
    (discover s c).arena.keys = s.declared.keys :=
  (discover_closure s c).pairs.trans (s.keys_checked c)

/-! ## 5. Accepted mappings -/

/-- What an accepted mapping has passed: it was resolved as `n`, built without an error, has taken
the parameters of the list `l` with none left out, and no check has found an error. -/
structure PassedMapping (s : Schema) (c : Config) (id : MappingId) (n : Mapping) (l : ParameterList)
    (m : Mapping) : Prop where
  resolved : (s.resolved c).get? id = some n
  parameters : l = (s.resolved c).entryParameters id
  isValid : n.isValid = true
  noReports : Diagnostic.hasErrors l.reports = false
  noFindings : Diagnostic.hasErrors ((n.withParameters l).check c) = false
  eq : ∃ ds, m = (n.withParameters l).report ds

namespace PassedMapping

variable {n : Mapping} {l : ParameterList}

/-- Parameters and reports leave the properties alone. -/
theorem properties_eq (h : PassedMapping s c id n l m) : m.properties = n.properties := by
  obtain ⟨ds, rfl⟩ := h.eq
  rfl

theorem strategies_eq (h : PassedMapping s c id n l m) : m.strategies = n.strategies := by
  rw [Mapping.strategies, h.properties_eq, Mapping.strategies]

theorem delegates_eq (h : PassedMapping s c id n l m) : m.delegates = n.delegates := by
  rw [Mapping.delegates, h.strategies_eq, Mapping.delegates]

theorem resolvers_eq (h : PassedMapping s c id n l m) : m.resolvers = n.resolvers := by
  obtain ⟨ds, rfl⟩ := h.eq
  rfl

theorem localParameters_eq (h : PassedMapping s c id n l m) :
    m.localParameters = n.localParameters := by
  obtain ⟨ds, rfl⟩ := h.eq
  rfl

theorem entryParameters_eq (h : PassedMapping s c id n l m) :
    m.entryParameters = ((s.resolved c).entryParameters id).parameters := by
  obtain ⟨ds, rfl⟩ := h.eq
  rw [← h.parameters]
  rfl

/-- What the helpers of a mapping take is among the parameters of its routine. -/
theorem isIn_of_local (h : PassedMapping s c id n l m) {p : EntryParameter}
    (hp : p.isIn n.localParameters = true) : p.isIn m.entryParameters = true := by
  obtain ⟨q, hq, hkey⟩ := EntryParameter.isIn_iff.mp hp
  have hin := Arena.isIn_entryParameters h.resolved (h.parameters ▸ h.noReports) .refl h.resolved hq
  obtain ⟨r, hr, hrkey⟩ := EntryParameter.isIn_iff.mp hin
  rw [h.entryParameters_eq]
  exact EntryParameter.isIn_iff.mpr ⟨r, hr, hrkey.trans hkey⟩

/-- What the routine of a callee takes is among the parameters of the routine. -/
theorem isIn_of_callee (h : PassedMapping s c id n l m) {t : MappingId}
    (ht : (s.resolved c).Delegates id t) {q : EntryParameter}
    (hq : q ∈ ((s.resolved c).entryParameters t).parameters) : q.isIn m.entryParameters = true := by
  rw [h.entryParameters_eq]
  exact Arena.isIn_entryParameters_of_reaches h.resolved (h.parameters ▸ h.noReports)
    (.single ht) hq

end PassedMapping

theorem Schema.passed_of_checked (h : (s.checked c).get? id = some m) (hv : m.isValid = true) :
    ∃ n l, PassedMapping s c id n l m := by
  obtain ⟨n, hn, ds, rfl, hds⟩ := get?_checked h
  rw [Mapping.isValid_report, Bool.and_eq_true, Bool.not_eq_true', Mapping.withParameters,
    Mapping.isValid_report, Bool.and_eq_true, Bool.not_eq_true'] at hv
  exact ⟨n, _, hn, rfl, hv.1.1, hv.1.2, hds ▸ hv.2, ds, rfl⟩

/-- **A mapping of a batch is what the checks made of it**, with a report if it is rejected. -/
theorem Batch.exists_checked (h : (discover s c).arena.get? id = some m) :
    ∃ n, (s.checked c).get? id = some n ∧
      (m = n ∨ m.isValid = false ∧ ∃ k, m = n.report [Arena.rejection n k]) := by
  have hclosure := discover_closure s c
  have hlt : id < (s.checked c).size := by
    rw [← Arena.size_of_keys hclosure.pairs]
    exact Arena.lt_size_of_get? h
  obtain ⟨n, hn⟩ := Arena.get?_of_lt_size hlt
  refine ⟨n, hn, ?_⟩
  by_cases hnew : (discover s c).arena.Rejected id ∧ ¬ (s.checked c).Rejected id
  · obtain ⟨t, k, -, -, -, hreport⟩ := hclosure.reported id n hn hnew.2 hnew.1
    have hno : m.isValid = false := (Arena.rejected_iff_of_get? h).mp hnew.1
    exact .inr ⟨hno, k, Option.some.inj (h.symm.trans hreport)⟩
  · have hkept := hclosure.kept id n hn fun hr => by
      by_contra hno
      exact hnew ⟨hr, hno⟩
    exact .inl (Option.some.inj (h.symm.trans hkept))

/-- The phases behind resolution give a mapping its parameters and add the reports of its checks and
of a rejection. -/
theorem Batch.exists_parameterized (h : (discover s c).arena.get? id = some m) : ∃ n ds,
    (s.resolved c).get? id = some n ∧ (∀ r ∈ ds, ∃ k t, r = Arena.rejection k t) ∧
      m = (n.withParameters ((s.resolved c).entryParameters id)).report
        ((n.withParameters ((s.resolved c).entryParameters id)).check c ++ ds) := by
  obtain ⟨k, hk, hmk⟩ := exists_checked h
  obtain ⟨n, hn, _, heq, rfl⟩ := Schema.get?_checked hk
  refine ⟨n, ?_⟩
  rcases hmk with rfl | ⟨-, t, rfl⟩
  · refine ⟨[], hn, nofun, ?_⟩
    rw [List.append_nil]
    exact heq
  · refine ⟨[Arena.rejection k t], hn, fun r hr => ⟨k, t, List.mem_singleton.mp hr⟩, ?_⟩
    rw [heq, Mapping.report, Mapping.report, Mapping.report, List.append_assoc]

/-- Rejection leaves an accepted mapping alone. -/
theorem Batch.get?_checked_of_isValid (h : (discover s c).arena.get? id = some m)
    (hv : m.isValid = true) : (s.checked c).get? id = some m := by
  obtain ⟨n, hn, rfl | ⟨hno, -⟩⟩ := exists_checked h
  · exact hn
  · rw [hv] at hno
    cases hno

/-- **An accepted mapping has passed every phase.** -/
theorem Batch.passed_of_isValid (h : (discover s c).arena.get? id = some m)
    (hv : m.isValid = true) : ∃ n l, PassedMapping s c id n l m :=
  Schema.passed_of_checked (get?_checked_of_isValid h hv) hv

end TypeMapper
