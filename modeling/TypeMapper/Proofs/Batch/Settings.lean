import TypeMapper.Proofs.Batch.Correspondence
import TypeMapper.Proofs.Batch.Rejection
/-!
# What a batch takes from the settings

Two of the settings say what an absent value means. The others are for the generated code: they
leave every phase as it is, but for the depth of unrolling that a mapping carries along and for the
reports on what a single expression leaves out. And settings that refuse more absent values at run time
refuse fewer mappings: what was accepted before stays as it was, but for the policies of slots.

* `Arena.Twin`: two arenas with the same mappings under the same ids, as far as one looks.
* `Arena.Twin.bindAll`, `rejectRounds`: the loops over them take the same rounds.
* `Batch.Alike`, `Batch.discover_alike`: two runs that agree on what an absent value means.
* `Mapping.Kept`, `Batch.kept_of_stricter`: two runs of which the second one is stricter.
-/

namespace TypeMapper

/-! ## 1. Twin arenas -/

/-- Two arenas have the same under the same ids, but for what one does not look at. -/
structure Arena.Twin (v : View) (a b : Arena) : Prop where
  size : b.size = a.size
  part : Part v id (· < a.size) a b

namespace Arena

/-- A scan binds as many calls of a mapping in both arenas. -/
theorem Part.bindings_eq {v : View} {σ : MappingId → MappingId} {P : MappingId → Prop} {a b : Arena}
    {i : MappingId} {m n : Mapping} (h : Part v σ P a b) (hP : P i) (hm : a.get? i = some m)
    (hview : v.mapping n = v.mapping (m.rename σ)) : b.bindings (σ i) n = a.bindings i m := by
  rw [bindings, bindings, delegates_eq hview, List.countP_map]
  refine List.countP_congr fun d hd => ?_
  rw [Function.comp_apply, h.bindable?_eq hP (h.calls i m hP hm d hd), Option.isSome_map]

namespace Twin

variable {v : View} {a b : Arena} (h : Twin v a b)

include h

/-- A change of both arenas that keeps the part keeps the twins. -/
theorem transform {f g : MappingId → Mapping → Mapping}
    (hpart : Part v id (· < a.size) (a.transform f) (b.transform g)) :
    Twin v (a.transform f) (b.transform g) := by
  refine ⟨?_, ?_⟩
  · rw [size_transform, size_transform, h.size]
  · rwa [size_transform]

/-- What is computed of each mapping is the same if it is the same for mappings that look alike. -/
theorem map_entries_eq {α : Type} {f g : MappingId → Mapping → α}
    (hfg : ∀ i m n, i < a.size → a.get? i = some m → v.mapping n = v.mapping (m.rename id) →
      g i n = f i m) :
    (b.entries.map fun p => g p.1 p.2) = a.entries.map fun p => f p.1 p.2 := by
  refine List.ext_getElem? fun i => ?_
  rw [List.getElem?_map, List.getElem?_map, entries_getElem?, entries_getElem?, Option.map_map,
    Option.map_map]
  cases hm : a.get? i with
  | some m =>
      have hlt := lt_size_of_get? hm
      obtain ⟨n, hn, hview⟩ := h.part.exists_of_get? hlt hm
      rw [show b.get? i = some n from hn]
      exact congrArg some (hfg i m n hlt hm hview)
  | none =>
      have hnone : b.get? i = none := get?_eq_none_iff.mpr (h.size ▸ get?_eq_none_iff.mp hm)
      rw [hnone]
      rfl

/-! ## 2. Rounds -/

theorem scanCount_eq : b.scanCount = a.scanCount := by
  rw [scanCount_eq_sum, scanCount_eq_sum, h.map_entries_eq (f := a.bindings)]
  exact fun i m n hlt hm hview => h.part.bindings_eq hlt hm hview

theorem pending_eq : b.pending = a.pending := by
  rw [pending_eq_sum, pending_eq_sum,
    h.map_entries_eq (f := fun _ m => m.unbound) (g := fun _ m => m.unbound)]
  intro i m n _ _ hview
  rw [Mapping.unbound, Mapping.unbound, Part.delegates_eq hview, List.countP_map]
  refine List.countP_congr fun d _ => ?_
  rw [Function.comp_apply, DelegateCall.isBound_rename]

/-- **The scans** are as many in both arenas, and bind as many calls. -/
theorem bindAll (n : Nat) : Twin v (bindAll n a).1 (bindAll n b).1 ∧
    (Arena.bindAll n b).2 = (Arena.bindAll n a).2 := by
  induction n generalizing a b with
  | zero => exact ⟨h, rfl⟩
  | succ n ih =>
      have hcount := h.scanCount_eq
      by_cases h0 : a.scanCount = 0
      · rw [bindAll_zero_scan h0, bindAll_zero_scan (hcount.trans h0)]
        exact ⟨h, rfl⟩
      · obtain ⟨htwin, heq⟩ := ih (h.transform h.part.scan)
        rw [bindAll_next_scan h0, bindAll_next_scan fun hno => h0 (hcount.symm.trans hno)]
        refine ⟨htwin, ?_⟩
        rw [hcount]
        exact congrArg (fun r : Nat × Nat => (r.1 + 1, r.2 + a.scanCount)) heq

/-- **The report on resolution** is the same. -/
theorem resolve_report : b.resolve.2 = a.resolve.2 := by
  obtain ⟨htwin, heq⟩ := h.bindAll (a.pending + 1)
  have hreport : ∀ c : Arena, c.resolve.2 = ⟨(Arena.bindAll (c.pending + 1) c).2.1,
      (Arena.bindAll (c.pending + 1) c).2.2, (Arena.bindAll (c.pending + 1) c).1.pending⟩ :=
    fun _ => rfl
  rw [hreport, hreport, h.pending_eq, heq, htwin.pending_eq]

theorem rejectCount_eq : b.rejectCount = a.rejectCount := by
  have hstop := h.map_entries_eq (f := fun i m => (a.rejectedTarget? i m).isSome)
    (g := fun i n => (b.rejectedTarget? i n).isSome) fun i m n hlt hm hview => by
      have hkey := congrArg Option.isSome (h.part.rejectedTarget?_eq hlt hm hview)
      rwa [Option.isSome_map, Option.isSome_map] at hkey
  have hcount := congrArg (List.countP id) hstop
  rw [List.countP_map, List.countP_map] at hcount
  exact hcount

/-- **The rejections** are as many in both arenas. -/
theorem rejectRounds (n : Nat) : (rejectRounds n b).2 = (rejectRounds n a).2 := by
  induction n generalizing a b with
  | zero => rfl
  | succ n ih =>
      have hrest := ih (h.transform h.part.rejectRound)
      unfold Arena.rejectRounds
      rw [h.rejectCount_eq]
      split
      · rfl
      · exact congrArg (· + a.rejectCount) hrest

theorem rejectDelegates : b.rejectDelegates.2 = a.rejectDelegates.2 := by
  rw [Arena.rejectDelegates, Arena.rejectDelegates, h.size]
  exact h.rejectRounds (a.size + 1)

end Twin

end Arena

/-! ## 3. Two runs over one schema -/

namespace Schema

variable {v : View} {s : Schema} {c c' : Config}

/-- Two runs over one schema share every part that is closed. -/
theorem shares_self {P : MappingId → Prop} (hc : c.Follows v c')
    (hP : ∀ i, P i → ∃ m, s.declared.get? i = some m)
    (hclosed : ∀ i m, P i → (s.built c).get? i = some m → ∀ d ∈ m.delegates,
      ∀ j, s.declared.find? d.key = some j → P j)
    (hlooks : v.policies = true ∨ ∀ i m, P i → (s.built c).get? i = some m → m.isValid = true) :
    Shares v id P (fun _ => True) s s c c' where
  schemas := .refl s
  config := hc
  find k _ := by rw [Option.map_id, id]
  get i hi := by
    obtain ⟨m, hm⟩ := hP i hi
    exact ⟨m, hm, ⟨trivial, trivial⟩, hm⟩
  closed := hclosed
  looks := hlooks

/-- **Under settings that agree on what an absent value means** the mappings are built in the same
way. -/
theorem twin_built (s : Schema) (hc : c.Follows v c') (hv : v.policies = true) :
    Arena.Twin v (s.built c) (s.built c') := by
  have hsize : ∀ c, (s.built c).size = s.declared.size := fun _ => Arena.size_transform _ _
  refine ⟨(hsize c').trans (hsize c).symm, ?_⟩
  rw [hsize]
  refine (shares_self hc (fun i hi => Arena.get?_of_lt_size hi) (fun i m _ _ d _ j hj => ?_)
    (.inl hv)).part
  obtain ⟨k, hk, -⟩ := Arena.find?_eq_some_iff.mp hj
  exact Arena.lt_size_of_get? hk

theorem twin_checked (s : Schema) (hc : c.Follows v c') (hv : v.policies = true) :
    Arena.Twin v (s.checked c) (s.checked c') := by
  have hbuilt := s.twin_built hc hv
  have hsize : ∀ c, (s.checked c).size = (s.built c).size := fun c =>
    Arena.size_of_keys ((s.keys_checked c).trans (Arena.keys_transform _ _).symm)
  refine ⟨by rw [hsize, hsize, hbuilt.size], ?_⟩
  rw [hsize]
  exact (hbuilt.part.resolve (s.selfBound_built c)
    (s.selfBound_built c')).parameterize.checkAll hc

end Schema

/-- A mapping without what is for the generated code alone: the depth of unrolling, and the reports
on what a single expression leaves out. -/
def Mapping.withoutVariants (m : Mapping) : Mapping :=
  { m with
    maxRecursionDepth := 0
    diagnostics := m.diagnostics.filter fun d => d.code != .expressionOmission }

/-- **Two batches are alike**, whatever code is generated. -/
structure Batch.Alike (b b' : Batch) : Prop where
  /-- Every mapping is the same, in the same place, but for what is for the generated code. -/
  mappings : b'.arena.mappings.map Mapping.withoutVariants =
    b.arena.mappings.map Mapping.withoutVariants
  /-- The same mappings are accepted. -/
  validIds : b'.validIds = b.validIds
  diagnostics : b'.diagnostics = b.diagnostics
  /-- Resolution has made as many scans, and has bound and left as many calls. -/
  report : b'.report = b.report
  rejected : b'.rejected = b.rejected

/-- To look at everything but what is for the generated code alone. -/
def View.plain : View := ⟨true, false⟩

/-- What one looks at has everything that there is without the variants. -/
theorem View.withoutVariants_eq (m : Mapping) : m.withoutVariants =
    { plain.mapping m with
      diagnostics :=
        (plain.mapping m).diagnostics.filter fun d => d.code != .expressionOmission } := by
  have hproperty : plain.property = id := property_of_policies rfl
  have hreports : (plain.reports m.diagnostics).filter (fun d => d.code != .expressionOmission) =
      m.diagnostics.filter fun d => d.code != .expressionOmission := by
    rw [reports, List.filter_filter]
    refine List.filter_congr fun d _ => ?_
    cases hcode : d.code != .expressionOmission <;> simp [shows, hcode]
  simp only [mapping, hproperty, hreports, List.map_id]
  rfl

namespace Batch

variable {v : View} {c c' : Config}

theorem twin_discover (s : Schema) (hc : c.Follows v c') (hv : v.policies = true) :
    Arena.Twin v (discover s c).arena (discover s c').arena := by
  have hsize : ∀ c, (discover s c).arena.size = (s.checked c).size := fun c =>
    Arena.size_of_keys (discover_closure s c).pairs
  have hchecked := s.twin_checked hc hv
  have hpart := hchecked.part.rejectDelegates
  rw [← discover_arena, ← discover_arena, ← hsize] at hpart
  exact ⟨by rw [hsize, hsize, hchecked.size], hpart⟩

/-- **A batch depends on the settings only as far as they say what an absent value means.** -/
theorem discover_alike (s : Schema) {c c' : Config}
    (hproperty : c'.throwOnNullProperty = c.throwOnNullProperty)
    (helement : c'.throwOnNullElement = c.throwOnNullElement) :
    Alike (discover s c) (discover s c') := by
  have hc : c.Follows .plain c' := by
    refine ⟨fun h => ?_, fun h => ?_, fun _ => ⟨hproperty, helement⟩, nofun⟩
    · rw [hproperty, h]
    · rw [helement, h]
  have hbatch := twin_discover s hc rfl
  constructor
  case mappings =>
    have hall := hbatch.map_entries_eq (f := fun _ m => m.withoutVariants)
      (g := fun _ m => m.withoutVariants) fun i m n _ _ hview => by
        rw [Mapping.rename_id] at hview
        rw [View.withoutVariants_eq, View.withoutVariants_eq, hview]
    rw [← Arena.map_snd_entries, ← Arena.map_snd_entries, List.map_map, List.map_map]
    exact hall
  case validIds =>
    have hall := hbatch.map_entries_eq (f := fun i m => (i, m.isValid))
      (g := fun i m => (i, m.isValid)) fun i m n _ _ hview => by
        rw [Arena.Part.isValid_eq hview]
    have hvalid := congrArg (fun l => (l.filter Prod.snd).map Prod.fst) hall
    simp only [List.filter_map, List.map_map] at hvalid
    exact hvalid
  case diagnostics => rw [discover_eq, discover_eq]
  case report =>
    rw [discover_eq, discover_eq]
    exact (s.twin_built hc rfl).resolve_report
  case rejected =>
    rw [discover_rejected, discover_rejected]
    exact (s.twin_checked hc rfl).rejectDelegates

/-- An album with photos that may be missing, each with a caption in a language, and a frame with a
pair of which one half may be missing; each with its view, where nothing is missing. -/
def albumSchema : Schema :=
  Schema.ofLists
    [type "app::Album" [photos "app::Photo" true] (some "view::Album") [],
      type "app::Frame" [pair true] (some "view::Frame") [],
      type "app::Photo" [⟨"caption", text false, false, ⟨true, true⟩, [⟨.useMethod "label", none⟩]⟩]
        (some "view::Photo")
        [⟨"label", [⟨"caption", text false, false⟩, ⟨"lang", text false, false⟩], text false,
          false⟩],
      type "view::Album" [photos "view::Photo" false] none [],
      type "view::Frame" [pair false] none [],
      type "view::Photo" [⟨"caption", text false, false, ⟨true, true⟩, []⟩] none []]
    []
where
  /-- A text that may be missing or not. -/
  text (optional : Bool) : TypeRef := .scalar "String" false optional
  /-- Photos that may be missing or not. -/
  photos (path : String) (optional : Bool) : Property :=
    ⟨"photos", .collection .list (.object path optional) false, false, ⟨true, true⟩, []⟩
  /-- A pair of which the second half may be missing or not. -/
  pair (optional : Bool) : Property :=
    ⟨"pair", .tuple [text false, text optional] false, false, ⟨true, true⟩, []⟩
  /-- A type that may be mapped to another. -/
  type (path : String) (properties : List Property) (view : Option String)
      (methods : List Method) : TypeDecl :=
    ⟨path, none, false, true, properties, view.toList.map fun d => ⟨.mapTo d, none⟩, methods⟩

/-- Settings that ask for single expressions and unroll more deeply. -/
def expressionConfig : Config :=
  { Config.standard with expressionVariant := true, maxRecursionDepth := 5 }

/-- What the expressions leave out is reported, and the depth is another one; nothing else is. -/
theorem alike_album : Alike (discover albumSchema Config.standard)
      (discover albumSchema expressionConfig) ∧
    (discover albumSchema Config.standard).allDiagnostics = [] ∧
    (discover albumSchema expressionConfig).allDiagnostics.map Diagnostic.code =
      [.expressionOmission] ∧
    (discover albumSchema Config.standard).arena.mappings.map Mapping.maxRecursionDepth =
      [3, 3, 3] ∧
    (discover albumSchema expressionConfig).arena.mappings.map Mapping.maxRecursionDepth =
      [5, 5, 5] :=
  ⟨discover_alike albumSchema rfl rfl, by decide +kernel, by decide +kernel, by decide +kernel,
    by decide +kernel⟩

end Batch

/-! ## 4. Stricter settings -/

/-- Settings that differ from others at most in raising more errors for absent values. -/
structure Config.Stricter (c c' : Config) : Prop where
  property : c.throwOnNullProperty = true → c'.throwOnNullProperty = true
  element : c.throwOnNullElement = true → c'.throwOnNullElement = true
  rest : c' = { c with
    throwOnNullProperty := c'.throwOnNullProperty
    throwOnNullElement := c'.throwOnNullElement }

/-- To look at everything but the policies of slots. -/
def View.lenient : View := ⟨false, true⟩

/-- What stricter settings keep of an accepted mapping. -/
structure Mapping.Kept (m n : Mapping) : Prop where
  isValid : n.isValid = true
  key : n.key = m.key
  /-- Property by property, the calls with their targets included. -/
  strategies : n.properties.map PropertyMapping.strategies =
    m.properties.map PropertyMapping.strategies
  targets : n.targets = m.targets
  entryParameters : n.entryParameters = m.entryParameters
  /-- And everything else but what slots do about absent values. -/
  rest : View.lenient.mapping n = View.lenient.mapping m

theorem Config.Stricter.follows {c c' : Config} (h : c.Stricter c') : c.Follows .lenient c' := by
  refine ⟨h.property, h.element, nofun, fun _ => ?_⟩
  rw [h.rest]
  exact ⟨rfl, rfl⟩

theorem Mapping.kept_of_view {m n : Mapping} (h : View.lenient.mapping n = View.lenient.mapping m)
    (hv : m.isValid = true) : m.Kept n := by
  have hdelegates : n.delegates = m.delegates := by
    rw [← View.delegates_mapping .lenient, h, View.delegates_mapping]
  have hstrategies : ∀ k : Mapping, (View.lenient.mapping k).properties.map
      PropertyMapping.strategies = k.properties.map PropertyMapping.strategies := fun k => by
    show (k.properties.map View.lenient.property).map _ = _
    rw [List.map_map]
    exact List.map_congr_left fun p _ => View.strategies_property .lenient p
  constructor
  case isValid => rw [← View.isValid_mapping .lenient, h, View.isValid_mapping, hv]
  case key =>
    have heq := congrArg Mapping.key h
    exact heq
  case strategies => rw [← hstrategies, h, hstrategies]
  case targets => rw [Mapping.targets, hdelegates, Mapping.targets]
  case entryParameters =>
    have heq := congrArg Mapping.entryParameters h
    exact heq
  case rest => exact h

namespace Batch

variable {s : Schema} {c c' : Config} {i : MappingId} {m : Mapping}

/-- The mapping of an id is accepted. -/
def Accepts (b : Batch) (i : MappingId) : Prop :=
  ∃ m, b.arena.get? i = some m ∧ m.isValid = true

/-- **Two runs share what the first one accepts**: with a mapping it accepts those that the mapping
delegates to, and none of them has lost a property in construction. -/
theorem shares_accepts (s : Schema) {v : View} (hc : c.Follows v c') :
    Schema.Shares v id (discover s c).Accepts (fun _ => True) s s c c' := by
  have hkeys : (discover s c).arena.keys = s.declared.keys := keys_discover_declared s c
  have hpassed : ∀ i k, (discover s c).Accepts i → (s.built c).get? i = some k → k.isValid = true ∧
      ∃ m, (discover s c).arena.get? i = some m ∧ m.isValid = true ∧
        ∀ d ∈ k.delegates, ∃ e ∈ m.delegates, e.key = d.key := by
    rintro i k ⟨m, hm, hv⟩ hk
    obtain ⟨n, l, hpassed⟩ := passed_of_isValid hm hv
    obtain ⟨k', g, flag, hk', hkey, hn⟩ := Schema.get?_resolved_key hpassed.resolved
    obtain rfl := Option.some.inj (hk.symm.trans hk')
    refine ⟨?_, m, hm, hv, fun d hd => ⟨g d, ?_, hkey d⟩⟩
    · have hvalid := hpassed.isValid
      rwa [hn] at hvalid
    · have hdelegates : n.delegates = k.delegates.map g := by
        rw [hn]
        exact Mapping.delegates_mapDelegates g k
      rw [hpassed.delegates_eq, hdelegates]
      exact List.mem_map_of_mem hd
  refine Schema.shares_self hc (fun i ⟨m, hm, _⟩ => ?_) (fun i k hi hk d hd j hj => ?_)
    (.inr fun i k hi hk => (hpassed i k hi hk).1)
  · refine Arena.get?_of_lt_size ?_
    rw [← Arena.size_of_keys hkeys]
    exact Arena.lt_size_of_get? hm
  · obtain ⟨-, m, hm, hv, hcalls⟩ := hpassed i k hi hk
    obtain ⟨e, he, hkey⟩ := hcalls d hd
    obtain ⟨t, n, -, hn, hnkey, hnv⟩ := delegates_of_isValid hm hv he
    have hfound : s.declared.find? d.key = some t := by
      rw [← Arena.find?_congr hkeys]
      exact Arena.find?_eq_some_iff.mpr ⟨n, hn, hnkey.trans hkey⟩
    rw [hfound] at hj
    exact Option.some.inj hj ▸ ⟨n, hn, hnv⟩

/-- **Stricter settings keep what is accepted**: to raise an error instead of leaving an element out
or refusing a property rejects no mapping, and changes none but in that. -/
theorem kept_of_stricter (hc : c.Stricter c') (hm : (discover s c).arena.get? i = some m)
    (hv : m.isValid = true) : ∃ n, (discover s c').arena.get? i = some n ∧ m.Kept n := by
  have hpart := (shares_accepts s hc.follows).part.discover hc.follows
  obtain ⟨n, hn, hview⟩ := hpart.exists_of_get? ⟨m, hm, hv⟩ hm
  rw [Mapping.rename_id] at hview
  exact ⟨n, hn, Mapping.kept_of_view hview hv⟩

/-- Settings under which what is missing in a container is left out. -/
def droppingConfig : Config := { Config.standard with throwOnNullElement := false }

/-- What the slots of a mapping do about absent values. -/
def slotPolicies (m : Mapping) : List (Option NullPolicy) :=
  m.properties.flatMap fun p => p.shape.elements.map ElementMapping.onNull

/-- An album is accepted whether missing photos are left out or raise an error, and asks for the
language of its captions; a frame is accepted only in the second case, since a pair has no half to
leave out. -/
theorem kept_album : droppingConfig.Stricter Config.standard ∧
    (discover albumSchema droppingConfig).validIds = [0, 2] ∧
    (discover albumSchema Config.standard).validIds = [0, 1, 2] ∧
    ∃ m n, (discover albumSchema droppingConfig).arena.get? 0 = some m ∧ m.isValid = true ∧
      m.targets = [2] ∧ m.entryParameters.map EntryParameter.name = ["lang"] ∧
      slotPolicies m = [some .drop] ∧
      (discover albumSchema Config.standard).arena.get? 0 = some n ∧
      slotPolicies n = [some .guard] ∧ m.Kept n := by
  have hstricter : droppingConfig.Stricter Config.standard := ⟨by decide, by decide, rfl⟩
  have hreport : ((discover albumSchema droppingConfig).arena.get? 0).map (fun m => (m.isValid,
      m.targets, m.entryParameters.map EntryParameter.name, slotPolicies m)) =
        some (true, [2], ["lang"], [some .drop]) := by
    decide +kernel
  have hstrict : ((discover albumSchema Config.standard).arena.get? 0).map slotPolicies =
      some [some .guard] := by
    decide +kernel
  obtain ⟨m, hm, hfields⟩ := Option.map_eq_some_iff.mp hreport
  rw [Prod.mk.injEq, Prod.mk.injEq, Prod.mk.injEq] at hfields
  obtain ⟨hv, htargets, hparameters, hdrop⟩ := hfields
  obtain ⟨n, hn, hkept⟩ := kept_of_stricter hstricter hm hv
  rw [hn, Option.map_some, Option.some.injEq] at hstrict
  exact ⟨hstricter, by decide +kernel, by decide +kernel, m, n, hm, hv, htargets, hparameters,
    hdrop, hn, hstrict, hkept⟩

end Batch

end TypeMapper
