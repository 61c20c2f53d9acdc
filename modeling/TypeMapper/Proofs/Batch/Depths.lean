import TypeMapper.Proofs.Batch.Functions
import TypeMapper.Proofs.Batch.Phases
import TypeMapper.Proofs.Construction.Outputs
import TypeMapper.Proofs.Routine.Nesting
import TypeMapper.Proofs.Schema.WellFormed
/-!
# Where the depths of unrolling come from

The settings have a depth of unrolling, which is checked against a limit. A directive on a type puts
another one in its place for the mappings of the type, and one on a source property for that
property alone; nothing checks these. So the depths of a run are within the limit exactly if those
are that directives ask for.

* `lastDepth?`: the depth that directives ask for; `Property.effective_depth`,
  `TypeDecl.effective_depth`: the settings say the same.
* `Sides.depth_of_mem_pairs`: a pair has the depth of the source property that claims it.
* `Mapping.HasDepths`: the depths of a mapping; `Batch.hasDepths_discover`.
* `Batch.WithinLimit`, `Schema.AsksWithin`, `Batch.withinLimit_iff`: depths within the limit.
-/

namespace TypeMapper

/-! ## 1. Directives -/

/-- The depth that a directive asks for. -/
def Directive.depth? : Directive → Option UInt32
  | .maxRecursionDepth d => some d
  | _ => none

/-- The depth that entries ask for in the mapping of an index: that of the last entry that counts,
where those for the index come behind the others. -/
def lastDepth? (entries : List DirectiveEntry) (index : Option UInt32) : Option UInt32 :=
  ((applicable entries index).filterMap fun e => e.directive.depth?).getLast?

/-- **Of many depths the last one stays**, whatever else is read. -/
theorem foldl_depth {σ : Type} (depth : σ → Option UInt32) (read : σ → DirectiveEntry → σ)
    (h : ∀ r e, depth (read r e) = e.directive.depth?.or (depth r)) (entries : List DirectiveEntry)
    (r : σ) : depth (entries.foldl read r) =
      (entries.filterMap fun e => e.directive.depth?).getLast?.or (depth r) := by
  induction entries generalizing r with
  | nil => rfl
  | cons e rest ih =>
      rw [List.foldl_cons, ih, h, List.filterMap_cons]
      cases e.directive.depth? with
      | none => rfl
      | some d =>
          rw [List.getLast?_cons, ← Option.or_assoc]
          cases (rest.filterMap fun e => e.directive.depth?).getLast? <;> rfl

theorem readEntry_depth (place : Location) (r : PropertyReading) (e : DirectiveEntry) :
    (readEntry place r e).settings.maxRecursionDepth =
      e.directive.depth?.or r.settings.maxRecursionDepth := by
  obtain ⟨d, index⟩ := e
  cases d
  case renameTo | useMapper | useMethod | useResolver =>
    unfold readEntry
    dsimp only [Directive.conversion?]
    split <;> rfl
  all_goals rfl

theorem TypeDirectives.depth_withPath (d : TypeDirectives) (p : PathDirective) :
    (d.withPath p).maxRecursionDepth = d.maxRecursionDepth := by
  unfold withPath
  split <;> rfl

theorem readTypeEntry_depth (place : Location) (r : TypeDirectives × List Diagnostic)
    (e : DirectiveEntry) : (readTypeEntry place r e).1.maxRecursionDepth =
      e.directive.depth?.or r.1.maxRecursionDepth := by
  obtain ⟨d, index⟩ := e
  cases d
  case mapPath path target => exact TypeDirectives.depth_withPath r.1 ⟨path, target⟩
  all_goals rfl

/-- The depth that the directives of a property ask for. -/
def Property.depth? (p : Property) (index : Option UInt32) : Option UInt32 :=
  lastDepth? p.directives index

/-- The depth that the directives of a type ask for. -/
def TypeDecl.depth? (t : TypeDecl) (index : Option UInt32) : Option UInt32 :=
  lastDepth? t.directives index

/-- **The depth of a property** is the last one that its directives ask for, ignored or not. -/
theorem Property.effective_depth (p : Property) (owner : String) (index : Option UInt32) :
    (p.effective owner index).1.maxRecursionDepth = p.depth? index := by
  let place := Location.ofProperty owner p.name
  have hfold := foldl_depth (fun r => r.settings.maxRecursionDepth) (readEntry place)
    (readEntry_depth place) (applicable p.directives index)
    ⟨PropertyDirectives.none, none, none, []⟩
  rw [show PropertyDirectives.none.maxRecursionDepth = none from rfl, Option.or_none] at hfold
  unfold effective
  dsimp only
  split <;> exact hfold

/-- **The depth of a type** is the last one that its directives ask for. -/
theorem TypeDecl.effective_depth (t : TypeDecl) (index : Option UInt32) :
    (t.effective index).1.maxRecursionDepth = t.depth? index := by
  let place := Location.ofType t.path
  have hfold := foldl_depth (fun r => r.1.maxRecursionDepth) (readTypeEntry place)
    (readTypeEntry_depth place) (applicable t.directives index) (TypeDirectives.none, [])
  rwa [show TypeDirectives.none.maxRecursionDepth = none from rfl, Option.or_none] at hfold

/-- The depth that the type at a path asks for. -/
def Schema.depth? (s : Schema) (path : String) (index : Option UInt32) : Option UInt32 :=
  (s.type? path).bind fun t => t.depth? index

theorem Schema.typeDirectives_depth (s : Schema) (path : String) (index : Option UInt32) :
    (s.typeDirectives path index).1.maxRecursionDepth = s.depth? path index := by
  unfold typeDirectives depth?
  cases s.type? path with
  | none => rfl
  | some t => exact t.effective_depth index

theorem TypeDirectives.depth_merge (d e : TypeDirectives) :
    (d.merge e).maxRecursionDepth = d.maxRecursionDepth.or e.maxRecursionDepth := rfl

/-- **The depth of a mapping that types ask for**: the source type comes before the destination
type. -/
theorem Sides.ofSchema_depth (s : Schema) (key : MappingKey) (index : Option UInt32) :
    (ofSchema s key index).typeDirectives.maxRecursionDepth =
      (s.depth? key.source index).or (s.depth? key.destination index) := by
  show ((TypeDirectives.none.merge _).merge _).maxRecursionDepth = _
  rw [TypeDirectives.depth_merge, TypeDirectives.depth_merge, Schema.typeDirectives_depth,
    Schema.typeDirectives_depth]
  rfl

/-! ## 2. Pairs -/

/-- **A pair has the depth of the source property that claims its destination**, and none if a path
does. -/
theorem Sides.depth_of_mem_pairs {schema : Schema} {s : Sides} {m : PropertyMatch}
    (h : m ∈ s.pairs schema) {depth : UInt32} :
    m.directives.maxRecursionDepth = some depth ↔
      ∃ q ∈ s.sources, q.2.ignore = false ∧ q.2.targetName q.1 = m.destination.name ∧
        q.2.maxRecursionDepth = some depth := by
  obtain ⟨d, hd, c, hc, rfl⟩ := exists_of_mem_pairs h
  show c.directives.maxRecursionDepth = some depth ↔ ∃ q ∈ s.sources, q.2.ignore = false ∧
    q.2.targetName q.1 = d.1.name ∧ q.2.maxRecursionDepth = some depth
  constructor
  · intro hdepth
    have hmem : c ∈ s.claimers schema d.1.name := hc ▸ List.mem_cons_self
    obtain ⟨hclaim, htarget⟩ := List.mem_filter.mp hmem
    rw [beq_iff_eq] at htarget
    rcases List.mem_append.mp hclaim with hpath | hsource
    · obtain ⟨p, -, hp⟩ := List.mem_filterMap.mp hpath
      obtain ⟨hops, -, rfl⟩ := pathClaim?_eq_some_iff.mp hp
      cases hdepth
    · obtain ⟨q, hq, hp⟩ := List.mem_filterMap.mp hsource
      obtain ⟨target, hfate, rfl⟩ := sourceClaim?_eq_some_iff.mp hp
      obtain ⟨hignore, htarget', -⟩ := fate_eq_claims_iff.mp hfate
      exact ⟨q, hq, hignore, htarget'.trans htarget, hdepth⟩
  · rintro ⟨q, hq, hignore, htarget, hdepth⟩
    obtain ⟨hopen, hname⟩ := isIgnored_and_hasTarget_of_open hd
    have hclaim : s.sourceClaim? schema q = some ⟨d.1.name, [q.1], q.2⟩ :=
      sourceClaim?_eq_some_iff.mpr
        ⟨_, fate_eq_claims_iff.mpr ⟨hignore, htarget, hopen, hname⟩, rfl⟩
    have hmem : ⟨d.1.name, [q.1], q.2⟩ ∈ s.claimers schema d.1.name :=
      List.mem_filter.mpr ⟨List.mem_append_right _ (List.mem_filterMap.mpr ⟨q, hq, hclaim⟩),
        beq_self_eq_true _⟩
    rw [hc, List.mem_singleton] at hmem
    rw [← hmem]
    exact hdepth

/-! ## 3. Mappings -/

/-- **The depths of a mapping**: its own is what its source type asks for, or else its destination
type, or else the settings; and a property has the one that the source property asks for which
claims its destination. -/
structure Mapping.HasDepths (s : Schema) (c : Config) (m : Mapping) : Prop where
  bound : m.maxRecursionDepth =
    ((s.depth? m.source m.index).or (s.depth? m.destination m.index)).getD c.maxRecursionDepth
  overrides : ∀ p ∈ m.properties, ∀ d, p.maxRecursionDepth = some d ↔
    ∃ q ∈ s.readable m.source, q.claims m.source m.index p.destination.name = true ∧
      q.depth? m.index = some d

namespace Mapping.HasDepths

variable {s : Schema} {c : Config} {id : MappingId} {m : Mapping}

/-- What is built of a declaration. -/
theorem buildFrom (s : Schema) (c : Config) (id : MappingId) (d : Candidate)
    (source destination : TypeDecl) :
    ((Mapping.declare d.key d.index d.declaredOn).buildFrom (s.context c) id source
      destination).HasDepths s c := by
  refine ⟨congrArg (Option.getD · c.maxRecursionDepth) (Sides.ofSchema_depth s d.key d.index), ?_⟩
  intro p hp depth
  obtain ⟨h, m, hm, hprop⟩ := Builder.exists_property_of_mem_properties hp
  obtain ⟨hdestination, -, hdepth⟩ := Builder.property_fields _ _ _ _ hprop
  rw [hdepth, hdestination, Sides.depth_of_mem_pairs hm]
  show (∃ q ∈ (s.readable d.key.source).map (withDirectives d.key.source d.index), _) ↔ _
  simp only [List.mem_map, exists_exists_and_eq_and, withDirectives, Property.effective_ignore,
    Property.effective_depth, Property.claims, Bool.and_eq_true, Bool.not_eq_true', beq_iff_eq,
    and_assoc]
  rfl

/-- Resolution changes no depth. -/
theorem mapDelegates (h : m.HasDepths s c) (g : DelegateCall → DelegateCall) (flag : Bool) :
    ((m.mapDelegates g).withAsync flag).HasDepths s c := by
  refine ⟨h.bound, fun p hp => ?_⟩
  obtain ⟨q, hq, rfl⟩ := List.mem_map.mp hp
  exact h.overrides q hq

/-- Neither do parameters and reports. -/
theorem withParameters (h : m.HasDepths s c) (l : ParameterList) :
    (m.withParameters l).HasDepths s c := ⟨h.bound, h.overrides⟩

theorem report (h : m.HasDepths s c) (ds : List Diagnostic) : (m.report ds).HasDepths s c :=
  ⟨h.bound, h.overrides⟩

end Mapping.HasDepths

theorem Schema.hasDepths_checked {s : Schema} {c : Config} {id : MappingId} {m : Mapping}
    (h : (s.checked c).get? id = some m) : m.HasDepths s c := by
  obtain ⟨n, hn, ds, rfl, -⟩ := get?_checked h
  obtain ⟨b, g, flag, hb, rfl⟩ := get?_resolved hn
  obtain ⟨d, -, source, destination, rfl⟩ := get?_built hb
  have hbuilt := Mapping.HasDepths.buildFrom s c id d source destination
  exact ((hbuilt.mapDelegates g flag).withParameters _).report ds

namespace Batch

variable {s : Schema} {c : Config} {id : MappingId} {m : Mapping}

/-- **Every mapping of a batch has its depths**, accepted or not. -/
theorem hasDepths_discover (h : (discover s c).arena.get? id = some m) : m.HasDepths s c := by
  obtain ⟨n, hn, rfl | ⟨-, k, rfl⟩⟩ := exists_checked h
  · exact Schema.hasDepths_checked hn
  · exact (Schema.hasDepths_checked hn).report _

end Batch

/-! ## 4. The limit -/

/-- A depth that is given, if one is, is within the limit. -/
def Config.Permits (depth : Option UInt32) : Prop :=
  ∀ d ∈ depth, d ≤ Config.depthLimit

-- Stated for the option at hand: instances for finite types would go through all depths there are.
instance : DecidablePred Config.Permits
  | none => isTrue nofun
  | some d => decidable_of_iff (d ≤ Config.depthLimit)
      ⟨fun hle _ hd => Option.some.inj hd ▸ hle, fun h => h d rfl⟩

/-- **The depths that a run works with are within the limit**: those of its mappings, those of their
properties, and those at which projections write literals out. -/
structure Batch.WithinLimit (b : Batch) (c : Config) : Prop where
  bounds : ∀ p ∈ b.arena.entries, p.2.maxRecursionDepth ≤ Config.depthLimit
  overrides : ∀ p ∈ b.arena.entries, ∀ q ∈ p.2.properties, Config.Permits q.maxRecursionDepth
  inlinings : ∀ xs, b.artifacts c = .ok xs → ∀ x ∈ xs, ∀ k, x.body = .module k →
    ∀ r ∈ k.projection, r.body.Inlines fun _ depth => depth ≤ Config.depthLimit.toNat

/-- The directives that count for the mappings of an arena ask for depths within the limit: those on
the types, and those on source properties that claim what a property fills. -/
def Schema.AsksWithin (s : Schema) (a : Arena) : Prop :=
  ∀ p ∈ a.entries,
    Config.Permits ((s.depth? p.2.source p.2.index).or (s.depth? p.2.destination p.2.index)) ∧
    ∀ q ∈ p.2.properties, ∀ r ∈ s.readable p.2.source,
      r.claims p.2.source p.2.index q.destination.name = true →
        Config.Permits (r.depth? p.2.index)

instance (s : Schema) (a : Arena) : Decidable (s.AsksWithin a) :=
  inferInstanceAs (Decidable (∀ p ∈ a.entries,
    Config.Permits ((s.depth? p.2.source p.2.index).or (s.depth? p.2.destination p.2.index)) ∧
    ∀ q ∈ p.2.properties, ∀ r ∈ s.readable p.2.source,
      r.claims p.2.source p.2.index q.destination.name = true →
        Config.Permits (r.depth? p.2.index)))

namespace Batch

variable {s : Schema} {c : Config}

/-- **Projections write literals out only at depths that their mappings allow.** -/
theorem allows_of_inlined {b : Batch} {xs : List Artifact} (h : b.artifacts c = .ok xs)
    {x : Artifact} (hx : x ∈ xs) {k : MappingModule} (hk : x.body = .module k) :
    ∀ r ∈ k.projection, r.body.Inlines b.arena.Allows := by
  obtain ⟨p, -, hmodule⟩ := exists_of_module h hx hk
  exact Emitter.module_inlines k hmodule

/-- **The depths of a run are within the limit exactly if those are that directives ask for.** The
settings are checked, the directives are not. -/
theorem withinLimit_iff (hc : c.validate = .ok ()) :
    (discover s c).WithinLimit c ↔ s.AsksWithin (discover s c).arena := by
  have hdepths : ∀ p ∈ (discover s c).arena.entries, p.2.HasDepths s c := fun p hp =>
    hasDepths_discover (Arena.mem_entries_iff.mp hp)
  constructor
  · intro h p hp
    refine ⟨fun d hd => ?_, fun q hq r hr hclaims d hd => ?_⟩
    · have hbound := (hdepths p hp).bound
      rw [show _ = some d from hd, Option.getD_some] at hbound
      exact hbound ▸ h.bounds p hp
    · have hown := ((hdepths p hp).overrides q hq d).mpr ⟨r, hr, hclaims, hd⟩
      exact h.overrides p hp q hq d hown
  · intro h
    have hbounds : ∀ p ∈ (discover s c).arena.entries,
        p.2.maxRecursionDepth ≤ Config.depthLimit := by
      intro p hp
      have hasked := (h p hp).1
      rw [(hdepths p hp).bound]
      cases hd : (s.depth? p.2.source p.2.index).or (s.depth? p.2.destination p.2.index) with
      | none => exact (Config.depth_of_validate hc).2
      | some d => exact hasked d hd
    refine ⟨hbounds, fun p hp q hq d hd => ?_, fun xs hxs x hx k hk r hr i hi => ?_⟩
    · obtain ⟨r, hr, hclaims, hdepth⟩ := ((hdepths p hp).overrides q hq d).mp hd
      exact (h p hp).2 q hq r hr hclaims d hdepth
    · obtain ⟨m, hm, hle⟩ := allows_of_inlined hxs hx hk r hr i hi
      have hlimit := hbounds (i.1, m) (Arena.mem_entries_iff.mpr hm)
      exact Nat.le_trans hle (UInt32.le_iff_toNat_le.mp hlimit)

/-- A list of nodes, with a depth for its type and one for the link to the next node. -/
def listSchema (depth link : UInt32) : Schema :=
  Schema.ofLists
    [⟨"model::Node", none, false, true, [next "model::Node" [⟨.maxRecursionDepth link, none⟩]],
        [⟨.mapTo "view::Node", none⟩, ⟨.maxRecursionDepth depth, none⟩], []⟩,
      ⟨"view::Node", none, false, true, [next "view::Node" []], [], []⟩] []
where
  /-- The link to the next node. -/
  next (path : String) (directives : List DirectiveEntry) : Property :=
    ⟨"next", .object path true, false, ⟨true, true⟩, directives⟩

/-- Settings that ask for projections. -/
def projecting : Config := { Config.standard with expressionVariant := true }

/-- The depths of the literals that are written out in the projections of artifacts. -/
def nesting (xs : List Artifact) : List (MappingId × Nat) :=
  xs.flatMap fun x => match x.body with
    | .module k => (k.projection.map fun r => r.body.inlinings).getD []
    | _ => []

/-- The link of a node is unrolled twice, though its type would allow more. -/
theorem withinLimit_of_list : projecting.validate = .ok () ∧
    (discover (listSchema 4 2) projecting).WithinLimit projecting ∧
    ((discover (listSchema 4 2) projecting).artifacts projecting).toOption.map nesting =
      some [(0, 1), (0, 2)] :=
  ⟨rfl, (withinLimit_iff rfl).mpr (by decide +kernel), by decide +kernel⟩

/-- No check refuses depths past the limit: not of a type, by which a projection goes as deep, and
not of a property. -/
theorem beyond_limit_of_list : projecting.validate = .ok () ∧
    (listSchema 17 40).validate = .ok () ∧
    (discover (listSchema 17 40) projecting).arena.mappings.map (fun m =>
      (m.maxRecursionDepth, m.properties.map PropertyMapping.maxRecursionDepth, m.isValid)) =
      [(17, [some 40], true)] ∧
    ((discover (listSchema 17 40) projecting).artifacts projecting).toOption.map
      (fun xs => (nesting xs).getLast?) = some (some (0, 17)) ∧
    ¬ (discover (listSchema 17 40) projecting).WithinLimit projecting := by
  refine ⟨rfl, ErrorTree.result_eq_ok_iff.mpr (by decide +kernel), by decide +kernel,
    by decide +kernel, fun h => ?_⟩
  have hall : ((discover (listSchema 17 40) projecting).arena.entries.all fun p =>
      decide (p.2.maxRecursionDepth ≤ Config.depthLimit)) = true :=
    List.all_eq_true.mpr fun p hp => decide_eq_true (h.bounds p hp)
  have hnot : ((discover (listSchema 17 40) projecting).arena.entries.all fun p =>
      decide (p.2.maxRecursionDepth ≤ Config.depthLimit)) = false := by
    decide +kernel
  rw [hnot] at hall
  cases hall

end Batch

end TypeMapper
