import TypeMapper.Proofs.Batch.Acyclic
import TypeMapper.Proofs.Batch.Linkage
import TypeMapper.Proofs.Construction.Agreement
import TypeMapper.Proofs.Resolution.Spread
import TypeMapper.Proofs.Routine.Modules
import TypeMapper.Proofs.Routine.Shown
/-!
# Which routines are asynchronous

Construction makes a mapping asynchronous if it calls an asynchronous helper, and resolution spreads
this to callers. So a mapping of a batch is asynchronous exactly if its calls reach one with an
asynchronous helper. The routines judge their calls by the same flags: what they await stands in an
asynchronous function, and an asynchronous routine has something to await.

* `Schema.isAsync_bound_iff`: the flags that resolution starts from.
* `Arena.AsyncByNeed`: an arena in which a mapping is asynchronous exactly if it has to be.
* `Batch.asyncByNeed_discover`: the arena of a batch.
* `Batch.routines_async`: the flags, the routines and the rounds of a batch together.
-/

namespace TypeMapper

variable {s : Schema} {c : Config} {id : MappingId} {m : Mapping}

/-! ## 1. Flags -/

/-- The mapping calls an asynchronous method or resolver. -/
def Mapping.HasAsyncHelper (m : Mapping) : Prop := ∃ t ∈ m.strategies, t.isAsync = true

theorem Mapping.hasAsyncHelper_mapDelegates (g : DelegateCall → DelegateCall) (m : Mapping) :
    (m.mapDelegates g).HasAsyncHelper ↔ m.HasAsyncHelper := by
  simp [HasAsyncHelper, strategies_mapDelegates, Strategy.isAsync_mapDelegate]

theorem Mapping.hasAsyncHelper_of_properties {n : Mapping} (h : m.properties = n.properties) :
    m.HasAsyncHelper ↔ n.HasAsyncHelper := by
  rw [HasAsyncHelper, HasAsyncHelper, strategies, strategies, h]

theorem Mapping.hasAsyncHelper_withAsync (m : Mapping) (flag : Bool) :
    (m.withAsync flag).HasAsyncHelper ↔ m.HasAsyncHelper := Iff.rfl

namespace Schema

/-- The mappings with their delegates bound, before asynchrony spreads. -/
def bound (s : Schema) (c : Config) : Arena :=
  (Arena.bindAll ((s.built c).pending + 1) (s.built c)).1

theorem resolved_eq_spread (s : Schema) (c : Config) : s.resolved c = (s.bound c).spreadAsync := by
  rw [resolved, Arena.resolve, bound]

/-- A mapping is built asynchronous exactly if it calls an asynchronous helper. -/
theorem isAsync_built_iff (h : (s.built c).get? id = some m) :
    m.isAsync = true ↔ m.HasAsyncHelper := by
  obtain ⟨d, -, source, destination, rfl⟩ := get?_built h
  simp only [Mapping.HasAsyncHelper, Mapping.strategies, Mapping.buildFrom, List.any_eq_true,
    List.mem_flatMap]
  constructor
  · rintro ⟨p, hp, t, ht, hasync⟩
    exact ⟨t, ⟨p, hp, ht⟩, hasync⟩
  · rintro ⟨t, ⟨p, hp, ht⟩, hasync⟩
    exact ⟨p, hp, t, ht, hasync⟩

/-- Binding changes neither flags nor helpers. -/
theorem get?_bound (s : Schema) (c : Config) (id : MappingId) : ∃ g,
    (s.bound c).get? id = ((s.built c).get? id).map (Mapping.mapDelegates g) := by
  obtain ⟨g, hg, -⟩ := Arena.resolve_eq (s.selfBound_built c)
  refine ⟨g id, ?_⟩
  rw [bound, hg.eq, Arena.get?_mapCalls]

/-- **The flags that resolution starts from**: those of mappings that call asynchronous helpers. -/
theorem isAsync_bound_iff : (s.bound c).isAsync id = true ↔
    ∃ k, (s.bound c).get? id = some k ∧ k.HasAsyncHelper := by
  rw [Arena.isAsync_iff]
  refine exists_congr fun k => and_congr_right fun hk => ?_
  obtain ⟨g, hg⟩ := get?_bound s c id
  rw [hg, Option.map_eq_some_iff] at hk
  obtain ⟨n, hn, rfl⟩ := hk
  rw [Mapping.hasAsyncHelper_mapDelegates, ← isAsync_built_iff hn]
  rfl

/-- Spreading changes the flags only. -/
theorem get?_resolved_bound (s : Schema) (c : Config) (id : MappingId) :
    (s.resolved c).get? id =
      ((s.bound c).get? id).map fun m => m.withAsync ((s.resolved c).isAsync id) := by
  rw [resolved_eq_spread, ← Arena.get?_withAsync, ← Arena.spreadAsync_eq]

theorem delegates_resolved (s : Schema) (c : Config) :
    (s.resolved c).Delegates = (s.bound c).Delegates := by
  rw [resolved_eq_spread, Arena.delegates_spreadAsync]

end Schema

/-! ## 2. Asynchrony by need -/

/-- **A mapping is asynchronous exactly if it has to be**: its calls reach a mapping that calls an
asynchronous helper, perhaps itself. -/
def Arena.AsyncByNeed (a : Arena) : Prop :=
  ∀ id, a.isAsync id = true ↔ ∃ t k, a.Reaches id t ∧ a.get? t = some k ∧ k.HasAsyncHelper

theorem Schema.asyncByNeed_resolved (s : Schema) (c : Config) : (s.resolved c).AsyncByNeed := by
  intro id
  have hspread : (s.resolved c).isAsync id = true ↔
      ∃ t, (s.bound c).Reaches id t ∧ (s.bound c).isAsync t = true := by
    rw [resolved_eq_spread]
    exact Arena.isAsync_spreadAsync_iff
  rw [hspread, Arena.Reaches, Arena.Reaches, delegates_resolved]
  refine exists_congr fun t => ?_
  rw [Schema.isAsync_bound_iff, get?_resolved_bound, ← exists_and_left]
  constructor
  · rintro ⟨k, hreach, hk, hasync⟩
    rw [hk]
    exact ⟨_, hreach, rfl, (Mapping.hasAsyncHelper_withAsync _ _).mpr hasync⟩
  · rintro ⟨k, hreach, hk, hasync⟩
    obtain ⟨n, hn, rfl⟩ := Option.map_eq_some_iff.mp hk
    exact ⟨n, hreach, hn, (Mapping.hasAsyncHelper_withAsync _ _).mp hasync⟩

namespace Batch

/-- The phases behind resolution change neither properties nor flags. -/
theorem exists_resolved (h : (discover s c).arena.get? id = some m) :
    ∃ n, (s.resolved c).get? id = some n ∧ m.properties = n.properties ∧ m.isAsync = n.isAsync := by
  obtain ⟨n, ds, hn, -, hm⟩ := exists_parameterized h
  refine ⟨n, hn, ?_⟩
  -- what the parameters are does not matter
  generalize (s.resolved c).entryParameters id = l at hm
  subst hm
  exact ⟨rfl, rfl⟩

theorem size_discover (s : Schema) (c : Config) : (discover s c).arena.size = (s.resolved c).size := by
  refine Arena.size_of_keys ((discover_closure s c).pairs.trans ?_)
  rw [Schema.checked, Arena.checkAll, Arena.parameterize, Arena.keys_transform,
    Arena.keys_transform]

/-- **A mapping of a batch is asynchronous exactly if it has to be.** -/
theorem asyncByNeed_discover (s : Schema) (c : Config) : (discover s c).arena.AsyncByNeed := by
  have hback {t : MappingId} {n : Mapping} (hn : (s.resolved c).get? t = some n) :
      ∃ k, (discover s c).arena.get? t = some k ∧ k.properties = n.properties ∧
        k.isAsync = n.isAsync := by
    obtain ⟨k, hk⟩ := Arena.get?_of_lt_size ((size_discover s c).symm ▸ Arena.lt_size_of_get? hn)
    obtain ⟨n', hn', hproperties, hflag⟩ := exists_resolved hk
    obtain rfl := Option.some.inj (hn.symm.trans hn')
    exact ⟨k, hk, hproperties, hflag⟩
  have hflag (id : MappingId) : (discover s c).arena.isAsync id = true ↔
      (s.resolved c).isAsync id = true := by
    rw [Arena.isAsync_iff, Arena.isAsync_iff]
    constructor
    · rintro ⟨k, hk, hasync⟩
      obtain ⟨n, hn, -, hsame⟩ := exists_resolved hk
      exact ⟨n, hn, hsame ▸ hasync⟩
    · rintro ⟨n, hn, hasync⟩
      obtain ⟨k, hk, -, hsame⟩ := hback hn
      exact ⟨k, hk, hsame.symm ▸ hasync⟩
  intro id
  rw [hflag, Schema.asyncByNeed_resolved s c id, Arena.Reaches, Arena.Reaches, delegates_discover]
  refine exists_congr fun t => ?_
  constructor
  · rintro ⟨n, hreach, hn, hasync⟩
    obtain ⟨k, hk, hsame, -⟩ := hback hn
    exact ⟨k, hreach, hk, (Mapping.hasAsyncHelper_of_properties hsame).mpr hasync⟩
  · rintro ⟨k, hreach, hk, hasync⟩
    obtain ⟨n, hn, hsame, -⟩ := exists_resolved hk
    exact ⟨n, hreach, hn, (Mapping.hasAsyncHelper_of_properties hsame).mp hasync⟩

end Batch

/-! ## 3. What routines judge -/

/-- A helper is judged by its own flag and a call by that of its target, so a mapping is
asynchronous exactly if one of its strategies is judged so. -/
theorem Arena.AsyncByNeed.isAsync_iff_judged {a : Arena} (ha : a.AsyncByNeed)
    (hm : a.get? id = some m) (c : Config) (names : RoutineNames) : m.isAsync = true ↔
      ∃ t ∈ m.strategies, (Emitter.ofArena a c names id m).isAwaited (some t) = true := by
  have hstep : m.isAsync = true ↔ m.HasAsyncHelper ∨ ∃ t, a.Delegates id t ∧ a.isAsync t = true := by
    rw [← Arena.isAsync_of_get? hm, ha id]
    constructor
    · rintro ⟨t, k, hreach, hk, hasync⟩
      rcases Relation.ReflTransGen.cases_head hreach with rfl | ⟨u, hfirst, hrest⟩
      · exact .inl (Option.some.inj (hm.symm.trans hk) ▸ hasync)
      · exact .inr ⟨u, hfirst, (ha u).mpr ⟨t, k, hrest, hk, hasync⟩⟩
    · rintro (hasync | ⟨u, hfirst, hu⟩)
      · exact ⟨id, m, .refl, hm, hasync⟩
      · obtain ⟨t, k, hrest, hk, hasync⟩ := (ha u).mp hu
        exact ⟨t, k, hrest.head hfirst, hk, hasync⟩
  rw [hstep]
  constructor
  · rintro (⟨t, ht, hasync⟩ | ⟨u, hfirst, hu⟩)
    · refine ⟨t, ht, ?_⟩
      cases t with
      | delegate d => cases hasync
      | method d => exact hasync
      | resolver d => exact hasync
    · obtain ⟨d, hd, hdu⟩ := mem_targets_iff.mp ((delegates_iff_of_get? hm).mp hfirst)
      obtain ⟨t, ht, htd⟩ := List.mem_filterMap.mp hd
      refine ⟨t, ht, ?_⟩
      cases t with
      | delegate d' =>
          obtain rfl := Option.some.inj htd
          rw [Emitter.isAwaited, hdu]
          exact hu
      | method d' => cases htd
      | resolver d' => cases htd
  · rintro ⟨t, ht, hjudged⟩
    cases t with
    | delegate d =>
        rw [Emitter.isAwaited] at hjudged
        cases htarget : d.target with
        | none =>
            rw [htarget] at hjudged
            cases hjudged
        | some u =>
            rw [htarget] at hjudged
            have hcall : d ∈ m.delegates := List.mem_filterMap.mpr ⟨_, ht, rfl⟩
            exact .inr ⟨u, (delegates_iff_of_get? hm).mpr (mem_targets_iff.mpr ⟨d, hcall, htarget⟩),
              hjudged⟩
    | method d => exact .inl ⟨_, ht, hjudged⟩
    | resolver d => exact .inl ⟨_, ht, hjudged⟩

namespace Emitter

/-- **The routines of a mapping** are asynchronous exactly if the mapping is, and await only as such.
-/
structure AwaitsByNeed (k : MappingModule) (m : Mapping) : Prop where
  single : k.primary.isAsync = m.isAsync
  sequence : ∀ r ∈ k.sequence, r.isAsync = m.isAsync
  /-- The awaits are those among the marks that the tokens of the routine show. -/
  written : k.primary.Shown ∧
    k.primary.literal.awaits k.primary.isAsync = Value.waitsAmong k.primary.needs
  /-- All that the routine awaits stands in asynchronous functions. -/
  inside : ∀ b ∈ k.primary.literal.awaits k.primary.isAsync, b = true
  /-- A routine is asynchronous only if it awaits something. -/
  needed : k.primary.isAsync = true → k.primary.literal.awaits k.primary.isAsync ≠ []
  /-- The projection, which is no asynchronous function, awaits nothing. -/
  projection : ∀ r ∈ k.projection, r.body.awaits false = []

variable {e : Emitter}

/-- The calls of a mapping are at its sites, and judged there. -/
theorem awaitsAny_sites (hm : ∀ p ∈ m.properties, p.shape ≠ .scalar → p.strategy = none) :
    e.awaitsAny m.sites = true ↔ ∃ t ∈ m.strategies, e.isAwaited (some t) = true := by
  rw [awaitsAny, List.any_eq_true, ← Mapping.map_strategy_sites hm]
  simp only [List.mem_map]
  constructor
  · rintro ⟨site, hsite, hjudged⟩
    exact ⟨_, ⟨site, hsite, rfl⟩, hjudged⟩
  · rintro ⟨_, ⟨site, hsite, rfl⟩, hjudged⟩
    exact ⟨site, hsite, hjudged⟩

/-- A module awaits by need where its mapping is asynchronous exactly if one of its strategies is
judged so. -/
theorem module_awaitsByNeed (hjudged : e.mapping.isAsync = true ↔
      ∃ t ∈ e.mapping.strategies, e.isAwaited (some t) = true)
    (hslotwise : ∀ p ∈ e.mapping.properties, p.shape ≠ .scalar → p.strategy = none) :
    Gives (AwaitsByNeed · e.mapping) e.module := by
  refine module_holds.imp fun k hk => ?_
  have hsingle : k.primary.isAsync = e.mapping.isAsync := (primary_parts _ hk.primary).isAsync
  have hflag : e.awaitsAny e.mapping.sites = e.mapping.isAsync := by
    rw [Bool.eq_iff_iff, awaitsAny_sites hslotwise, hjudged]
  have hawaits : k.primary.literal.AwaitsIf e.mapping.isAsync :=
    hflag ▸ primary_awaitsIf _ hk.primary
  have hwritten := primary_shown _ hk.primary
  refine ⟨hsingle, fun r hr => (sequence_parts _ (hk.sequence r hr)).isAsync,
    ⟨hwritten, k.primary.waitsAmong_needs.symm⟩, ?_, fun hasync hnone => ?_,
    fun r hr => projection_awaitsNothing _ (hk.projection r hr) false⟩
  · rw [hsingle]
    cases hasync : e.mapping.isAsync with
    | false =>
        rw [(hawaits.none_iff false).mpr hasync]
        exact fun b hb => absurd hb List.not_mem_nil
    | true => exact hawaits.inside
  · rw [hawaits.none_iff, ← hsingle, hasync] at hnone
    cases hnone

end Emitter

namespace Batch

/-- **Which routines of a batch are asynchronous.** -/
structure RoutinesAsync (s : Schema) (c : Config) : Prop where
  /-- A mapping is asynchronous exactly if its calls reach one with an asynchronous helper. -/
  reaches : ∀ id m, (discover s c).arena.get? id = some m → (m.isAsync = true ↔
    ∃ t k, (discover s c).arena.Reaches id t ∧ (discover s c).arena.get? t = some k ∧
      ∃ h ∈ k.strategies, h.isAsync = true)
  /-- That is exactly if its emitter judges one of its strategies so. -/
  judged : ∀ id m names, (discover s c).arena.get? id = some m → (m.isAsync = true ↔
    ∃ t ∈ m.strategies,
      (Emitter.ofArena (discover s c).arena c names id m).isAwaited (some t) = true)
  /-- The routines of accepted mappings await accordingly. -/
  routines : ∀ p ∈ (discover s c).accepted, ∀ names k,
    (Emitter.ofArena (discover s c).arena c names p.1 p.2).module = .ok k →
    Emitter.AwaitsByNeed k p.2
  /-- The rounds come to an end: any number above that of the mappings comes to the same, and then
  no flag has to change. -/
  rounds : ∀ n, (s.bound c).size < n → Arena.asyncRounds n (s.bound c) = s.resolved c ∧
    (s.resolved c).mappings.any (s.resolved c).mustFlip = false

/-- **The routines of a batch are asynchronous by need.** -/
theorem routines_async (s : Schema) (c : Config) : RoutinesAsync s c where
  reaches id m hm := by
    rw [← Arena.isAsync_of_get? hm]
    exact asyncByNeed_discover s c id
  judged id m names hm := (asyncByNeed_discover s c).isAsync_iff_judged hm c names
  routines p hp names k hk := by
    obtain ⟨hget, hv⟩ := mem_accepted_iff.mp hp
    refine Emitter.module_awaitsByNeed (e := Emitter.ofArena _ c names p.1 p.2) ?_
      (fun q hq => (built_of_isValid hget hv q hq).slotwise) k hk
    exact (asyncByNeed_discover s c).isAsync_iff_judged hget c names
  rounds n hn := by
    have hidle := (s.bound c).idle_le_size
    have hsettled := Arena.any_mustFlip_spreadAsync (s.bound c)
    rw [← Schema.resolved_eq_spread] at hsettled
    refine ⟨?_, hsettled⟩
    rw [Schema.resolved_eq_spread]
    exact Arena.asyncRounds_of_idle_lt (Nat.lt_of_le_of_lt hidle hn) (Nat.lt_succ_of_le hidle)

/-- A cart with an item whose price is fetched, and a note. -/
def cartSchema : Schema :=
  Schema.ofLists
    [type "app::Cart" [part "item" (.object "app::Item" false) []] (some "view::Cart") [],
      type "app::Item" [part "price" text [⟨.useMethod "fetched", none⟩]] (some "view::Item")
        [⟨"fetched", [⟨"price", text, false⟩], text, true⟩],
      type "app::Note" [part "text" text []] (some "view::Note") [],
      type "view::Cart" [part "item" (.object "view::Item" false) []] none [],
      type "view::Item" [part "price" text []] none [],
      type "view::Note" [part "text" text []] none []] []
where
  /-- A string. -/
  text : TypeRef := .scalar "String" false false
  /-- A property with directives. -/
  part (name : String) (ty : TypeRef) (directives : List DirectiveEntry) : Property :=
    ⟨name, ty, false, ⟨true, true⟩, directives⟩
  /-- A type that may be mapped to another one. -/
  type (path : String) (parts : List Property) (view : Option String) (methods : List Method) :
      TypeDecl :=
    ⟨path, none, false, true, parts, view.toList.map fun d => ⟨.mapTo d, none⟩, methods⟩

/-- The cart waits for its item, and the note for nothing. -/
example : (discover cartSchema Config.standard).arena.entries.map
      (fun p => (p.2.source, p.2.isAsync)) =
    [("app::Cart", true), ("app::Item", true), ("app::Note", false)] := by
  decide +kernel

end Batch

end TypeMapper
