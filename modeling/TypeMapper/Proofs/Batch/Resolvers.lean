import TypeMapper.Proofs.Batch.Parameters
import TypeMapper.Proofs.Construction.Resolvers
/-!
# When resolvers share a parameter

The parameters of all resolvers that a routine needs, its own and those of the routines that it calls
in turn, are told apart by name and type only. The name is the one of the instance with the name of
the constructor's parameter behind it, so different resolvers get one parameter exactly if these two
names come to the same text: the name of one instance may begin with the name of the other.

* `Batch.made_of_isValid`: the instances of an accepted mapping are those of resolvers of the schema.
* `Batch.supplier?_eq_iff`: when two parameters of constructors get the same from a routine.
-/

namespace TypeMapper

namespace Batch

variable {s : Schema} {c : Config} {id t t' : MappingId} {m k k' : Mapping}

/-- **The instances of an accepted mapping** are those of resolvers of the schema, and take what
their constructors take. -/
theorem made_of_isValid (h : (discover s c).arena.get? id = some m) (hv : m.isValid = true)
    {i : ResolverInstance} (hi : i ∈ m.resolvers) :
    ∃ r, s.resolver? i.path = some r ∧ i.Takes r := by
  obtain ⟨n, l, hpassed⟩ := passed_of_isValid h hv
  obtain ⟨k, g, flag, hk, rfl⟩ := Schema.get?_resolved hpassed.resolved
  obtain ⟨d, -, source, destination, rfl⟩ := Schema.get?_built hk
  rw [hpassed.resolvers_eq] at hi
  exact (Builder.sound_properties ⟨s.context c, d.key, id⟩ _).made i hi

/-- What the constructor of an instance takes is handed on to it from the start of a chain. -/
theorem supplier?_of_argument (h : (discover s c).arena.get? id = some m) (hv : m.isValid = true)
    {ts : List MappingId} (hts : (discover s c).arena.Chain id ts t)
    (hk : (discover s c).arena.get? t = some k) {i : ResolverInstance} (hi : i ∈ k.resolvers)
    {a : EntryParameter} (ha : a ∈ i.arguments) :
    ∃ p, m.parameter? a.key = some p ∧
      (discover s c).arena.supplier? id ts a.key = some p := by
  have hkv := isValid_of_reaches_get? h hv hts.reaches hk
  have htakes := (ready_of_isValid hk hkv).constructors i hi a ha
  obtain ⟨⟨p, hp⟩, heq⟩ := supplier?_eq hts h hv hk (Mapping.exists_parameter? htakes)
  exact ⟨p, hp, heq.trans hp⟩

/-- **Two parameters of constructors get the same parameter of a routine exactly if** their types are
the same and so are their names behind those of their instances. The instances may be those of any
two mappings that an accepted one reaches. -/
theorem supplier?_eq_iff (h : (discover s c).arena.get? id = some m) (hv : m.isValid = true)
    {ts ts' : List MappingId} (hts : (discover s c).arena.Chain id ts t)
    (hts' : (discover s c).arena.Chain id ts' t')
    (hk : (discover s c).arena.get? t = some k) (hk' : (discover s c).arena.get? t' = some k')
    {i j : ResolverInstance} (hi : i ∈ k.resolvers) (hj : j ∈ k'.resolvers) :
    ∃ r r', s.resolver? i.path = some r ∧ i.Takes r ∧ s.resolver? j.path = some r' ∧ j.Takes r' ∧
      ∀ q ∈ Helpers.constructorParameters r, ∀ q' ∈ Helpers.constructorParameters r',
        ((∃ p ∈ m.entryParameters,
            (discover s c).arena.supplier? id ts (i.ident ++ "_" ++ q.name, q.ty) = some p ∧
            (discover s c).arena.supplier? id ts' (j.ident ++ "_" ++ q'.name, q'.ty) = some p) ↔
          i.ident ++ "_" ++ q.name = j.ident ++ "_" ++ q'.name ∧ q.ty = q'.ty) := by
  obtain ⟨r, hr, htakes⟩ := made_of_isValid hk (isValid_of_reaches_get? h hv hts.reaches hk) hi
  obtain ⟨r', hr', htakes'⟩ := made_of_isValid hk'
    (isValid_of_reaches_get? h hv hts'.reaches hk') hj
  refine ⟨r, r', hr, htakes, hr', htakes', fun q hq q' hq' => ?_⟩
  obtain ⟨p, hp, hsupplier⟩ := supplier?_of_argument h hv hts hk hi
    (htakes ▸ List.mem_map_of_mem hq)
  obtain ⟨p', hp', hsupplier'⟩ := supplier?_of_argument h hv hts' hk' hj
    (htakes' ▸ List.mem_map_of_mem hq')
  obtain ⟨hmem, hkey⟩ := Mapping.parameter?_eq_some hp
  obtain ⟨-, hkey'⟩ := Mapping.parameter?_eq_some hp'
  constructor
  · rintro ⟨o, -, ho, ho'⟩
    obtain rfl := Option.some.inj (hsupplier.symm.trans ho)
    obtain rfl := Option.some.inj (hsupplier'.symm.trans ho')
    exact Prod.mk.inj (hkey.symm.trans hkey')
  · rintro ⟨hname, hty⟩
    have hsame : (EntryParameter.ofLocal (i.ident ++ "_" ++ q.name) q.ty).key =
        (EntryParameter.ofLocal (j.ident ++ "_" ++ q'.name) q'.ty).key := Prod.ext hname hty
    obtain rfl := Option.some.inj (hp.symm.trans (hsame ▸ hp'))
    exact ⟨p, hmem, hsupplier, hsupplier'⟩

/-- A trip with a place and a stop with a zone. A place is resolved by a resolver that takes one text,
of some name, and a zone by one that takes an id. -/
def stopSchema (name : String) : Schema :=
  Schema.ofLists
    [type "app::Trip" [converted "place" "geo::Geo", stop "app::Stop"] (some "view::Trip"),
      type "app::Stop" [converted "zone" "geo::GeoZone"] (some "view::Stop"),
      type "view::Trip" [⟨"place", text, false, ⟨true, true⟩, []⟩, stop "view::Stop"] none,
      type "view::Stop" [⟨"zone", text, false, ⟨true, true⟩, []⟩] none]
    [⟨"geo::Geo", [⟨name, text, false⟩], text, text, false⟩,
      ⟨"geo::GeoZone", [⟨"id", text, false⟩], text, text, false⟩]
where
  /-- A text. -/
  text : TypeRef := .scalar "String" false false
  /-- A text that a resolver converts. -/
  converted (name path : String) : Property :=
    ⟨name, text, false, ⟨true, true⟩, [⟨.useResolver path, none⟩]⟩
  /-- The stop of a trip. -/
  stop (path : String) : Property := ⟨"stop", .object path false, false, ⟨true, true⟩, []⟩
  /-- A type that may be mapped to another. -/
  type (path : String) (properties : List Property) (view : Option String) : TypeDecl :=
    ⟨path, none, false, true, properties, view.toList.map fun d => ⟨.mapTo d, none⟩, []⟩

/-- The arena of these types. -/
def stopArena (name : String) : Arena := (discover (stopSchema name) Config.standard).arena

/-- The instance for the places of trips. -/
def placeInstance (name : String) : ResolverInstance :=
  ⟨"geo", "geo::Geo", [.ofLocal ("geo_" ++ name) stopSchema.text], false⟩

/-- The instance for the zones of stops. -/
def zoneInstance : ResolverInstance :=
  ⟨"geo_zone", "geo::GeoZone", [.ofLocal "geo_zone_id" stopSchema.text], false⟩

/-- A trip takes a city for its place and an id for the zone of its stop, and these are two. -/
theorem supplied_apart_of_trip : ∃ m k r r',
    (stopArena "city").get? 1 = some m ∧ m.isValid = true ∧ (stopArena "city").get? 0 = some k ∧
    placeInstance "city" ∈ m.resolvers ∧ zoneInstance ∈ k.resolvers ∧
    (stopArena "city").Chain 1 [0] 0 ∧
    (stopSchema "city").resolver? "geo::Geo" = some r ∧
    (stopSchema "city").resolver? "geo::GeoZone" = some r' ∧
    ∀ q ∈ Helpers.constructorParameters r, ∀ q' ∈ Helpers.constructorParameters r',
      ¬ ∃ p ∈ m.entryParameters,
        (stopArena "city").supplier? 1 [] ("geo" ++ "_" ++ q.name, q.ty) = some p ∧
        (stopArena "city").supplier? 1 [0] ("geo_zone" ++ "_" ++ q'.name, q'.ty) = some p := by
  have htrip : ((stopArena "city").get? 1).map (fun m => (m.isValid, m.resolvers, m.targets)) =
      some (true, [placeInstance "city"], [0]) := by
    decide +kernel
  have hstop : ((stopArena "city").get? 0).map Mapping.resolvers = some [zoneInstance] := by
    decide +kernel
  obtain ⟨m, hm, hfields⟩ := Option.map_eq_some_iff.mp htrip
  obtain ⟨k, hk, hzone⟩ := Option.map_eq_some_iff.mp hstop
  simp only [Prod.mk.injEq] at hfields
  obtain ⟨hv, hplace, htargets⟩ := hfields
  have hi : placeInstance "city" ∈ m.resolvers := hplace ▸ List.mem_singleton_self _
  have hj : zoneInstance ∈ k.resolvers := hzone ▸ List.mem_singleton_self _
  have hchain : (stopArena "city").Chain 1 [0] 0 :=
    .cons ⟨m, hm, htargets ▸ List.mem_singleton_self 0⟩ (.nil 0)
  obtain ⟨r, r', hr, -, hr', -, hiff⟩ := supplier?_eq_iff hm hv (.nil 1) hchain hm hk hi hj
  refine ⟨m, k, r, r', hm, hv, hk, hi, hj, hchain, hr, hr', fun q hq q' hq' hshared => ?_⟩
  have hnames := ((hiff q hq q' hq').mp hshared).1
  have hresolvers : (stopSchema "city").resolver? "geo::Geo" =
      some ⟨"geo::Geo", [⟨"city", stopSchema.text, false⟩], stopSchema.text, stopSchema.text,
        false⟩ ∧ (stopSchema "city").resolver? "geo::GeoZone" =
      some ⟨"geo::GeoZone", [⟨"id", stopSchema.text, false⟩], stopSchema.text, stopSchema.text,
        false⟩ := by
    decide +kernel
  obtain rfl := Option.some.inj (hresolvers.1.symm.trans hr)
  obtain rfl := Option.some.inj (hresolvers.2.symm.trans hr')
  rw [List.mem_singleton.mp hq, List.mem_singleton.mp hq'] at hnames
  exact absurd hnames (by decide)

/-- A place that takes the id of a zone and a zone that takes an id get one and the same: the names
of both resolvers and their parameters come to one text. -/
theorem supplied_together_of_trip : ∃ m k p,
    (stopArena "zone_id").get? 1 = some m ∧ m.isValid = true ∧
    (stopArena "zone_id").get? 0 = some k ∧
    placeInstance "zone_id" ∈ m.resolvers ∧ zoneInstance ∈ k.resolvers ∧
    (placeInstance "zone_id").path ≠ zoneInstance.path ∧ (stopArena "zone_id").Chain 1 [0] 0 ∧
    m.entryParameters = [p] ∧
    (placeInstance "zone_id").arguments.map
      (fun a => (stopArena "zone_id").supplier? 1 [] a.key) = [some p] ∧
    zoneInstance.arguments.map
      (fun a => (stopArena "zone_id").supplier? 1 [0] a.key) = [some p] := by
  have htrip : ((stopArena "zone_id").get? 1).map (fun m =>
      (m.isValid, m.resolvers, m.targets, m.entryParameters)) =
      some (true, [placeInstance "zone_id"], [0],
        [.ofLocal "geo_zone_id" stopSchema.text]) := by
    decide +kernel
  have hstop : ((stopArena "zone_id").get? 0).map Mapping.resolvers = some [zoneInstance] := by
    decide +kernel
  obtain ⟨m, hm, hfields⟩ := Option.map_eq_some_iff.mp htrip
  obtain ⟨k, hk, hzone⟩ := Option.map_eq_some_iff.mp hstop
  simp only [Prod.mk.injEq] at hfields
  obtain ⟨hv, hplace, htargets, hentry⟩ := hfields
  have hchain : (stopArena "zone_id").Chain 1 [0] 0 :=
    .cons ⟨m, hm, htargets ▸ List.mem_singleton_self 0⟩ (.nil 0)
  exact ⟨m, k, _, hm, hv, hk, hplace ▸ List.mem_singleton_self _, hzone ▸ List.mem_singleton_self _,
    by decide, hchain, hentry, by decide +kernel, by decide +kernel⟩

end Batch

end TypeMapper
