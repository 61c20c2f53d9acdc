import TypeMapper.EntryParameters
import TypeMapper.Proofs.Construction.Resolvers
/-!
# Names of resolvers in routines

A routine binds each resolver that it builds by the name of its instance, and reads the source
after that. The names of instances are told apart from each other, but not from the names that the
routine uses itself, as those of parameters are. So a resolver hides the source if its path comes to
that name.

* `Helpers.Based`: every instance goes by the base name for its path, or by this with a number.
* `Helpers.ident_mem_iff`: a name without an underscore is used exactly if a path comes to it.
* `PrimaryRoutine.HidesSource`: a resolver is bound by the name of the source.
* `Mapping.resolver_names_of_build`: the names of the resolvers of a mapping that is built.
* `Mapping.source_hidden_of_order`: a resolver that hides the source.
-/

namespace TypeMapper

open RoutineNames

/-! ## 1. Base names -/

namespace Helpers

variable {h : Helpers} {i : ResolverInstance} {name : String}

/-- **The invariant of names**: an instance goes by the base name for its path, or by this with a
number, and then another instance has the base name. -/
def Based (h : Helpers) : Prop :=
  ∀ i ∈ h.resolvers, TypePath.snakeIdent i.path ∈ h.resolvers.map ResolverInstance.ident ∧
    (i.ident = TypePath.snakeIdent i.path ∨ ∃ n, i.ident = numbered (TypePath.snakeIdent i.path) n)

theorem based_none : none.Based := fun _ hi => absurd hi List.not_mem_nil

/-- **One more helper** keeps the invariant. -/
theorem Based.use (hb : h.Based) (f : Helper) : (h.use f).Based := by
  cases f with
  | method owner m =>
      unfold Based
      rw [Helpers.use, resolvers_addParameters]
      exact hb
  | resolver r =>
      rw [Helpers.use]
      cases hfound : h.instance? r with
      | some i =>
          rw [resolver_of_instance hfound]
          exact hb
      | none =>
          rw [resolver_of_no_instance hfound]
          unfold Based
          rw [List.map_append, List.map_singleton]
          refine List.forall_mem_append.mpr ⟨fun i hi => ?_, List.forall_mem_singleton.mpr ?_⟩
          · exact ⟨List.mem_append_left _ (hb i hi).1, (hb i hi).2⟩
          · rcases (h.freshIdent_cases (TypePath.snakeIdent r.path)).2 with hbase | ⟨htaken, hnumber⟩
            · exact ⟨List.mem_append_right _ (List.mem_singleton.mpr hbase.symm), .inl hbase⟩
            · exact ⟨List.mem_append_left _ htaken, .inr hnumber⟩

/-- A name with a number behind it has an underscore. -/
theorem underscore_mem_numbered (base : String) (n : Nat) : '_' ∈ (numbered base n).toList := by
  rw [numbered, String.toList_append, String.toList_append]
  exact List.mem_append_left _ (List.mem_append_right _ (List.mem_singleton_self _))

/-- **A name without an underscore is used** exactly if the path of an instance comes to it. -/
theorem ident_mem_iff (hb : h.Based) (hname : '_' ∉ name.toList) :
    name ∈ h.resolvers.map ResolverInstance.ident ↔
      name ∈ h.resolvers.map fun i => TypePath.snakeIdent i.path := by
  constructor
  · intro hmem
    obtain ⟨i, hi, rfl⟩ := List.mem_map.mp hmem
    rcases (hb i hi).2 with hbase | ⟨n, hnumber⟩
    · exact List.mem_map.mpr ⟨i, hi, hbase.symm⟩
    · exact absurd (hnumber ▸ underscore_mem_numbered _ n) hname
  · intro hmem
    obtain ⟨i, hi, rfl⟩ := List.mem_map.mp hmem
    exact (hb i hi).1

end Helpers

theorem underscore_not_mem_of_reserved {name : String} (h : name ∈ reservedNames) :
    '_' ∉ name.toList := by
  revert name
  decide

/-- The names of the resolvers that are needed for pairs are based on their paths. -/
theorem Builder.based_properties (b : Builder) (ms : List PropertyMatch) :
    (b.properties Helpers.none ms).2.1.Based :=
  properties_keep (fun _ hk _ f _ => hk.use f) Helpers.based_none

/-! ## 2. Bindings -/

/-- A resolver is bound by the name of the source, which the routine reads after that. -/
def PrimaryRoutine.HidesSource (r : PrimaryRoutine) : Prop :=
  "source" ∈ r.resolvers.map ResolverBinding.name

namespace Emitter

variable {e : Emitter}

/-- A resolver is bound by the name of its instance. -/
theorem resolverBinding_gives (i : ResolverInstance) :
    Gives (fun b => Code.name? i.ident = some b.name) (e.resolverBinding i) :=
  (gives_ofOption _ _).bind fun _ hname => (gives_true _).bind fun _ _ => (gives_true _).bind
    fun _ _ => gives_ok hname

/-- **A routine hides its source** exactly if the name of an instance is spelled like it. -/
theorem primary_hidesSource_iff : Gives (fun r => r.HidesSource ↔
    ∃ i ∈ e.mapping.resolvers, Code.name? i.ident = some "source") e.primary := by
  intro r hr
  have hbound := gives_mapM (fun i _ => resolverBinding_gives (e := e) i) _
    (primary_parts r hr).resolvers
  constructor
  · intro hhides
    obtain ⟨b, hb, hname⟩ := List.mem_map.mp hhides
    obtain ⟨i, hi, hspelled⟩ := exists_of_mem_right hbound hb
    exact ⟨i, hi, hname ▸ hspelled⟩
  · rintro ⟨i, hi, hspelled⟩
    obtain ⟨b, hb, hname⟩ := exists_of_mem_left hbound hi
    exact List.mem_map.mpr ⟨b, hb, Option.some.inj (hname.symm.trans hspelled)⟩

end Emitter

/-! ## 3. Mappings -/

namespace Mapping

variable {c : BuildContext} {id : MappingId} {m n : Mapping}

/-- **The resolvers of a mapping that is built have different names. A name that the routine uses
itself is among them exactly if the path of a resolver comes to it**, and a routine with these
resolvers hides its source exactly if one of their names is spelled like it. -/
theorem resolver_names_of_build (h : m.build c id = .ok n) :
    (n.resolvers.map ResolverInstance.ident).Nodup ∧
      (∀ name ∈ reservedNames, name ∈ n.resolvers.map ResolverInstance.ident ↔
        name ∈ n.resolvers.map fun i => TypePath.snakeIdent i.path) ∧
      ∀ e : Emitter, e.mapping.resolvers = n.resolvers →
        Gives (fun r => r.HidesSource ↔
          ∃ i ∈ n.resolvers, Code.name? i.ident = some "source") e.primary := by
  obtain ⟨source, destination, rfl⟩ := eq_buildFrom_of_build h
  refine ⟨(Builder.sound_properties _ _).idents, fun name hname => ?_, fun e he => ?_⟩
  · exact Helpers.ident_mem_iff (Builder.based_properties _ _)
      (underscore_not_mem_of_reserved hname)
  · rw [← he]
    exact Emitter.primary_hidesSource_iff

/-- A mapping of an order whose name a resolver converts. -/
def orderOf (resolver : String) : Except BuildError Mapping :=
  (declare key none "app::Order").build ⟨schema, Config.standard, [key]⟩ 0
where
  /-- The types of the mapping. -/
  key : MappingKey := ⟨"app::Order", "view::Order"⟩
  /-- A name. -/
  name (directives : List DirectiveEntry) : Property :=
    ⟨"name", .scalar "String" false false, false, ⟨true, true⟩, directives⟩
  /-- The types with the resolver. -/
  schema : Schema := Schema.ofLists
    [⟨"app::Order", none, false, true, [name [⟨.useResolver resolver, none⟩]], [], []⟩,
      ⟨"view::Order", none, false, true, [name []], [], []⟩]
    [⟨resolver, [], .scalar "String" false false, .scalar "String" false false, false⟩]

/-- What the routine of a mapping alone is written from. -/
def emitterOf (n : Mapping) : Emitter :=
  let alone := Arena.ofMappings [n]
  Emitter.ofArena alone Config.standard (RoutineNames.ofArena alone) 0 n

/-- The names of the resolvers of a mapping, and those that its routine binds. -/
def resolverNames (n : Mapping) : List String × Option (List String) :=
  (n.resolvers.map ResolverInstance.ident,
    (emitterOf n).primary.toOption.map fun r => r.resolvers.map ResolverBinding.name)

/-- What names are known of a mapping is known of its routine. -/
theorem exists_of_resolverNames {x : Except BuildError Mapping} {idents bound : List String}
    (h : x.toOption.map resolverNames = some (idents, some bound)) : ∃ n r, x = .ok n ∧
      n.resolvers.map ResolverInstance.ident = idents ∧ (emitterOf n).primary = .ok r ∧
      r.resolvers.map ResolverBinding.name = bound := by
  obtain ⟨n, hn, hnames⟩ := Option.map_eq_some_iff.mp h
  obtain ⟨hidents, hbound⟩ := Prod.mk.inj hnames
  obtain ⟨r, hr, hbound⟩ := Option.map_eq_some_iff.mp hbound
  exact ⟨n, r, eq_ok_of_toOption hn, hidents, eq_ok_of_toOption hr, hbound⟩

/-- A name that is trimmed: the resolver is bound by a name of its own, and the source is read. -/
theorem resolver_names_of_order : ∃ n r, orderOf "text::Trim" = .ok n ∧
    n.resolvers.map ResolverInstance.ident = ["trim"] ∧
    (n.resolvers.map ResolverInstance.ident).Nodup ∧
    (∀ name ∈ reservedNames, name ∉ n.resolvers.map fun i => TypePath.snakeIdent i.path) ∧
    (emitterOf n).mapping.resolvers = n.resolvers ∧ (emitterOf n).primary = .ok r ∧
    ∀ i ∈ n.resolvers, Code.name? i.ident ≠ some "source" := by
  have hreport : (orderOf "text::Trim").toOption.map resolverNames =
      some (["trim"], some ["trim"]) := by
    decide +kernel
  obtain ⟨n, r, hn, hidents, hr, hbound⟩ := exists_of_resolverNames hreport
  obtain ⟨hnodup, hreserved, hhides⟩ := resolver_names_of_build hn
  refine ⟨n, r, hn, hidents, hnodup, fun name hname hmem => ?_, rfl, hr, fun i hi hspelled => ?_⟩
  · have hident := (hreserved name hname).mpr hmem
    rw [hidents, List.mem_singleton] at hident
    subst hident
    exact absurd hname (by decide)
  · have hsource : "source" ∈ r.resolvers.map ResolverBinding.name :=
      (hhides (emitterOf n) rfl r hr).mpr ⟨i, hi, hspelled⟩
    rw [hbound] at hsource
    exact absurd hsource (by decide)

/-- **A resolver may hide the source**: one at a path that ends in Source is bound by the name of the
source, and what the routine then reads the name of the order from is the resolver. -/
theorem source_hidden_of_order : ∃ n r, orderOf "text::Source" = .ok n ∧
    n.resolvers.map ResolverInstance.ident = ["source"] ∧ "source" ∈ reservedNames ∧
    (emitterOf n).primary = .ok r ∧ r.HidesSource := by
  have hreport : (orderOf "text::Source").toOption.map resolverNames =
      some (["source"], some ["source"]) := by
    decide +kernel
  obtain ⟨n, r, hn, hidents, hr, hbound⟩ := exists_of_resolverNames hreport
  refine ⟨n, r, hn, hidents, by decide, hr, ?_⟩
  rw [PrimaryRoutine.HidesSource, hbound]
  exact List.mem_singleton_self _

end Mapping

end TypeMapper
