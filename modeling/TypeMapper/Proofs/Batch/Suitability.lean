import TypeMapper.Proofs.Batch.Phases
import TypeMapper.Proofs.Construction.Suitability
/-!
# What the strategies of accepted mappings are given

Each property of an accepted mapping comes from a pair of the matching. Its strategies take what
stands in their slots, except where a directive of the pair names a resolver or a mapper for other
types: such a directive is not checked against the slot that it is put on.

* `Batch.suited_iff_fits`: when the strategies of each property take what stands in their slots.
-/

namespace TypeMapper.Batch

variable {s : Schema} {c : Config} {id : MappingId} {m : Mapping}

/-- **The strategies of a property of an accepted mapping take what stands in their slots exactly
if** the resolver or the mapper that its directive names is for the types of the slot. -/
theorem suited_iff_fits (h : (discover s c).arena.get? id = some m) (hv : m.isValid = true) :
    List.Forall₂ (fun pair p => p.destination = PropertyEnd.ofProperty pair.destination ∧
      (p.Suited ↔ pair.Fits s)) (matchProperties s m.key m.index).pairs m.properties := by
  obtain ⟨n, l, hpassed⟩ := passed_of_isValid h hv
  obtain ⟨k, g, flag, hk, hg, rfl⟩ := Schema.get?_resolved_key hpassed.resolved
  obtain ⟨d, -, source, destination, rfl⟩ := Schema.get?_built hk
  have hclean := (Bool.not_eq_true' _).mp hpassed.isValid
  simp only [Mapping.withAsync, Mapping.mapDelegates, Mapping.buildFrom, Diagnostic.hasErrors_append,
    Bool.or_eq_false_iff] at hclean
  have hbuilt := Builder.properties_forall₂ (b := ⟨s.context c, d.key, id⟩)
    (fun pair h => Builder.property_suits _ h pair)
    (fun p hp => Sides.source_ne_nil_of_mem_pairs hp) hclean.2
  rw [hpassed.properties_eq]
  obtain ⟨ds, rfl⟩ := hpassed.eq
  refine List.forall₂_map_right_iff.mpr (hbuilt.imp fun pair p hp => ⟨hp.1, ?_⟩)
  exact (PropertyMapping.suited_mapDelegates hg p).trans hp.2

/-- A person whose name is resolved and whose home is mapped, both by directives. They name a resolver
of texts and the mapping of homes, or else a resolver of numbers and the mapping of cars. -/
def personSchema (fitting : Bool) : Schema :=
  Schema.ofLists
    [type "app::Person"
        [⟨"name", text, false, ⟨true, true⟩, [⟨.useResolver "text::Upper", none⟩]⟩,
          ⟨"home", .object "app::Home" false, false, ⟨true, true⟩,
            [⟨if fitting then .useMapper "app::Home" "view::Home"
              else .useMapper "app::Car" "view::Car", none⟩]⟩]
        (some "view::Person"),
      type "app::Home" [plain "street" text] (some "view::Home"),
      type "app::Car" [plain "plate" text] (some "view::Car"),
      type "view::Person" [plain "name" text, plain "home" (.object "view::Home" false)] none,
      type "view::Home" [plain "street" text] none, type "view::Car" [plain "plate" text] none]
    [⟨"text::Upper", [], if fitting then text else .scalar "u32" true false, text, false⟩]
where
  /-- A text. -/
  text : TypeRef := .scalar "String" false false
  /-- A property without directives. -/
  plain (name : String) (ty : TypeRef) : Property := ⟨name, ty, false, ⟨true, true⟩, []⟩
  /-- A type that may be mapped to another. -/
  type (path : String) (properties : List Property) (view : Option String) : TypeDecl :=
    ⟨path, none, false, true, properties, view.toList.map fun d => ⟨.mapTo d, none⟩, []⟩

/-- The arena of these types. -/
def personArena (fitting : Bool) : Arena :=
  (discover (personSchema fitting) Config.standard).arena

/-- What the directives of a person name is for its name and its home. -/
theorem suited_of_person : ∃ m, (personArena true).get? 2 = some m ∧ m.isValid = true ∧
    m.properties.map (fun p => p.strategy.map Strategy.kind) = [some "resolver", some "mapper"] ∧
    List.Forall₂ (fun pair p => p.destination = PropertyEnd.ofProperty pair.destination ∧
      (p.Suited ↔ pair.Fits (personSchema true)))
      (matchProperties (personSchema true) m.key m.index).pairs m.properties ∧
    ∀ p ∈ m.properties, p.Suited := by
  have hreport : ((personArena true).get? 2).map (fun m => (m.isValid,
      m.properties.map fun p => p.strategy.map Strategy.kind,
      m.properties.all fun p => decide p.Suited)) =
      some (true, [some "resolver", some "mapper"], true) := by
    decide +kernel
  obtain ⟨m, hm, hfields⟩ := Option.map_eq_some_iff.mp hreport
  simp only [Prod.mk.injEq] at hfields
  obtain ⟨hv, hkinds, hsuited⟩ := hfields
  refine ⟨m, hm, hv, hkinds, suited_iff_fits hm hv, fun p hp => ?_⟩
  exact of_decide_eq_true (List.all_eq_true.mp hsuited p hp)

/-- The resolver of a name takes numbers, and the mapper of a home is that of cars: neither takes
what it is given. -/
theorem not_suited_of_person : ∃ m, (personArena false).get? 2 = some m ∧ m.isValid = true ∧
    m.properties.map (fun p => p.strategy.map Strategy.kind) = [some "resolver", some "mapper"] ∧
    ∀ p ∈ m.properties, ∃ s ∈ p.strategy, ¬ s.Accepts p.terminal.ty p.destination.ty := by
  have hreport : ((personArena false).get? 2).map (fun m => (m.isValid,
      m.properties.map fun p => p.strategy.map Strategy.kind,
      m.properties.all fun p => p.strategy.any fun s =>
        !decide (s.Accepts p.terminal.ty p.destination.ty))) =
      some (true, [some "resolver", some "mapper"], true) := by
    decide +kernel
  obtain ⟨m, hm, hfields⟩ := Option.map_eq_some_iff.mp hreport
  simp only [Prod.mk.injEq] at hfields
  obtain ⟨hv, hkinds, hunsuited⟩ := hfields
  refine ⟨m, hm, hv, hkinds, fun p hp => ?_⟩
  obtain ⟨s, hs, hno⟩ := (Option.any_eq_true _ _).mp (List.all_eq_true.mp hunsuited p hp)
  exact ⟨s, hs, by simpa using hno⟩

end TypeMapper.Batch
