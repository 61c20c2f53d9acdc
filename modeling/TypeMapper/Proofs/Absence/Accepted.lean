import TypeMapper.Proofs.Absence.Projection
import TypeMapper.Proofs.Batch.Nullability
import TypeMapper.Proofs.Batch.Rejection
/-!
# Absence in the routines of accepted mappings

The properties of an accepted mapping are built as they should, and so are those of all mappings
that it reaches. So both of its routines make an option exactly where one is wanted, but for
elements that are copied at once: they are never lifted.

* `Emitter.FillsSlots`: what the values of both routines do about absence.
* `Batch.fillsSlots_of_isValid`: those of an accepted mapping do it.
-/

namespace TypeMapper

instance (p : PropertyMapping) : Decidable p.LiftsCopies :=
  match h : p.shape with
  | .collection _ _ e => decidable_of_iff e.Lifts (PropertyMapping.liftsCopies_iff h).symm
  | .scalar => isFalse (PropertyMapping.not_liftsCopies (by simp [h]))
  | .map .. => isFalse (PropertyMapping.not_liftsCopies (by simp [h]))
  | .tuple _ => isFalse (PropertyMapping.not_liftsCopies (by simp [h]))

/-! ## 1. Routines -/

/-- What the values of both routines of a mapping do about absence. -/
structure Emitter.FillsSlots (e : Emitter) : Prop where
  /-- A field of the routine has the name of its property, and a value that fills it exactly if no
  elements are copied for it that have to be lifted. -/
  primary : ∀ r, e.primary = .ok r →
    List.Forall₂ (fun p f => Code.name? p.destination.name = some f.1 ∧
      (p.FilledBy e.arena e.mapping "source" f.2 ↔ ¬ p.LiftsCopies)) e.mapping.properties r.fields
  /-- The projection is a literal of the mapping if nothing that is reached copies such elements. -/
  projection : ∀ r, e.projection = .ok r →
    (∀ t k, e.arena.Reaches e.id t → e.arena.get? t = some k →
      ∀ p ∈ k.properties, ¬ p.LiftsCopies) → r.body.IsLiteral e.arena e.mapping r.input
  /-- It is no literal if the mapping itself copies such elements where no helper is needed. -/
  projection_lifts : ∀ r, e.projection = .ok r → r.body.IsLiteral e.arena e.mapping r.input →
    ∀ p ∈ e.mapping.properties, p.needsHelper = false → ¬ p.LiftsCopies

theorem Emitter.fillsSlots_ofArena {a : Arena} {c : Config} {names : RoutineNames}
    {id : MappingId} {m : Mapping} (h : a.get? id = some m)
    (hbuilt : ∀ t k, a.Reaches id t → a.get? t = some k → ∀ p ∈ k.properties, p.Built c) :
    (ofArena a c names id m).FillsSlots where
  primary := primary_gives (hbuilt id m .refl h) a
  projection := fun r hr hlifts =>
    projection_gives h (fun t k hreach hk p hp => ⟨hbuilt t k hreach hk p hp,
      hlifts t k hreach hk p hp⟩) r hr
  projection_lifts := projection_lifts h (hbuilt id m .refl h)

/-! ## 2. Accepted mappings -/

namespace Batch

variable {s : Schema} {c : Config} {id : MappingId} {m : Mapping}

/-- What an accepted mapping reaches is built as it should. -/
theorem built_of_reaches (h : (discover s c).arena.get? id = some m) (hv : m.isValid = true) :
    ∀ t k, (discover s c).arena.Reaches id t → (discover s c).arena.get? t = some k →
      ∀ p ∈ k.properties, p.Built c := by
  intro t k hreach hk
  exact built_of_isValid hk (isValid_of_reaches_get? h hv hreach hk)

/-- **The routines of an accepted mapping fill their slots but for copied elements that have to be
lifted**, whatever the schema and the settings are. -/
theorem fillsSlots_of_isValid (h : (discover s c).arena.get? id = some m) (hv : m.isValid = true) :
    (Emitter.ofArena (discover s c).arena c (RoutineNames.ofArena (discover s c).arena) id
      m).FillsSlots :=
  Emitter.fillsSlots_ofArena h (built_of_reaches h hv)

/-- A parcel with tags, a note that may be absent and a sender; the tags of its label may be absent
or not. -/
def parcelSchema (optional : Bool) : Schema :=
  Schema.ofLists
    [type "app::Parcel" [tags false, note, ⟨"sender", .object "app::Person" false, false,
        ⟨true, true⟩, []⟩] [⟨.mapTo "app::Label", none⟩],
      type "app::Label" [tags optional, note, ⟨"sender", .object "app::Name" false, false,
        ⟨true, true⟩, []⟩] [],
      type "app::Person" [note] [⟨.mapTo "app::Name", none⟩],
      type "app::Name" [note] []] []
where
  /-- Texts that may be absent or not. -/
  tags (optional : Bool) : Property :=
    ⟨"tags", .collection .list (.scalar "String" false optional) false, false, ⟨true, true⟩, []⟩
  /-- A text that may be absent. -/
  note : Property := ⟨"note", .scalar "String" false true, false, ⟨true, true⟩, []⟩
  /-- A type with directives. -/
  type (path : String) (properties : List Property) (directives : List DirectiveEntry) : TypeDecl :=
    ⟨path, none, false, true, properties, directives, []⟩

/-- The arena of these types. -/
def parcelArena (optional : Bool) : Arena :=
  (discover (parcelSchema optional) Config.standard).arena

/-- What the routines for a parcel are written from. -/
def parcelEmitter (optional : Bool) (m : Mapping) : Emitter :=
  Emitter.ofArena (parcelArena optional) Config.standard
    (RoutineNames.ofArena (parcelArena optional)) 0 m

/-- Tags are copied to tags that are always there, and both routines fill their slots. -/
theorem fillsSlots_of_parcel : ∃ m r q,
    (parcelArena false).get? 0 = some m ∧ m.isValid = true ∧
    (parcelEmitter false m).FillsSlots ∧
    (parcelEmitter false m).primary = .ok r ∧
    List.Forall₂ (fun p f => Code.name? p.destination.name = some f.1 ∧
      p.FilledBy (parcelArena false) m "source" f.2) m.properties r.fields ∧
    (parcelEmitter false m).projection = .ok q ∧
    q.body.IsLiteral (parcelArena false) m q.input := by
  have hreport : ((parcelArena false).get? 0).map (fun m => (m.isValid,
      (parcelEmitter false m).primary.toOption.isSome,
      (parcelEmitter false m).projection.toOption.isSome,
      (parcelArena false).mappings.all fun k => k.properties.all fun p => !decide p.LiftsCopies)) =
      some (true, true, true, true) := by
    decide +kernel
  obtain ⟨m, hm, hfields⟩ := Option.map_eq_some_iff.mp hreport
  simp only [Prod.mk.injEq] at hfields
  obtain ⟨hv, hprimary, hprojection, hfree⟩ := hfields
  obtain ⟨r, hr⟩ := Option.isSome_iff_exists.mp hprimary
  obtain ⟨q, hq⟩ := Option.isSome_iff_exists.mp hprojection
  have hr := eq_ok_of_toOption hr
  have hq := eq_ok_of_toOption hq
  have hlifts : ∀ t k, (parcelArena false).get? t = some k → ∀ p ∈ k.properties,
      ¬ p.LiftsCopies := fun t k hk p hp => by
    simpa using List.all_eq_true.mp (List.all_eq_true.mp hfree k (Arena.mem_mappings_of_get? hk)) p hp
  have hfills : (parcelEmitter false m).FillsSlots := fillsSlots_of_isValid hm hv
  obtain ⟨hlen, hzip⟩ := List.forall₂_iff_zip.mp (hfills.primary r hr)
  refine ⟨m, r, q, hm, hv, hfills, hr, List.forall₂_iff_zip.mpr ⟨hlen, fun hpf => ?_⟩, hq,
    hfills.projection q hq fun t k _ hk => hlifts t k hk⟩
  exact ⟨(hzip hpf).1, (hzip hpf).2.mpr (hlifts 0 m hm _ (List.of_mem_zip hpf).1)⟩

/-- Tags that are always there are copied to tags that may be absent: neither routine lifts them. -/
theorem parcel_not_filled : ∃ m r q,
    (parcelArena true).get? 0 = some m ∧ m.isValid = true ∧
    (parcelEmitter true m).primary = .ok r ∧ (parcelEmitter true m).projection = .ok q ∧
    ¬ List.Forall₂ (fun p f => p.FilledBy (parcelArena true) m "source" f.2) m.properties r.fields ∧
    ¬ q.body.IsLiteral (parcelArena true) m q.input := by
  have hreport : ((parcelArena true).get? 0).map (fun m => (m.isValid,
      (parcelEmitter true m).primary.toOption.isSome,
      (parcelEmitter true m).projection.toOption.isSome,
      m.properties.map fun p => (p.needsHelper, decide p.LiftsCopies))) =
      some (true, true, true, [(false, true), (false, false), (false, false)]) := by
    decide +kernel
  obtain ⟨m, hm, hfields⟩ := Option.map_eq_some_iff.mp hreport
  simp only [Prod.mk.injEq] at hfields
  obtain ⟨hv, hprimary, hprojection, hproperties⟩ := hfields
  obtain ⟨r, hr⟩ := Option.isSome_iff_exists.mp hprimary
  obtain ⟨q, hq⟩ := Option.isSome_iff_exists.mp hprojection
  have hr := eq_ok_of_toOption hr
  have hq := eq_ok_of_toOption hq
  obtain ⟨p, hp, hflags⟩ := List.mem_map.mp (hproperties ▸ List.mem_cons_self)
  rw [Prod.mk.injEq, decide_eq_true_eq] at hflags
  obtain ⟨hhelp, hlifts⟩ := hflags
  have hfills : (parcelEmitter true m).FillsSlots :=
    Emitter.fillsSlots_ofArena hm (built_of_reaches hm hv)
  refine ⟨m, r, q, hm, hv, hr, hq, fun hfilled => ?_, fun hliteral =>
    hfills.projection_lifts q hq hliteral p hp hhelp hlifts⟩
  obtain ⟨f, hf, hfill⟩ := exists_of_forall₂ (hfills.primary r hr) hfilled hp
  exact hf.2.mp hfill hlifts

end Batch

end TypeMapper
