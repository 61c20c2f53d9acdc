import TypeMapper.Proofs.Batch.Phases
import TypeMapper.Proofs.Construction.Nullability
import TypeMapper.Proofs.TypeRef
/-!
# What copies do about absent values

Construction looks at absence at two places: at the end of the chain and at the slots right below
it. A copy within one shape goes deeper than that only where a slot holds a container again, and
there absence is not looked at.

* `Batch.built_of_isValid`: the properties of an accepted mapping are built as they should.
* `TypeRef.at?`: the type at a position; `TypeRef.FitsBelow`: absence is allowed where it occurs.
* `PropertyMapping.copied`: the types between which a property copies.
* `Batch.copies_fit_iff`: when the copies of an accepted mapping are allowed to be absent.
-/

namespace TypeMapper

/-! ## 1. Accepted mappings -/

/-- **The properties of an accepted mapping** are built as they should: what comes after
construction binds calls only. -/
theorem Batch.built_of_isValid {s : Schema} {c : Config} {id : MappingId} {m : Mapping}
    (h : (discover s c).arena.get? id = some m) (hv : m.isValid = true) :
    ∀ p ∈ m.properties, p.Built c := by
  obtain ⟨n, l, hpassed⟩ := passed_of_isValid h hv
  obtain ⟨k, g, flag, hk, rfl⟩ := Schema.get?_resolved hpassed.resolved
  obtain ⟨d, -, source, destination, rfl⟩ := Schema.get?_built hk
  intro p hp
  rw [hpassed.properties_eq] at hp
  obtain ⟨q, hq, rfl⟩ := List.mem_map.mp hp
  exact (Builder.built_of_mem_properties hq).mapDelegates g

/-! ## 2. Positions -/

namespace TypeRef

/-- The types that a type is made of. -/
def parts : TypeRef → List TypeRef
  | .scalar .. => []
  | .object .. => []
  | .collection _ e _ => [e]
  | .map _ k v _ => [k, v]
  | .tuple es _ => es

/-- The type at a position, which says for each level which part it goes to. -/
def at? (t : TypeRef) : List Nat → Option TypeRef
  | [] => some t
  | i :: position => t.parts[i]?.bind fun u => u.at? position

/-- Below the top, a value that may be absent is put where it may be absent. -/
def FitsBelow (s d : TypeRef) : Prop :=
  ∀ position a b, position ≠ [] → s.at? position = some a → d.at? position = some b →
    a.nullable = true → b.nullable = true

theorem at?_of_parts_eq_nil {t : TypeRef} (h : t.parts = []) {position : List Nat}
    (hp : position ≠ []) : t.at? position = none := by
  cases position with
  | nil => exact absurd rfl hp
  | cons i rest =>
      rw [at?, h, List.getElem?_nil]
      rfl

/-- There is nothing below the top of a leaf. -/
theorem fitsBelow_of_parts_eq_nil {s : TypeRef} (h : s.parts = []) (d : TypeRef) :
    s.FitsBelow d := by
  intro position a b hp ha
  rw [at?_of_parts_eq_nil h hp] at ha
  cases ha

theorem fitsBelow_refl (t : TypeRef) : t.FitsBelow t := by
  intro position a b _ ha hb hnull
  rwa [← Option.some.inj (ha.symm.trans hb)]

/-- What has the shape of another type and no slots to map is a leaf. -/
theorem parts_eq_nil_of_sameShape {s d : TypeRef} (hshape : s.sameShape d = true)
    (hslots : isShaped s d = false) : s.parts = [] := by
  cases s with
  | scalar => rfl
  | object => rfl
  | collection k e n =>
      cases d with
      | collection => simp [isShaped, perElement, isCollection] at hslots
      | _ => simp [sameShape] at hshape
  | map k a b n =>
      cases d with
      | map => simp [isShaped, perElement, isMap] at hslots
      | _ => simp [sameShape] at hshape
  | tuple es n =>
      cases d with
      | tuple us n' =>
          rw [sameShape] at hshape
          simp [isShaped, length_eq_of_sameShapes hshape] at hslots
      | _ => simp [sameShape] at hshape

end TypeRef

/-! ## 3. Copies -/

/-- The types between which a property copies: those of the property if it has neither a strategy
nor slots, and those of the slots without a strategy. -/
def PropertyMapping.copied (p : PropertyMapping) : List (TypeRef × TypeRef) :=
  (if p.strategy = none ∧ p.shape = .scalar then [(p.terminal.ty, p.destination.ty)] else [])
    ++ (p.shape.elements.filter fun e => e.strategy.isNone).map fun e => (e.source, e.destination)

theorem PropertyMapping.mem_copied_iff {p : PropertyMapping} {q : TypeRef × TypeRef} :
    q ∈ p.copied ↔ (p.strategy = none ∧ p.shape = .scalar ∧ q = (p.terminal.ty, p.destination.ty)) ∨
      ∃ e ∈ p.shape.elements, e.strategy = none ∧ q = (e.source, e.destination) := by
  simp only [copied, List.mem_append, List.mem_map, List.mem_filter, Option.isNone_iff_eq_none]
  refine or_congr ?_ ⟨?_, ?_⟩
  · split
    · rename_i h
      simp [h]
    · rename_i h
      simpa using fun h₁ h₂ => absurd ⟨h₁, h₂⟩ h
  · rintro ⟨e, ⟨he, hs⟩, rfl⟩
    exact ⟨e, he, hs, rfl⟩
  · rintro ⟨e, he, hs, rfl⟩
    exact ⟨e, ⟨he, hs⟩, rfl⟩

/-- A copy is within one shape. -/
theorem PropertyMapping.Built.sameShape_of_mem_copied {c : Config} {p : PropertyMapping}
    (h : p.Built c) {q : TypeRef × TypeRef} (hq : q ∈ p.copied) : q.1.sameShape q.2 = true := by
  rcases mem_copied_iff.mp hq with ⟨hs, hshape, rfl⟩ | ⟨e, he, hs, rfl⟩
  · exact (h.copies hs hshape).2
  · exact h.slotCopies e he hs

/-- **A copy goes below the top only in a slot** that holds a container again. -/
theorem PropertyMapping.Built.fitsBelow_or_slot {c : Config} {p : PropertyMapping} (h : p.Built c)
    {q : TypeRef × TypeRef} (hq : q ∈ p.copied) : q.1.FitsBelow q.2 ∨
      ∃ e ∈ p.shape.elements, e.strategy = none ∧ e.source.parts ≠ [] ∧
        q = (e.source, e.destination) := by
  rcases mem_copied_iff.mp hq with ⟨hs, hshape, rfl⟩ | ⟨e, he, hs, rfl⟩
  · have hcopy := h.copies hs hshape
    exact Or.inl (TypeRef.fitsBelow_of_parts_eq_nil
      (TypeRef.parts_eq_nil_of_sameShape hcopy.2 hcopy.1) _)
  · by_cases hparts : e.source.parts = []
    · exact Or.inl (TypeRef.fitsBelow_of_parts_eq_nil hparts _)
    · exact Or.inr ⟨e, he, hs, hparts, rfl⟩

namespace Batch

variable {s : Schema} {c : Config} {id : MappingId} {m : Mapping}

/-- **The copies of an accepted mapping** are within one shape, and they put values only where they
may be absent exactly if those of slots that hold containers again do. -/
theorem copies_fit_iff (h : (discover s c).arena.get? id = some m) (hv : m.isValid = true) :
    (∀ p ∈ m.properties, ∀ q ∈ p.copied, q.1.sameShape q.2 = true) ∧
    ((∀ p ∈ m.properties, p.ignoreNull = false → ∀ q ∈ p.copied, q.1.FitsBelow q.2) ↔
      ∀ p ∈ m.properties, p.ignoreNull = false → ∀ e ∈ p.shape.elements, e.strategy = none →
        e.source.parts ≠ [] → e.source.FitsBelow e.destination) := by
  have hbuilt := built_of_isValid h hv
  refine ⟨fun p hp q hq => (hbuilt p hp).sameShape_of_mem_copied hq, ?_, ?_⟩
  · intro hfit p hp hignore e he hs _
    exact hfit p hp hignore _ (PropertyMapping.mem_copied_iff.mpr (Or.inr ⟨e, he, hs, rfl⟩))
  · intro hfit p hp hignore q hq
    rcases (hbuilt p hp).fitsBelow_or_slot hq with hfits | ⟨e, he, hs, hparts, rfl⟩
    · exact hfits
    · exact hfit p hp hignore e he hs hparts

/-- A bag of rows whose cells may be absent; the cells of the other bag may be absent or not. -/
def bagSchema (optional : Bool) : Schema :=
  Schema.ofLists
    [⟨"app::Bag", none, false, true, [rows true], [⟨.mapTo "app::Sack", none⟩], []⟩,
      ⟨"app::Sack", none, false, true, [rows optional], [], []⟩] []
where
  /-- Rows with such cells. -/
  rows (optional : Bool) : Property :=
    ⟨"rows", .collection .list (row optional) false, false, ⟨true, true⟩, []⟩
  /-- A row with such cells. -/
  row (optional : Bool) : TypeRef :=
    .collection .list (.scalar "String" false optional) false

/-- Rows are copied to rows whose cells may be absent as well. -/
theorem copies_fit_of_bag : ∃ m,
    (discover (bagSchema true) Config.standard).arena.get? 0 = some m ∧ m.isValid = true ∧
    m.properties.map PropertyMapping.copied = [[(bagSchema.row true, bagSchema.row true)]] ∧
    ∀ p ∈ m.properties, p.ignoreNull = false → ∀ q ∈ p.copied, q.1.FitsBelow q.2 := by
  have haccepted : ((discover (bagSchema true) Config.standard).arena.get? 0).map (fun m =>
      (m.isValid, m.properties.map PropertyMapping.copied,
        m.properties.all fun p => p.shape.elements.all fun e => e.source == e.destination)) =
      some (true, [[(bagSchema.row true, bagSchema.row true)]], true) := by
    decide +kernel
  obtain ⟨m, hm, hfields⟩ := Option.map_eq_some_iff.mp haccepted
  simp only [Prod.mk.injEq] at hfields
  obtain ⟨hv, hcopied, hsame⟩ := hfields
  refine ⟨m, hm, hv, hcopied, (copies_fit_iff hm hv).2.mpr fun p hp _ e he _ _ => ?_⟩
  have heq := List.all_eq_true.mp (List.all_eq_true.mp hsame p hp) e he
  rw [eq_of_beq heq]
  exact TypeRef.fitsBelow_refl _

/-- Rows whose cells may be absent are copied to rows whose cells are always there. -/
theorem copies_of_bag_not_fit : ∃ m,
    (discover (bagSchema false) Config.standard).arena.get? 0 = some m ∧ m.isValid = true ∧
    ∃ p ∈ m.properties, p.ignoreNull = false ∧ ∃ q ∈ p.copied, ¬ q.1.FitsBelow q.2 := by
  have haccepted : ((discover (bagSchema false) Config.standard).arena.get? 0).map (fun m =>
      (m.isValid, m.properties.map fun p => (p.ignoreNull, p.copied))) =
      some (true, [(false, [(bagSchema.row true, bagSchema.row false)])]) := by
    decide +kernel
  obtain ⟨m, hm, hfields⟩ := Option.map_eq_some_iff.mp haccepted
  rw [Prod.mk.injEq] at hfields
  obtain ⟨hv, hproperties⟩ := hfields
  obtain ⟨p, hp, hfields⟩ := List.mem_map.mp (hproperties ▸ List.mem_singleton_self _)
  rw [Prod.mk.injEq] at hfields
  obtain ⟨hignore, hcopied⟩ := hfields
  refine ⟨m, hm, hv, p, hp, hignore, _, hcopied ▸ List.mem_singleton_self _, fun hfit => ?_⟩
  exact absurd (hfit [0] (.scalar "String" false true) (.scalar "String" false false) nofun rfl rfl
    rfl) nofun

end Batch

end TypeMapper
