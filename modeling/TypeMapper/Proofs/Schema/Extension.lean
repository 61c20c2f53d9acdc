import TypeMapper.Proofs.Catalog
import TypeMapper.Proofs.Schema.Agreement
/-!
# Schemas with more types

A schema is extended by types at new paths. If it mentions none of these paths, it says of its own
types what it said before, whatever the new types are.

* `Schema.mentions`: the paths of types that a schema mentions.
* `Schema.extend`, `Schema.Foreign`: more types, and types that a schema knows nothing of.
* `Schema.filter_types_extend`: the old types are among those of the extended schema, in order.
* `Schema.Foreign.agreesOn`: the extended schema agrees with the old one.
-/

namespace TypeMapper

/-! ## 1. Mentions -/

/-- The paths of types that a property mentions: objects in its type, and what its directives
name. -/
def Property.mentions (p : Property) : List String :=
  p.ty.objectPaths ++ p.directives.flatMap fun e => e.directive.operands

/-- The paths of types that a type mentions: its base, what its properties mention, and what its
directives name. -/
def TypeDecl.mentions (t : TypeDecl) : List String :=
  t.base.toList ++ t.properties.flatMap Property.mentions
    ++ t.directives.flatMap fun e => e.directive.operands

namespace Schema

/-- The paths of types that a schema mentions. -/
def mentions (s : Schema) : List String := s.types.toList.flatMap TypeDecl.mentions

/-- The schema with more types. -/
def extend (s : Schema) (extra : List TypeDecl) : Schema :=
  { s with types := extra.foldl Catalog.insert s.types }

/-- The schema has no type at the path of one of these and mentions none of these paths. -/
def Foreign (s : Schema) (extra : List TypeDecl) : Prop :=
  ∀ t ∈ extra, s.hasType t.path = false ∧ t.path ∉ s.mentions

instance (s : Schema) (extra : List TypeDecl) : Decidable (s.Foreign extra) :=
  inferInstanceAs (Decidable (∀ t ∈ extra, s.hasType t.path = false ∧ t.path ∉ s.mentions))

end Schema

/-- A path is not one of these types. -/
def isOutside (extra : List TypeDecl) (path : String) : Bool :=
  !(extra.map TypeDecl.path).contains path

theorem isOutside_iff {extra : List TypeDecl} {path : String} :
    isOutside extra path = true ↔ ∀ t ∈ extra, t.path ≠ path := by
  simp [isOutside]

/-! ## 2. Extended schemas -/

namespace Schema

variable {s : Schema} {extra : List TypeDecl} {path : String}

theorem type?_extend (h : isOutside extra path = true) :
    (s.extend extra).type? path = s.type? path :=
  Catalog.find?_foldl_insert (isOutside_iff.mp h) s.types

theorem hasType_extend (h : isOutside extra path = true) :
    (s.extend extra).hasType path = s.hasType path := congrArg Option.isSome (type?_extend h)

namespace Foreign

variable (h : s.Foreign extra)

include h

theorem isOutside_of_hasType (hp : s.hasType path = true) : isOutside extra path = true :=
  isOutside_iff.mpr fun t ht heq => by
    rw [← heq, (h t ht).1] at hp
    cases hp

theorem isOutside_of_mem {t : TypeDecl} (ht : t ∈ s.types.toList) :
    isOutside extra t.path = true := by
  refine h.isOutside_of_hasType ?_
  rw [hasType, type?, Catalog.mem_iff_find?.mp ht]
  rfl

theorem isOutside_of_mentions (hp : path ∈ s.mentions) : isOutside extra path = true :=
  isOutside_iff.mpr fun t ht heq => (h t ht).2 (heq ▸ hp)

/-- **The old types are those of the extended schema that are not new**, in the same order. -/
theorem filter_types_extend :
    (s.extend extra).types.toList.filter (fun t => isOutside extra t.path) = s.types.toList := by
  have hnew : ∀ t ∈ extra, isOutside extra t.path = false := fun t ht =>
    (Bool.not_eq_false' _).mpr (List.contains_iff_mem.mpr (List.mem_map_of_mem ht))
  rw [extend, Catalog.filter_foldl_insert hnew]
  exact List.filter_eq_self.mpr fun t ht => h.isOutside_of_mem ht

/-- **The extended schema says of the old types what the old one said.** -/
theorem agreesOn : s.AgreesOn (fun p => isOutside extra p = true) (s.extend extra) where
  types _ hp := type?_extend hp
  resolvers := rfl
  size := by
    conv => lhs; rw [← h.filter_types_extend]
    exact List.length_filter_le _ _
  bases t ht p hp := h.isOutside_of_mentions <| List.mem_flatMap.mpr
    ⟨t, ht, List.mem_append_left _ (List.mem_append_left _ (Option.mem_toList.mpr hp))⟩
  properties t ht p hp := by
    have hmentions : ∀ q ∈ p.mentions, isOutside extra q = true := fun q hq =>
      h.isOutside_of_mentions <| List.mem_flatMap.mpr ⟨t, ht, List.mem_append_left _
        (List.mem_append_right _ (List.mem_flatMap.mpr ⟨p, hp, hq⟩))⟩
    refine ⟨fun q hq => hmentions q (List.mem_append_left _ hq), fun e he q hq => ?_⟩
    exact hmentions q (List.mem_append_right _ (List.mem_flatMap.mpr ⟨e, he, hq⟩))

end Foreign

end Schema

end TypeMapper
