import TypeMapper.Proofs.ErrorTree
import TypeMapper.Proofs.Schema.Cycles
/-!
# Which schemas are accepted

Problems are collected in trees below trees, and an empty tree leaves no trace. A tree is empty if
and only if nothing was put into it, so a schema is accepted if and only if each of its
declarations, on its own, is without problems. What that means is said here without trees, messages
and fuel.

* `TypeRef.Mentions`, `Schema.Writes`: the objects inside a type, and the places that hold a type.
* `Schema.WellFormed`: the contract of a schema.
* `Schema.validate_eq_ok_iff`: the schemas accepted are the well-formed ones.
-/

namespace TypeMapper

/-! ## 1. What a schema has to be -/

/-- An object of the path stands in a type, at some depth. -/
inductive TypeRef.Mentions (path : String) : TypeRef → Prop where
  | object {n : Bool} : Mentions path (.object path n)
  | element {k : CollectionKind} {e : TypeRef} {n : Bool} :
      Mentions path e → Mentions path (.collection k e n)
  | key {k : MapKind} {a b : TypeRef} {n : Bool} : Mentions path a → Mentions path (.map k a b n)
  | value {k : MapKind} {a b : TypeRef} {n : Bool} : Mentions path b → Mentions path (.map k a b n)
  | part {es : List TypeRef} {t : TypeRef} {n : Bool} :
      t ∈ es → Mentions path t → Mentions path (.tuple es n)

namespace Schema

/-- A type stands at one of the places where a schema holds types. -/
inductive Writes (s : Schema) : TypeRef → Prop where
  | property {t : TypeDecl} {p : Property} :
      t ∈ s.types.toList → p ∈ t.properties → Writes s p.ty
  | parameter {t : TypeDecl} {m : Method} {p : Parameter} :
      t ∈ s.types.toList → m ∈ t.methods → p ∈ m.parameters → Writes s p.ty
  | returns {t : TypeDecl} {m : Method} : t ∈ s.types.toList → m ∈ t.methods → Writes s m.returns
  | source {r : Resolver} : r ∈ s.resolvers.toList → Writes s r.source
  | destination {r : Resolver} : r ∈ s.resolvers.toList → Writes s r.destination
  | constructorParameter {r : Resolver} {p : Parameter} :
      r ∈ s.resolvers.toList → p ∈ r.parameters → Writes s p.ty

/-- The contract of a schema. Names of methods and of their parameters may be empty. -/
structure WellFormed (s : Schema) : Prop where
  typePath : ∀ t ∈ s.types.toList, t.path ≠ ""
  base : ∀ t ∈ s.types.toList, ∀ b, t.base = some b → s.Declares b
  propertyName : ∀ t ∈ s.types.toList, ∀ p ∈ t.properties, p.name ≠ ""
  subject : ∀ t ∈ s.types.toList, ∀ m ∈ t.methods, ∃ p, m.subject? = some p
  resolverPath : ∀ r ∈ s.resolvers.toList, r.path ≠ ""
  parameterName : ∀ r ∈ s.resolvers.toList, ∀ p ∈ r.parameters, p.name ≠ ""
  objects : ∀ t, s.Writes t → ∀ path, t.Mentions path → s.Declares path
  acyclic : ∀ path, ¬ Relation.TransGen s.Extends path path

end Schema

/-! ## 2. The problems of one place -/

namespace TypeRef

mutual

/-- The paths listed are those of the objects at any depth. -/
theorem mem_objectPaths_iff {path : String} : ∀ t : TypeRef,
    path ∈ t.objectPaths ↔ t.Mentions path
  | .scalar .. => ⟨fun h => absurd h List.not_mem_nil, fun h => nomatch h⟩
  | .object .. => ⟨fun h => List.mem_singleton.mp h ▸ .object, fun | .object => .head _⟩
  | .collection _ e _ =>
      (mem_objectPaths_iff e).trans ⟨.element, fun | .element h => h⟩
  | .map _ a b _ => by
      rw [objectPaths, List.mem_append, mem_objectPaths_iff a, mem_objectPaths_iff b]
      exact ⟨fun h => h.elim .key .value, fun | .key h => .inl h | .value h => .inr h⟩
  | .tuple es _ => by
      rw [objectPaths, mem_objectPathsOf_iff es]
      exact ⟨fun ⟨_, ht, h⟩ => .part ht h, fun | .part ht h => ⟨_, ht, h⟩⟩

theorem mem_objectPathsOf_iff {path : String} : ∀ ts : List TypeRef,
    path ∈ objectPathsOf ts ↔ ∃ t ∈ ts, t.Mentions path
  | [] => by simp [objectPathsOf]
  | t :: ts => by
      rw [objectPathsOf, List.mem_append, mem_objectPaths_iff t, mem_objectPathsOf_iff ts,
        List.exists_mem_cons_iff]

end

end TypeRef

namespace Schema

variable {s : Schema}

/-- The schema declares all objects in a type. -/
def Knows (s : Schema) (t : TypeRef) : Prop := ∀ path, t.Mentions path → s.Declares path

theorem unknownObjects_eq_nil_iff {t : TypeRef} : s.unknownObjects t = [] ↔ s.Knows t := by
  simp only [unknownObjects, List.map_eq_nil_iff, List.filter_eq_nil_iff, Bool.not_eq_true',
    Bool.not_eq_false, hasType_iff, TypeRef.mem_objectPaths_iff, Knows]

theorem messageIf_eq_nil_iff {c : Bool} {m : String} : messageIf c m = [] ↔ c = false := by
  cases c <;> simp [messageIf]

theorem isEmpty_placeTree (ms : List String) : (placeTree ms).isEmpty = true ↔ ms = [] := by
  simp [placeTree, ErrorTree.isEmpty, ErrorTree.areEmpty]

theorem propertyProblems_isEmpty_iff {p : Property} :
    (s.propertyProblems p).isEmpty = true ↔ p.name ≠ "" ∧ s.Knows p.ty := by
  simp [propertyProblems, isEmpty_placeTree, messageIf_eq_nil_iff, unknownObjects_eq_nil_iff]

theorem methodProblems_isEmpty_iff {m : Method} : (s.methodProblems m).isEmpty = true ↔
    (∀ p ∈ m.parameters, s.Knows p.ty) ∧ s.Knows m.returns := by
  simp [methodProblems, isEmpty_placeTree, unknownObjects_eq_nil_iff]

theorem unknownBase_eq_nil_iff {t : TypeDecl} :
    s.unknownBase t = [] ↔ ∀ b, t.base = some b → s.Declares b := by
  unfold unknownBase
  cases t.base with
  | none => simp
  | some b => simp [messageIf_eq_nil_iff, hasType_iff]

theorem isEmpty_addMethod (errs : ErrorTree) (m : Method) : (s.addMethod errs m).isEmpty =
    (errs.isEmpty && (m.subject?.isSome && (s.methodProblems m).isEmpty)) := by
  rw [addMethod, ErrorTree.isEmpty_addFor]
  cases m.subject? with
  | none => simp [ErrorTree.isEmpty_add]
  | some p => simp

theorem typeProblems_isEmpty_iff {t : TypeDecl} : (s.typeProblems t).isEmpty = true ↔
    (t.path ≠ "" ∧ ∀ b, t.base = some b → s.Declares b) ∧
    (∀ p ∈ t.properties, p.name ≠ "" ∧ s.Knows p.ty) ∧
    ∀ m ∈ t.methods, (∃ p, m.subject? = some p) ∧
      (∀ p ∈ m.parameters, s.Knows p.ty) ∧ s.Knows m.returns := by
  rw [typeProblems, ErrorTree.isEmpty_foldl isEmpty_addMethod,
    ErrorTree.isEmpty_foldl_addFor]
  simp [isEmpty_placeTree, messageIf_eq_nil_iff, unknownBase_eq_nil_iff,
    propertyProblems_isEmpty_iff, methodProblems_isEmpty_iff, Option.isSome_iff_exists, and_assoc]

theorem resolverProblems_isEmpty_iff {r : Resolver} : (s.resolverProblems r).isEmpty = true ↔
    r.path ≠ "" ∧ s.Knows r.source ∧ s.Knows r.destination ∧
    ∀ p ∈ r.parameters, p.name ≠ "" ∧ s.Knows p.ty := by
  simp [resolverProblems, isEmpty_placeTree, messageIf_eq_nil_iff, unknownObjects_eq_nil_iff]

/-! ## 3. The problems of a schema -/

/-- No problem is lost between the declarations and the schema. -/
theorem problems_isEmpty_iff : s.problems.isEmpty = true ↔
    (∀ t ∈ s.types.toList, (s.typeProblems t).isEmpty = true) ∧
    (∀ r ∈ s.resolvers.toList, (s.resolverProblems r).isEmpty = true) ∧ s.cycleMessages = [] := by
  rw [problems, ErrorTree.isEmpty_foldl fun errs m =>
      (ErrorTree.isEmpty_add errs m).trans (Bool.and_false _).symm,
    ErrorTree.isEmpty_foldl_addFor, ErrorTree.isEmpty_foldl_addFor]
  simp [List.eq_nil_iff_forall_not_mem, and_assoc]

/-- **The schemas accepted are the well-formed ones.** -/
theorem validate_eq_ok_iff : s.validate = .ok () ↔ s.WellFormed := by
  rw [validate, ErrorTree.result_eq_ok_iff, problems_isEmpty_iff]
  simp only [typeProblems_isEmpty_iff, resolverProblems_isEmpty_iff, cycleMessages_eq_nil_iff]
  constructor
  · rintro ⟨ht, hr, hc⟩
    exact {
      typePath := fun t h => (ht t h).1.1
      base := fun t h => (ht t h).1.2
      propertyName := fun t h p hp => ((ht t h).2.1 p hp).1
      subject := fun t h m hm => ((ht t h).2.2 m hm).1
      resolverPath := fun r h => (hr r h).1
      parameterName := fun r h p hp => ((hr r h).2.2.2 p hp).1
      objects := fun _ hw => match hw with
        | .property h hp => ((ht _ h).2.1 _ hp).2
        | .parameter h hm hp => ((ht _ h).2.2 _ hm).2.1 _ hp
        | .returns h hm => ((ht _ h).2.2 _ hm).2.2
        | .source h => (hr _ h).2.1
        | .destination h => (hr _ h).2.2.1
        | .constructorParameter h hp => ((hr _ h).2.2.2 _ hp).2
      acyclic := hc }
  · intro w
    refine ⟨fun t h => ⟨⟨w.typePath t h, w.base t h⟩, fun p hp => ?_, fun m hm => ?_⟩,
      fun r h => ⟨w.resolverPath r h, ?_, ?_, fun p hp => ?_⟩, w.acyclic⟩
    · exact ⟨w.propertyName t h p hp, w.objects _ (.property h hp)⟩
    · exact ⟨w.subject t h m hm, fun p hp => w.objects _ (.parameter h hm hp),
        w.objects _ (.returns h hm)⟩
    · exact w.objects _ (.source h)
    · exact w.objects _ (.destination h)
    · exact ⟨w.parameterName r h p hp, w.objects _ (.constructorParameter h hp)⟩

end Schema

end TypeMapper
