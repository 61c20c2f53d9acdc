import Mathlib.Data.List.Basic
import TypeMapper.Artifact
/-!
# The paths that code spells

The imports of a module go by the paths that are listed for its routines, while the paths themselves
are written where the code of a routine has a type, the owner of a method or a literal. Both are
said apart here, and the list has exactly what is written.

* `TypeSpelling.Spells`, `Value.Spells`: a path stands somewhere in a type or in an expression.
* `Value.mem_paths_iff`: the paths that are listed are those that stand there.
* `MappingModule.Spells`, `MappingModule.mem_paths_iff`: the same of a module.
* `MappingModule.mem_importPaths_iff`: the paths that are imported are those that are spelled bare.
-/

namespace TypeMapper

variable {p : PathSpelling}

/-! ## 1. Types -/

/-- The path stands in the type, at any depth. -/
inductive TypeSpelling.Spells (p : PathSpelling) : TypeSpelling → Prop where
  | named : Spells p (.named p)
  | boxed {e : TypeSpelling} (h : Spells p e) : Spells p (.boxedSlice e)
  | entry {e : TypeSpelling} (h : Spells p e) : Spells p (.vector e)
  | key {kind : MapKind} {k v : TypeSpelling} (h : Spells p k) : Spells p (.map kind k v)
  | value {kind : MapKind} {k v : TypeSpelling} (h : Spells p v) : Spells p (.map kind k v)
  | part {es : List TypeSpelling} {e : TypeSpelling} (he : e ∈ es) (h : Spells p e) :
      Spells p (.tuple es)
  | present {t : TypeSpelling} (h : Spells p t) : Spells p (.optional t)

namespace TypeSpelling

mutual

/-- **The paths that are listed for a type** stand in it. -/
theorem mem_paths_iff : ∀ t : TypeSpelling, p ∈ t.paths ↔ t.Spells p
  | .scalar _ => ⟨fun h => absurd h List.not_mem_nil, nofun⟩
  | .named _ => ⟨fun h => List.mem_singleton.mp h ▸ .named, fun | .named => .head _⟩
  | .boxedSlice e => (mem_paths_iff e).trans ⟨.boxed, fun | .boxed h => h⟩
  | .vector e => (mem_paths_iff e).trans ⟨.entry, fun | .entry h => h⟩
  | .map _ k v => by
      rw [paths, List.mem_append, mem_paths_iff k, mem_paths_iff v]
      exact ⟨fun h => h.elim .key .value, fun | .key h => .inl h | .value h => .inr h⟩
  | .tuple es => by
      rw [paths, mem_pathsOf_iff es]
      exact ⟨fun ⟨_, he, h⟩ => .part he h, fun | .part he h => ⟨_, he, h⟩⟩
  | .optional t => (mem_paths_iff t).trans ⟨.present, fun | .present h => h⟩

theorem mem_pathsOf_iff : ∀ ts : List TypeSpelling, p ∈ pathsOf ts ↔ ∃ t ∈ ts, t.Spells p
  | [] => by simp [pathsOf]
  | t :: ts => by
      rw [pathsOf, List.mem_append, mem_paths_iff t, mem_pathsOf_iff ts, List.exists_mem_cons_iff]

end

end TypeSpelling

/-! ## 2. Expressions -/

/-- The path stands in the expression: before the name of a method, in a type that a resolver
converts from or to, or before the fields of a literal. -/
inductive Value.Spells (p : PathSpelling) : Value → Prop where
  | owner {name : String} {subject : Subject} {arguments : List String} {isAsync optional : Bool} :
      Spells p (.method p name subject arguments isAsync optional)
  | input {input output : TypeSpelling} {resolver : String} {subject : Subject}
      {isAsync optional : Bool} (h : input.Spells p) :
      Spells p (.resolve input output resolver subject isAsync optional)
  | output {input output : TypeSpelling} {resolver : String} {subject : Subject}
      {isAsync optional : Bool} (h : output.Spells p) :
      Spells p (.resolve input output resolver subject isAsync optional)
  | type {fields : List (String × Value)} {isOpen : Bool} : Spells p (.construct p fields isOpen)
  | field {type : PathSpelling} {fields : List (String × Value)} {isOpen : Bool} {name : String}
      {v : Value} (hf : (name, v) ∈ fields) (h : Spells p v) :
      Spells p (.construct type fields isOpen)
  | present {v : Value} (h : Spells p v) : Spells p (.present v)
  | orStandard {v : Value} (h : Spells p v) : Spells p (.orStandard v)
  | required {v : Value} (h : Spells p v) : Spells p (.required v)
  | case {place : Place} {binding : String} {v otherwise : Value} (h : Spells p v) :
      Spells p (.cases place binding v otherwise)
  | otherwise {place : Place} {binding : String} {v otherwise : Value} (h : Spells p otherwise) :
      Spells p (.cases place binding v otherwise)
  | mapped {place : Place} {binding : String} {v : Value} (h : Spells p v) :
      Spells p (.mapped place binding v)
  | chained {place : Place} {binding : String} {v : Value} (h : Spells p v) :
      Spells p (.chained place binding v)
  | each {items : Items} {binding : String} {v : Value} {target : CollectionKind} {g : Gathering}
      (h : Spells p v) : Spells p (.each items binding v target g)
  | key {place : Place} {kb vb : String} {k v : Value} {target : MapKind} {g : Gathering}
      (h : Spells p k) : Spells p (.entries place kb vb k v target g)
  | value {place : Place} {kb vb : String} {k v : Value} {target : MapKind} {g : Gathering}
      (h : Spells p v) : Spells p (.entries place kb vb k v target g)
  | part {vs : List Value} {v : Value} (hv : v ∈ vs) (h : Spells p v) : Spells p (.tuple vs)
  | inlined {target : MappingId} {depth : Nat} {binding : String} {input : Place} {v : Value}
      (h : Spells p v) : Spells p (.inlined target depth binding input v)

namespace Value

mutual

/-- **The paths that are listed for an expression** stand in it. -/
theorem mem_paths_iff : ∀ v : Value, p ∈ v.paths ↔ v.Spells p
  | .method .. => ⟨fun h => List.mem_singleton.mp h ▸ .owner, fun | .owner => .head _⟩
  | .resolve input output .. => by
      rw [paths, List.mem_append, input.mem_paths_iff, output.mem_paths_iff]
      exact ⟨fun h => h.elim .input .output, fun | .input h => .inl h | .output h => .inr h⟩
  | .construct type fields _ => by
      rw [paths, List.mem_cons, mem_fieldPaths_iff fields]
      constructor
      · rintro (rfl | ⟨_, hf, h⟩)
        · exact .type
        · exact .field hf h
      · exact fun | .type => .inl rfl | .field hf h => .inr ⟨_, hf, h⟩
  | .present v => (mem_paths_iff v).trans ⟨.present, fun | .present h => h⟩
  | .orStandard v => (mem_paths_iff v).trans ⟨.orStandard, fun | .orStandard h => h⟩
  | .required v => (mem_paths_iff v).trans ⟨.required, fun | .required h => h⟩
  | .cases _ _ v otherwise => by
      rw [paths, List.mem_append, mem_paths_iff v, mem_paths_iff otherwise]
      exact ⟨fun h => h.elim .case .otherwise, fun | .case h => .inl h | .otherwise h => .inr h⟩
  | .mapped _ _ v => (mem_paths_iff v).trans ⟨.mapped, fun | .mapped h => h⟩
  | .chained _ _ v => (mem_paths_iff v).trans ⟨.chained, fun | .chained h => h⟩
  | .each _ _ v _ _ => (mem_paths_iff v).trans ⟨.each, fun | .each h => h⟩
  | .entries _ _ _ k v _ _ => by
      rw [paths, List.mem_append, mem_paths_iff k, mem_paths_iff v]
      exact ⟨fun h => h.elim .key .value, fun | .key h => .inl h | .value h => .inr h⟩
  | .tuple vs => by
      rw [paths, mem_pathsOf_iff vs]
      exact ⟨fun ⟨_, hv, h⟩ => .part hv h, fun | .part hv h => ⟨_, hv, h⟩⟩
  | .inlined _ _ _ _ v => (mem_paths_iff v).trans ⟨.inlined, fun | .inlined h => h⟩
  | .read .. | .absent | .standard | .fail _ | .dropEntry | .delegate .. | .copies .. =>
      ⟨fun h => absurd h List.not_mem_nil, nofun⟩

theorem mem_pathsOf_iff : ∀ vs : List Value, p ∈ pathsOf vs ↔ ∃ v ∈ vs, v.Spells p
  | [] => by simp [pathsOf]
  | v :: vs => by
      rw [pathsOf, List.mem_append, mem_paths_iff v, mem_pathsOf_iff vs, List.exists_mem_cons_iff]

theorem mem_fieldPaths_iff : ∀ fields : List (String × Value),
    p ∈ fieldPaths fields ↔ ∃ f ∈ fields, f.2.Spells p
  | [] => by simp [fieldPaths]
  | (_, v) :: fields => by
      rw [fieldPaths, List.mem_append, mem_paths_iff v, mem_fieldPaths_iff fields,
        List.exists_mem_cons_iff]

end

end Value

/-! ## 3. Routines -/

/-- The path stands in the routine: in its head, in the bindings of its resolvers, or in the
destination that it makes. -/
def PrimaryRoutine.Spells (r : PrimaryRoutine) (p : PathSpelling) : Prop :=
  p = r.source ∨ p = r.destination ∨ (∃ x ∈ r.parameters, x.2.Spells p) ∨
    (∃ b ∈ r.resolvers, b.type = p) ∨ r.literal.Spells p

/-- The path stands in the head of the routine over a sequence. -/
def SequenceRoutine.Spells (r : SequenceRoutine) (p : PathSpelling) : Prop :=
  p = r.source ∨ p = r.destination ∨ ∃ x ∈ r.parameters, x.2.Spells p

/-- The path stands in the projection. -/
def Projection.Spells (r : Projection) (p : PathSpelling) : Prop :=
  p = r.source ∨ p = r.destination ∨ r.body.Spells p

theorem mem_parameterPaths_iff {ps : List (String × TypeSpelling)} :
    p ∈ ps.flatMap (fun x => x.2.paths) ↔ ∃ x ∈ ps, x.2.Spells p := by
  simp only [List.mem_flatMap, TypeSpelling.mem_paths_iff]

theorem PrimaryRoutine.mem_paths_iff {r : PrimaryRoutine} : p ∈ r.paths ↔ r.Spells p := by
  simp only [paths, Spells, List.mem_append, List.mem_cons, List.mem_map, mem_parameterPaths_iff,
    Value.mem_paths_iff, or_assoc]

theorem SequenceRoutine.mem_paths_iff {r : SequenceRoutine} : p ∈ r.paths ↔ r.Spells p := by
  simp only [paths, Spells, List.mem_cons, mem_parameterPaths_iff]

theorem Projection.mem_paths_iff {r : Projection} : p ∈ r.paths ↔ r.Spells p := by
  simp only [paths, Spells, List.mem_cons, Value.mem_paths_iff]

namespace MappingModule

/-- The path stands in a routine of the module. -/
def Spells (k : MappingModule) (p : PathSpelling) : Prop :=
  k.primary.Spells p ∨ (∃ r ∈ k.sequence, r.Spells p) ∨ ∃ r ∈ k.projection, r.Spells p

variable {k : MappingModule}

/-- **The paths that are listed for a module** stand in one of its routines. -/
theorem mem_paths_iff : p ∈ k.paths ↔ k.Spells p := by
  have hsequence : p ∈ (k.sequence.map SequenceRoutine.paths).getD [] ↔
      ∃ r ∈ k.sequence, r.Spells p := by
    cases k.sequence <;> simp [SequenceRoutine.mem_paths_iff]
  have hprojection : p ∈ (k.projection.map Projection.paths).getD [] ↔
      ∃ r ∈ k.projection, r.Spells p := by
    cases k.projection <;> simp [Projection.mem_paths_iff]
  rw [paths, List.mem_append, List.mem_append, PrimaryRoutine.mem_paths_iff, hsequence, hprojection,
    or_assoc]
  rfl

/-- **The paths that are imported** are those that are spelled bare. -/
theorem mem_importPaths_iff {q : String} :
    q ∈ importPaths k.paths ↔ ∃ name, k.Spells (.imported q name) := by
  rw [importPaths, Text.mem_distinct, List.mem_filterMap]
  constructor
  · rintro ⟨r, hr, hq⟩
    cases r with
    | imported path name =>
        obtain rfl := Option.some.inj hq
        exact ⟨name, mem_paths_iff.mp hr⟩
    | qualified code => cases hq
  · rintro ⟨name, h⟩
    exact ⟨_, mem_paths_iff.mpr h, rfl⟩

end MappingModule

end TypeMapper
