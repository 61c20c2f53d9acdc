import TypeMapper.Diagnostic
import TypeMapper.Mapping.Property
/-!
# Mappings

A mapping converts one type into another. It knows how each property is filled, which resolvers its
routine builds, which parameters they need and what was reported about it.

* `EntryParameter`: an extra parameter of a routine; `EntryParameter.sameKey` is its identity.
* `Mapping`: a mapping; its position in an arena is its id.
* `Mapping.targets`: the mappings it delegates to; `Mapping.isValid`: nothing wrong was reported.
-/

namespace TypeMapper

/-! ## 1. Parameters and resolvers -/

/-- An extra parameter: its name in the routine, the name its helper knows it by, and its type. -/
structure EntryParameter where
  name : String
  localName : String
  ty : TypeRef
  deriving DecidableEq, Repr, Inhabited

namespace EntryParameter

/-- The parameter under the name its helper knows it by. -/
def ofLocal (localName : String) (ty : TypeRef) : EntryParameter := ⟨localName, localName, ty⟩

/-- The identity of a parameter: the name its helper knows it by, and its type. -/
def key (p : EntryParameter) : String × TypeRef := (p.localName, p.ty)

/-- Two parameters are one. -/
def sameKey (p q : EntryParameter) : Bool := p.key == q.key

/-- A list has the parameter, perhaps under another name. -/
def isIn (p : EntryParameter) (ps : List EntryParameter) : Bool := ps.any fun q => q.sameKey p

theorem isIn_iff {p : EntryParameter} {ps : List EntryParameter} :
    p.isIn ps = true ↔ ∃ q ∈ ps, q.key = p.key := by
  simp only [isIn, List.any_eq_true, sameKey, beq_iff_eq]

theorem isIn_of_mem {p : EntryParameter} {ps : List EntryParameter} (h : p ∈ ps) :
    p.isIn ps = true := isIn_iff.mpr ⟨p, h, rfl⟩

theorem isIn_mono {p : EntryParameter} {ps qs : List EntryParameter} (h : ps ⊆ qs)
    (hp : p.isIn ps = true) : p.isIn qs = true := by
  obtain ⟨q, hq, hk⟩ := isIn_iff.mp hp
  exact isIn_iff.mpr ⟨q, h hq, hk⟩

end EntryParameter

/-- A resolver that the routine builds once, with the parameters its constructor takes. -/
structure ResolverInstance where
  ident : String
  path : String
  arguments : List EntryParameter
  isAsync : Bool
  deriving DecidableEq, Repr, Inhabited

/-! ## 2. Mappings -/

/-- A mapping of one type into another. -/
structure Mapping where
  key : MappingKey
  /-- The index of the declaration. -/
  index : Option UInt32
  /-- The type that declares the mapping. -/
  declaredOn : String
  sourceByValue : Bool
  maxRecursionDepth : UInt32
  properties : List PropertyMapping
  resolvers : List ResolverInstance
  /-- The parameters of the mapping's own helpers. -/
  localParameters : List EntryParameter
  /-- The parameters of the routine, those of its delegates included. -/
  entryParameters : List EntryParameter
  isAsync : Bool
  /-- Destination properties that nothing fills. -/
  leftovers : List String
  /-- Source properties that fill nothing. -/
  unclaimed : List String
  diagnostics : List Diagnostic
  deriving DecidableEq, Repr, Inhabited

namespace Mapping

/-- A mapping of which only the declaration is known. -/
def declare (key : MappingKey) (index : Option UInt32) (declaredOn : String) : Mapping :=
  ⟨key, index, declaredOn, false, 0, [], [], [], [], false, [], [], []⟩

/-- The source type. -/
def source (m : Mapping) : String := m.key.source

/-- The destination type. -/
def destination (m : Mapping) : String := m.key.destination

/-- The strategies of all properties. -/
def strategies (m : Mapping) : List Strategy := m.properties.flatMap PropertyMapping.strategies

/-- The delegate calls of all properties. -/
def delegates (m : Mapping) : List DelegateCall := m.strategies.filterMap Strategy.delegate?

/-- Change every delegate call. -/
def mapDelegates (f : DelegateCall → DelegateCall) (m : Mapping) : Mapping :=
  { m with properties := m.properties.map (PropertyMapping.mapDelegates f) }

/-- Every delegate call has its target. -/
def isResolved (m : Mapping) : Bool := m.delegates.all DelegateCall.isBound

/-- The first occurrence of each member of a list. -/
def firsts : List MappingId → List MappingId
  | [] => []
  | x :: rest => x :: (firsts rest).filter (· != x)

/-- The mappings it delegates to, in the order of the properties, each once. -/
def targets (m : Mapping) : List MappingId := firsts (m.delegates.filterMap DelegateCall.target)

/-- No error was reported. -/
def isValid (m : Mapping) : Bool := !Diagnostic.hasErrors m.diagnostics

/-- The routine needs nothing but a source value. -/
def isParameterless (m : Mapping) : Bool := m.entryParameters.isEmpty

/-- Add reports. -/
def report (m : Mapping) (ds : List Diagnostic) : Mapping :=
  { m with diagnostics := m.diagnostics ++ ds }

/-- The delegate calls of a mapping whose delegate calls are changed. -/
theorem delegates_mapDelegates (f : DelegateCall → DelegateCall) (m : Mapping) :
    (m.mapDelegates f).delegates = m.delegates.map f := by
  unfold delegates strategies mapDelegates
  induction m.properties with
  | nil => rfl
  | cons p ps ih =>
    have h := PropertyMapping.delegates_mapDelegates f p
    simp only [PropertyMapping.delegates] at h
    simp only [List.map_cons, List.flatMap_cons, List.filterMap_append, List.map_append, h] at ih ⊢
    rw [ih]

theorem mem_firsts {x : MappingId} : ∀ {xs : List MappingId}, x ∈ firsts xs ↔ x ∈ xs
  | [] => by simp [firsts]
  | y :: rest => by
    have ih : x ∈ firsts rest ↔ x ∈ rest := mem_firsts
    by_cases h : x = y <;> simp [firsts, h, ih]

theorem nodup_firsts : ∀ xs : List MappingId, (firsts xs).Nodup
  | [] => by simp [firsts]
  | y :: rest => by
    have := nodup_firsts rest
    simp only [firsts, List.nodup_cons, List.mem_filter]
    exact ⟨by simp, this.filter _⟩

end Mapping

end TypeMapper
