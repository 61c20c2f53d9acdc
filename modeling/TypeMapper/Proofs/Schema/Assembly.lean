import TypeMapper.Generation
import TypeMapper.Proofs.Catalog
import TypeMapper.Proofs.Schema.Snapshot
/-!
# How a schema is put together

A schema grows from nothing or from the lists of a snapshot by entering types and resolvers. An
entry replaces an older one under its path, and the entries stand in the order of their paths. So
neither the order of entering nor anything replaced leaves a trace: the last type and the last
resolver under each path decide what a run of the generator gives.

* `Assembly`, `Assembly.schema`: the ways to put a schema together.
* `Assembly.schema_eq_ofLists`: each of them enters two lists.
* `Assembly.Agrees`: two ways end with the same declaration under every path.
* `Assembly.schema_eq_iff`: that is when they make the same schema.
-/

namespace TypeMapper

/-! ## 1. Entering declarations -/

namespace Schema

/-- Enter a type in place of one of its path. -/
def insertType (s : Schema) (t : TypeDecl) : Schema := { s with types := s.types.insert t }

/-- Enter a resolver in place of one of its path. -/
def insertResolver (s : Schema) (r : Resolver) : Schema :=
  { s with resolvers := s.resolvers.insert r }

end Schema

/-- A way to put a schema together: from nothing or from the lists of a snapshot, by entering
declarations one after the other. -/
inductive Assembly where
  | new
  | snapshot (types : List TypeDecl) (resolvers : List Resolver)
  | insertType (a : Assembly) (t : TypeDecl)
  | insertResolver (a : Assembly) (r : Resolver)

namespace Assembly

/-- The schema that comes out. -/
def schema : Assembly → Schema
  | new => Schema.empty
  | snapshot types resolvers => Schema.ofLists types resolvers
  | insertType a t => a.schema.insertType t
  | insertResolver a r => a.schema.insertResolver r

/-- The types in the order of entering, replaced ones too. -/
def types : Assembly → List TypeDecl
  | new => []
  | snapshot types _ => types
  | insertType a t => a.types ++ [t]
  | insertResolver a _ => a.types

/-- The resolvers in the order of entering, replaced ones too. -/
def resolvers : Assembly → List Resolver
  | new => []
  | snapshot _ resolvers => resolvers
  | insertType a _ => a.resolvers
  | insertResolver a r => a.resolvers ++ [r]

/-- Whatever the steps were, the schema is that of the two lists. -/
theorem schema_eq_ofLists (a : Assembly) : a.schema = Schema.ofLists a.types a.resolvers := by
  induction a with
  | new => rfl
  | snapshot types resolvers => rfl
  | insertType a t ih =>
      rw [schema, ih, Schema.insertType, Schema.ofLists, types, Schema.ofLists,
        Catalog.insert_ofList]
      rfl
  | insertResolver a r ih =>
      rw [schema, ih, Schema.insertResolver, Schema.ofLists, resolvers, Schema.ofLists,
        Catalog.insert_ofList]
      rfl

/-! ## 2. Agreement -/

/-- The type entered last under a path. -/
def lastType? (a : Assembly) (path : String) : Option TypeDecl :=
  Catalog.last? TypeDecl.path a.types path

/-- The resolver entered last under a path. -/
def lastResolver? (a : Assembly) (path : String) : Option Resolver :=
  Catalog.last? Resolver.path a.resolvers path

/-- Two ways agree on the last declaration of each kind under every path. -/
structure Agrees (a b : Assembly) : Prop where
  types : ∀ path, a.lastType? path = b.lastType? path
  resolvers : ∀ path, a.lastResolver? path = b.lastResolver? path

/-- The schema has under a path what was entered there last. -/
theorem type?_schema (a : Assembly) (path : String) : a.schema.type? path = a.lastType? path := by
  rw [schema_eq_ofLists]
  exact Catalog.find?_ofList a.types path

theorem resolver?_schema (a : Assembly) (path : String) :
    a.schema.resolver? path = a.lastResolver? path := by
  rw [schema_eq_ofLists]
  exact Catalog.find?_ofList a.resolvers path

/-- **Ways that agree make one schema, and only those do.** -/
theorem schema_eq_iff {a b : Assembly} : a.schema = b.schema ↔ a.Agrees b := by
  constructor
  · intro h
    refine ⟨fun path => ?_, fun path => ?_⟩
    · rw [← type?_schema, h, type?_schema]
    · rw [← resolver?_schema, h, resolver?_schema]
  · rintro ⟨htypes, hresolvers⟩
    rw [schema_eq_ofLists, schema_eq_ofLists]
    have ht := Catalog.ofList_eq_iff.mpr htypes
    have hr := Catalog.ofList_eq_iff.mpr hresolvers
    rw [Schema.ofLists, ht, hr, Schema.ofLists]

/-- **The order of declarations under distinct paths does not count.** -/
theorem agrees_of_perm {a b : Assembly} (htypes : a.types.Perm b.types)
    (hresolvers : a.resolvers.Perm b.resolvers) (ht : (a.types.map TypeDecl.path).Nodup)
    (hr : (a.resolvers.map Resolver.path).Nodup) : a.Agrees b :=
  ⟨Catalog.last?_of_perm htypes ht, Catalog.last?_of_perm hresolvers hr⟩

/-! ## 3. Runs -/

/-- **A run depends on the last declarations alone.** Schemas put together in two ways that agree
have the same artifacts and the same reports with all settings, or no run on either succeeds, for
the same reason. -/
theorem generate_eq_of_agrees {a b : Assembly} (h : a.Agrees b) (c : Config) :
    generate a.schema c = generate b.schema c := by
  rw [schema_eq_iff.mpr h]

/-- A cat and a house step by step; the view of the cat is entered wrongly at first, and that of the
house never. -/
def mended : Assembly :=
  (((new.insertType (type "view::Cat" none "u8")).insertType
    (type "model::Cat" (some "view::Cat") "String")).insertResolver
    ⟨"text::Upper", [], .scalar "u8" true false, .scalar "u8" true false, false⟩).insertType
    (type "view::Cat" none "String")
  |>.insertType (type "model::House" (some "view::House") "String")
where
  /-- A type with a name that may be mapped to another. -/
  type (path : String) (view : Option String) (ty : String) : TypeDecl :=
    ⟨path, none, false, true, [⟨"name", .scalar ty false false, false, ⟨true, true⟩, []⟩],
      view.toList.map fun d => ⟨.mapTo d, none⟩, []⟩

/-- The same declarations in a snapshot, in another order and without the mistake. -/
def listed : Assembly :=
  snapshot
    [mended.type "model::House" (some "view::House") "String",
      mended.type "model::Cat" (some "view::Cat") "String",
      mended.type "view::Cat" none "String"]
    [⟨"text::Upper", [], .scalar "u8" true false, .scalar "u8" true false, false⟩]

theorem generate_eq_of_agrees_mended :
    mended.types.map TypeDecl.path ≠ listed.types.map TypeDecl.path ∧ mended.Agrees listed ∧
    generate mended.schema Config.standard = generate listed.schema Config.standard ∧
    ((generate listed.schema Config.standard).toOption.map fun g =>
      (g.artifacts.map Artifact.name, g.diagnostics.length)) = some (["cat_to_cat"], 1) := by
  have hagrees : mended.Agrees listed := schema_eq_iff.mp (by decide +kernel)
  exact ⟨by decide +kernel, hagrees, generate_eq_of_agrees hagrees Config.standard,
    by decide +kernel⟩

end Assembly

/-! ## 4. Runs on texts -/

namespace Schema

/-- A snapshot is read by entering the declarations of its lists. -/
theorem ofText_eq_snapshot {text : String} {types : List TypeDecl} {resolvers : List Resolver}
    (h : Json.decodeText decodeLists text = .ok (types, resolvers)) :
    ofText text = .ok (Assembly.snapshot types resolvers).schema := by
  obtain ⟨hlists, htrailing⟩ := Json.decodeText_eq_ok_iff.mp h
  refine Json.decodeText_eq_ok_iff.mpr ⟨?_, htrailing⟩
  rw [decode, hlists]
  rfl

end Schema

/-- Snapshots whose lists agree give one result. -/
theorem generateFromTexts_eq_of_agrees {t t' : String} {types types' : List TypeDecl}
    {resolvers resolvers' : List Resolver}
    (ht : Json.decodeText Schema.decodeLists t = .ok (types, resolvers))
    (ht' : Json.decodeText Schema.decodeLists t' = .ok (types', resolvers'))
    (h : (Assembly.snapshot types resolvers).Agrees (.snapshot types' resolvers'))
    (f : ConfigFile) : generateFromTexts (some t) f = generateFromTexts (some t') f := by
  have hschema : Schema.ofText t = Schema.ofText t' := by
    rw [Schema.ofText_eq_snapshot ht, Schema.ofText_eq_snapshot ht',
      Assembly.schema_eq_iff.mpr h]
  rw [generateFromTexts, generateFromTexts, hschema]

end TypeMapper
