import TypeMapper.Directive.Json
import TypeMapper.Schema.Basic
import TypeMapper.TypeRef.Json
/-!
# Schemas in JSON

A schema is written as two lists, of types and of resolvers, in the order of their paths. It is read
from two lists in any order; of two declarations under one path the later one counts.

* `Schema.toJson`, `Schema.decode`: the written form and its reader.
* `Schema.ofText`: a schema from the text of its written form.
-/

namespace TypeMapper

open Json

/-! ## 1. Writing -/

/-- The JSON form of an access. -/
def Access.toJson (a : Access) : Json := .obj [("get", .bool a.readable), ("set", .bool a.settable)]

/-- The JSON form of a property. -/
def Property.toJson (p : Property) : Json :=
  .obj ([("name", .str p.name), ("ty", p.ty.toJson), ("value_type", .bool p.byValue),
      ("access", p.access.toJson)]
    ++ Json.unlessEmpty "directives" DirectiveEntry.toJson p.directives)

/-- The JSON form of a parameter. -/
def Parameter.toJson (p : Parameter) : Json :=
  .obj [("name", .str p.name), ("ty", p.ty.toJson), ("has_default", .bool p.hasDefault)]

/-- The JSON form of a method. -/
def Method.toJson (m : Method) : Json :=
  .obj [("name", .str m.name), ("parameters", Json.list Parameter.toJson m.parameters),
    ("returns", m.returns.toJson), ("is_async", .bool m.isAsync)]

/-- The JSON form of a resolver. -/
def Resolver.toJson (r : Resolver) : Json :=
  .obj [("path", .str r.path), ("parameters", Json.list Parameter.toJson r.parameters),
    ("source", r.source.toJson), ("destination", r.destination.toJson),
    ("is_async", .bool r.isAsync)]

/-- The JSON form of a type. -/
def TypeDecl.toJson (t : TypeDecl) : Json :=
  .obj ([("path", .str t.path)] ++ Json.optional "base" .str t.base
    ++ [("value_type", .bool t.byValue), ("constructible", .bool t.constructible),
      ("properties", Json.list Property.toJson t.properties)]
    ++ Json.unlessEmpty "directives" DirectiveEntry.toJson t.directives
    ++ Json.unlessEmpty "methods" Method.toJson t.methods)

/-- The JSON form of a schema. -/
def Schema.toJson (s : Schema) : Json :=
  .obj [("types", Json.list TypeDecl.toJson s.types.toList),
    ("resolvers", Json.list Resolver.toJson s.resolvers.toList)]

/-! ## 2. Reading -/

/-- The reader of an access. -/
def Access.decode : Decoder Access :=
  Decoder.record "Access"
    [.must "get" Decoder.flag fun x a => { a with readable := x },
     .must "set" Decoder.flag fun x a => { a with settable := x }]
    .skip ⟨true, true⟩

/-- The reader of a property. -/
def Property.decode : Decoder Property :=
  Decoder.record "PropertyDescriptor"
    [.must "name" Decoder.text fun x p => { p with name := x },
     .must "ty" TypeRef.decode fun x p => { p with ty := x },
     .may "value_type" Decoder.flag fun x p => { p with byValue := x },
     .may "access" Access.decode fun x p => { p with access := x },
     .may "directives" (Decoder.listOf DirectiveEntry.decode) fun x p => { p with directives := x }]
    .skip default

/-- The reader of a parameter. -/
def Parameter.decode : Decoder Parameter :=
  Decoder.record "ParameterDescriptor"
    [.must "name" Decoder.text fun x p => { p with name := x },
     .must "ty" TypeRef.decode fun x p => { p with ty := x },
     .may "has_default" Decoder.flag fun x p => { p with hasDefault := x }]
    .skip ⟨"", default, false⟩

/-- The reader of a method. -/
def Method.decode : Decoder Method :=
  Decoder.record "MethodDescriptor"
    [.must "name" Decoder.text fun x m => { m with name := x },
     .must "parameters" (Decoder.listOf Parameter.decode) fun x m => { m with parameters := x },
     .must "returns" TypeRef.decode fun x m => { m with returns := x },
     .may "is_async" Decoder.flag fun x m => { m with isAsync := x }]
    .skip ⟨"", [], default, false⟩

/-- The reader of a resolver. -/
def Resolver.decode : Decoder Resolver :=
  Decoder.record "ResolverDescriptor"
    [.must "path" Decoder.text fun x r => { r with path := x },
     .may "parameters" (Decoder.listOf Parameter.decode) fun x r => { r with parameters := x },
     .must "source" TypeRef.decode fun x r => { r with source := x },
     .must "destination" TypeRef.decode fun x r => { r with destination := x },
     .may "is_async" Decoder.flag fun x r => { r with isAsync := x }]
    .skip ⟨"", [], default, default, false⟩

/-- The reader of a type. -/
def TypeDecl.decode : Decoder TypeDecl :=
  Decoder.record "TypeDescriptor"
    [.must "path" Decoder.text fun x t => { t with path := x },
     .may "base" (Decoder.optional Decoder.text) fun x t => { t with base := x },
     .may "value_type" Decoder.flag fun x t => { t with byValue := x },
     .may "constructible" Decoder.flag fun x t => { t with constructible := x },
     .may "properties" (Decoder.listOf Property.decode) fun x t => { t with properties := x },
     .may "directives" (Decoder.listOf DirectiveEntry.decode) fun x t => { t with directives := x },
     .may "methods" (Decoder.listOf Method.decode) fun x t => { t with methods := x }]
    .skip default

/-- The reader of the two lists of a schema. -/
def Schema.decodeLists : Decoder (List TypeDecl × List Resolver) :=
  Decoder.record "SchemaSnapshot"
    [.may "types" (Decoder.listOf TypeDecl.decode) fun x s => (x, s.2),
     .may "resolvers" (Decoder.listOf Resolver.decode) fun x s => (s.1, x)]
    .skip ([], [])

/-- The reader of a schema. -/
def Schema.decode : Decoder Schema := fun b v => do
  let (types, resolvers) ← Schema.decodeLists b v
  return Schema.ofLists types resolvers

/-- The schema of a text. -/
def Schema.ofText (text : String) : Except DecodeError Schema := decodeText Schema.decode text

end TypeMapper
