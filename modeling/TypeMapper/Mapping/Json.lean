import TypeMapper.Mapping.Basic
import TypeMapper.Schema.Json
/-!
# Mappings in JSON

The written form of a mapping and of its parts. Everything is written, null where there is nothing.

* `Mapping.toJson`: a mapping with its id.
* `PropertyMapping.toJson`, `Strategy.toJson`, `Shape.toJson`: its parts.
-/

namespace TypeMapper

/-! ## 1. Strategies -/

/-- The JSON form of a key. -/
def MappingKey.toJson (k : MappingKey) : Json :=
  .obj [("source", .str k.source), ("destination", .str k.destination)]

/-- The JSON form of a strategy: an object with its kind as only member. -/
def Strategy.toJson : Strategy → Json
  | .delegate c =>
    .obj [("Delegate", .obj [("key", c.key.toJson), ("target", Json.orNull Json.nat c.target)])]
  | .method c =>
    .obj [("Method", .obj [("name", .str c.name), ("owner", .str c.owner),
      ("subject", c.subject.toJson), ("returns", c.returns.toJson),
      ("arguments", Json.list Parameter.toJson c.arguments), ("is_async", .bool c.isAsync)])]
  | .resolver c =>
    .obj [("Resolver", .obj [("instance", .str c.instanceName), ("path", .str c.path),
      ("source", c.source.toJson), ("destination", c.destination.toJson),
      ("is_async", .bool c.isAsync)])]

/-! ## 2. Properties -/

/-- The JSON form of a policy. -/
def NullPolicy.toJson (p : NullPolicy) : Json := .str p.name

/-- The JSON form of a link. -/
def Hop.toJson (h : Hop) : Json :=
  .obj [("name", .str h.name), ("ty", h.ty.toJson), ("value_type", .bool h.byValue),
    ("on_null", Json.orNull NullPolicy.toJson h.onNull)]

/-- The JSON form of a destination. -/
def PropertyEnd.toJson (e : PropertyEnd) : Json :=
  .obj [("name", .str e.name), ("ty", e.ty.toJson), ("value_type", .bool e.byValue)]

/-- The JSON form of a slot. -/
def ElementMapping.toJson (e : ElementMapping) : Json :=
  .obj [("source", e.source.toJson), ("destination", e.destination.toJson),
    ("value_type", .bool e.byValue), ("strategy", Json.orNull Strategy.toJson e.strategy),
    ("on_null", Json.orNull NullPolicy.toJson e.onNull)]

/-- The JSON form of a shape: its name, or an object with its name as only member. -/
def Shape.toJson : Shape → Json
  | .scalar => .str "Scalar"
  | .collection s d e =>
    .obj [("Collection", .obj [("source", .str s.name), ("destination", .str d.name),
      ("element", e.toJson)])]
  | .map d k v =>
    .obj [("Map", .obj [("destination", .str d.name), ("key", k.toJson), ("value", v.toJson)])]
  | .tuple es => .obj [("Tuple", .obj [("elements", Json.list ElementMapping.toJson es)])]

/-- The JSON form of a property mapping. -/
def PropertyMapping.toJson (p : PropertyMapping) : Json :=
  .obj [("source", Json.list Hop.toJson p.source), ("destination", p.destination.toJson),
    ("strategy", Json.orNull Strategy.toJson p.strategy), ("shape", p.shape.toJson),
    ("ignore_null", .bool p.ignoreNull),
    ("max_recursion_depth", Json.orNull (fun d => Json.nat d.toNat) p.maxRecursionDepth)]

/-! ## 3. Mappings -/

/-- The JSON form of a parameter of a routine. -/
def EntryParameter.toJson (p : EntryParameter) : Json :=
  .obj [("name", .str p.name), ("local", .str p.localName), ("ty", p.ty.toJson)]

/-- The JSON form of a resolver instance. -/
def ResolverInstance.toJson (r : ResolverInstance) : Json :=
  .obj [("ident", .str r.ident), ("path", .str r.path),
    ("arguments", Json.list EntryParameter.toJson r.arguments), ("is_async", .bool r.isAsync)]

/-- The JSON form of a mapping of an id. -/
def Mapping.toJson (id : MappingId) (m : Mapping) : Json :=
  .obj [("id", .nat id), ("key", m.key.toJson),
    ("index", Json.orNull (fun i => Json.nat i.toNat) m.index), ("declared_on", .str m.declaredOn),
    ("source_value_type", .bool m.sourceByValue),
    ("max_recursion_depth", .nat m.maxRecursionDepth.toNat),
    ("properties", Json.list PropertyMapping.toJson m.properties),
    ("resolvers", Json.list ResolverInstance.toJson m.resolvers),
    ("local_parameters", Json.list EntryParameter.toJson m.localParameters),
    ("entry_parameters", Json.list EntryParameter.toJson m.entryParameters),
    ("is_async", .bool m.isAsync), ("leftover_destinations", Json.strings m.leftovers),
    ("unclaimed_sources", Json.strings m.unclaimed),
    ("diagnostics", Json.list Diagnostic.toJson m.diagnostics)]

end TypeMapper
