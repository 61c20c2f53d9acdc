import TypeMapper.Json.Decoding
import TypeMapper.TypeRef
/-!
# Type references in JSON

A type is an object with the member `nullable`, the tag `kind` and the fields of that kind.

* `TypeRef.toJson`: the written form, with every field.
* `TypeRef.decode`: the reader; what is not given is not nullable, not by value, a sequence, a hash.
-/

namespace TypeMapper.TypeRef

open Json

/-! ## 1. Writing -/

mutual

/-- The JSON form of a type. -/
def toJson : TypeRef → Json
  | .scalar m v n =>
    .obj [("kind", .str "scalar"), ("name", .str m), ("value_type", .bool v), ("nullable", .bool n)]
  | .object p n => .obj [("kind", .str "object"), ("path", .str p), ("nullable", .bool n)]
  | .collection k e n =>
    .obj [("kind", .str "collection"), ("collection", .str k.name), ("element", toJson e),
      ("nullable", .bool n)]
  | .map k a b n =>
    .obj [("kind", .str "map"), ("map", .str k.name), ("key", toJson a), ("value", toJson b),
      ("nullable", .bool n)]
  | .tuple es n =>
    .obj [("kind", .str "tuple"), ("elements", .arr (toJsons es)), ("nullable", .bool n)]

/-- The JSON forms of a list of types. -/
def toJsons : List TypeRef → List Json
  | [] => []
  | t :: ts => toJson t :: toJsons ts

end

/-! ## 2. Reading -/

/-- The names of the kinds in order. -/
def kindNames : List String := ["scalar", "object", "collection", "map", "tuple"]

/-- The kind of a collection. -/
def decodeCollectionKind : Decoder CollectionKind := fun _ v => do
  let i ← choice (CollectionKind.all.map CollectionKind.name) v
  return CollectionKind.all[i]?.getD .sequence

/-- The kind of a map. -/
def decodeMapKind : Decoder MapKind := fun _ v => do
  let i ← choice (MapKind.all.map MapKind.name) v
  return MapKind.all[i]?.getD .hash

/-- The fields of a leaf. -/
def scalarFields : List (Member (String × Bool)) :=
  [.must "name" Decoder.text fun x s => (x, s.2),
   .may "value_type" Decoder.flag fun x s => (s.1, x)]

/-- The field of an object. -/
def objectFields : List (Member String) := [.must "path" Decoder.text fun x _ => x]

/-- The fields of a collection. -/
def collectionFields (d : Decoder TypeRef) : List (Member (CollectionKind × TypeRef)) :=
  [.may "collection" decodeCollectionKind fun x s => (x, s.2),
   .must "element" d fun x s => (s.1, x)]

/-- The fields of a map. -/
def mapFields (d : Decoder TypeRef) : List (Member (MapKind × TypeRef × TypeRef)) :=
  [.may "map" decodeMapKind fun x s => (x, s.2),
   .must "key" d fun x s => (s.1, x, s.2.2),
   .must "value" d fun x s => (s.1, s.2.1, x)]

/-- The field of a tuple. -/
def tupleFields (d : Decoder TypeRef) : List (Member (List TypeRef)) :=
  [.must "elements" (Decoder.listOf d) fun x _ => x]

/-- A type of a kind given by its position, from the members beside the tag. -/
def ofKind (d : Decoder TypeRef) (b : Nat) (nullable : Bool) (members : Members) :
    Nat → Except DecodeError TypeRef
  | 0 => do
    let (m, v) ← variant scalarFields b ("", false) members
    return .scalar m v nullable
  | 1 => do
    let p ← variant objectFields b "" members
    return .object p nullable
  | 2 => do
    let (k, e) ← variant (collectionFields d) b (.sequence, default) members
    return .collection k e nullable
  | 3 => do
    let (k, a, v) ← variant (mapFields d) b (.hash, default, default) members
    return .map k a v nullable
  | _ => do
    let es ← variant (tupleFields d) b [] members
    return .tuple es nullable

/-- The reader of a type that holds others to the depth `fuel`. -/
def decodeWithin : Nat → Decoder TypeRef
  | 0 => fun _ _ => .error (.unreadable .malformed)
  | fuel + 1 => fun b v => do
    let (nullable, members) ← flattened "TypeRef" "nullable" Decoder.flag b v
    let (kind, members) ← tagged "kind" kindNames members
    ofKind (decodeWithin fuel) (b - 1) (nullable.getD false) members kind

/-- The reader of a type; the budget of nesting bounds its depth. -/
def decode : Decoder TypeRef := fun b v => decodeWithin (b + 1) b v

end TypeMapper.TypeRef
