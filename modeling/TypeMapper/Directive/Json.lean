import TypeMapper.Directive
import TypeMapper.Json.Decoding
/-!
# Directive entries in JSON

An entry is an object with the tag `directive`, the fields of that directive and, perhaps, the
member `index`.

* `DirectiveEntry.toJson`: the written form; an index that is not there is left out.
* `DirectiveEntry.decode`: the reader; an index of null is not there.
-/

namespace TypeMapper

open Json

/-! ## 1. Writing -/

/-- The fields of a directive. -/
def Directive.fields : Directive → List (String × Json)
  | .ignore => []
  | .ignoreNullIncompatibility => []
  | .ignoreTargetNames names => [("names", Json.strings names)]
  | .mapCompleteCollection => []
  | .mapFrom source => [("source", .str source)]
  | .mapPath path target => [("path", .str path), ("target", .str target)]
  | .mapTo destination => [("destination", .str destination)]
  | .maxRecursionDepth depth => [("depth", .nat depth.toNat)]
  | .renameTo name => [("name", .str name)]
  | .useMapper source destination => [("source", .str source), ("destination", .str destination)]
  | .useMethod name => [("name", .str name)]
  | .useResolver resolver => [("resolver", .str resolver)]

/-- The JSON form of an entry. -/
def DirectiveEntry.toJson (e : DirectiveEntry) : Json :=
  .obj (("directive", .str e.directive.name) :: e.directive.fields
    ++ Json.optional "index" (fun i => Json.nat i.toNat) e.index)

/-! ## 2. Reading -/

namespace Directive

/-- The names of the directives in order. -/
def names : List String :=
  ["ignore", "ignore_null_incompatibility", "ignore_target_names", "map_complete_collection",
   "map_from", "map_path", "map_to", "max_recursion_depth", "rename_to", "use_mapper",
   "use_method", "use_resolver"]

/-- One field that must be given. -/
def single {α : Type} (name : String) (d : Decoder α) : List (Member α) :=
  [.must name d fun x _ => x]

/-- Two texts that must be given. -/
def pair (first second : String) : List (Member (String × String)) :=
  [.must first Decoder.text fun x s => (x, s.2), .must second Decoder.text fun x s => (s.1, x)]

/-- A directive given by its position, from the members beside the tag. -/
def ofPosition (b : Nat) (members : Members) : Nat → Except DecodeError Directive
  | 0 => .ok .ignore
  | 1 => .ok .ignoreNullIncompatibility
  | 2 =>
    (variant (single "names" (Decoder.listOf Decoder.text)) b [] members).map .ignoreTargetNames
  | 3 => .ok .mapCompleteCollection
  | 4 => (variant (single "source" Decoder.text) b "" members).map .mapFrom
  | 5 => (variant (pair "path" "target") b ("", "") members).map fun p => .mapPath p.1 p.2
  | 6 => (variant (single "destination" Decoder.text) b "" members).map .mapTo
  | 7 => (variant (single "depth" Decoder.word) b 0 members).map .maxRecursionDepth
  | 8 => (variant (single "name" Decoder.text) b "" members).map .renameTo
  | 9 => (variant (pair "source" "destination") b ("", "") members).map fun p => .useMapper p.1 p.2
  | 10 => (variant (single "name" Decoder.text) b "" members).map .useMethod
  | _ => (variant (single "resolver" Decoder.text) b "" members).map .useResolver

end Directive

/-- The reader of an entry. -/
def DirectiveEntry.decode : Decoder DirectiveEntry := fun b v => do
  let (index, members) ← flattened "DirectiveEntry" "index" (Decoder.optional Decoder.word) b v
  let (position, members) ← tagged "directive" Directive.names members
  let directive ← Directive.ofPosition (b - 1) members position
  return ⟨directive, index.getD none⟩

end TypeMapper
