/-!
# Directives

A directive is a declarative instruction on a type or a property. An entry is a directive and,
perhaps, the index of the one mapping it is meant for; an entry without an index is meant for every
mapping.

* `Directive`: the closed list of instructions, with `name` and the two classes of placement.
* `DirectiveEntry.appliesTo`: the entry is meant for the mapping of an index.
* `isTypeLevel_eq_not_isPropertyLevel`: but for the depth bound, each has one place.
-/

namespace TypeMapper

/-- An instruction on a type or a property. -/
inductive Directive where
  /-- Take the property out of matching, on either side. -/
  | ignore
  /-- Accept a source that may be absent for a destination that may not. -/
  | ignoreNullIncompatibility
  /-- On a type: destination properties that are not mapped. -/
  | ignoreTargetNames (names : List String)
  /-- Hand the whole collection to the helper, not each element. -/
  | mapCompleteCollection
  /-- On a destination type: a mapping from `source` to it. -/
  | mapFrom (source : String)
  /-- On a type: fill `target` from a dotted chain of source properties. -/
  | mapPath (path target : String)
  /-- On a source type: a mapping from it to `destination`. -/
  | mapTo (destination : String)
  /-- The depth to which recursive mappings are unrolled. -/
  | maxRecursionDepth (depth : UInt32)
  /-- Match the source property against a destination property of another name. -/
  | renameTo (name : String)
  /-- Delegate to the mapping from `source` to `destination`. -/
  | useMapper (source destination : String)
  /-- Convert through a function of the owning type. -/
  | useMethod (name : String)
  /-- Convert through an external resolver. -/
  | useResolver (resolver : String)
  deriving DecidableEq, Repr, Inhabited

namespace Directive

/-- The directive belongs on a type. -/
def isTypeLevel : Directive → Bool
  | .ignoreTargetNames _ | .mapFrom _ | .mapPath .. | .mapTo _ => true
  | _ => false

/-- The directive belongs on a property. -/
def isPropertyLevel : Directive → Bool
  | .ignore | .ignoreNullIncompatibility | .mapCompleteCollection | .renameTo _ | .useMapper ..
  | .useMethod _ | .useResolver _ => true
  | _ => false

/-- The directive bounds recursion, which it does on types and on properties. -/
def isDepthBound : Directive → Bool
  | .maxRecursionDepth _ => true
  | _ => false

/-- The name of a directive. -/
def name : Directive → String
  | .ignore => "ignore"
  | .ignoreNullIncompatibility => "ignore_null_incompatibility"
  | .ignoreTargetNames _ => "ignore_target_names"
  | .mapCompleteCollection => "map_complete_collection"
  | .mapFrom _ => "map_from"
  | .mapPath .. => "map_path"
  | .mapTo _ => "map_to"
  | .maxRecursionDepth _ => "max_recursion_depth"
  | .renameTo _ => "rename_to"
  | .useMapper .. => "use_mapper"
  | .useMethod _ => "use_method"
  | .useResolver _ => "use_resolver"

/-- A directive that is no depth bound belongs on types or on properties, and not on both. -/
theorem isTypeLevel_eq_not_isPropertyLevel {d : Directive} (h : d.isDepthBound = false) :
    d.isTypeLevel = !d.isPropertyLevel := by
  cases d <;> simp_all [isDepthBound, isTypeLevel, isPropertyLevel]

end Directive

/-- A directive and the index of the mapping it is meant for. -/
structure DirectiveEntry where
  directive : Directive
  index : Option UInt32
  deriving DecidableEq, Repr, Inhabited

namespace DirectiveEntry

/-- The entry is meant for the mapping that is declared with an index. -/
def appliesTo (e : DirectiveEntry) (index : Option UInt32) : Bool :=
  e.index.isNone || e.index == index

/-- An entry without an index is meant for every mapping. -/
theorem appliesTo_of_index_none {e : DirectiveEntry} (h : e.index = none) (i : Option UInt32) :
    e.appliesTo i = true := by simp [appliesTo, h]

/-- An entry with an index is meant for the mapping of that index alone. -/
theorem appliesTo_iff_of_index_some {e : DirectiveEntry} {n : UInt32} (h : e.index = some n)
    (i : Option UInt32) : e.appliesTo i = true ↔ i = some n := by
  unfold appliesTo
  rw [h]
  simp only [Option.isNone_some, Bool.false_or, beq_iff_eq]
  exact eq_comm

end DirectiveEntry

end TypeMapper
