import TypeMapper.Mapping.Strategy
/-!
# Mapping errors

How a routine fails while it runs. Every error names both types; one about an absent value below the
source also has the dotted path to it.

* `MappingError`: the four ways to fail; `MappingError.message` is their wording.
* `MappingError.path?`: the path to the absent value.
-/

namespace TypeMapper

/-- How a routine fails. -/
inductive MappingError where
  | nullSource (key : MappingKey)
  | nullProperty (key : MappingKey) (path : String)
  | nullElement (key : MappingKey) (path : String)
  | notConfigured (key : MappingKey)
  deriving DecidableEq, Repr, Inhabited

namespace MappingError

/-- The types that were to be mapped. -/
def key : MappingError → MappingKey
  | nullSource k => k
  | nullProperty k _ => k
  | nullElement k _ => k
  | notConfigured k => k

/-- The path to the absent value, if it lies below the source. -/
def path? : MappingError → Option String
  | nullSource _ => none
  | nullProperty _ p => some p
  | nullElement _ p => some p
  | notConfigured _ => none

/-- The wording of an error. -/
def message : MappingError → String
  | nullSource k => "cannot map a null " ++ k.source ++ " to " ++ k.destination
  | nullProperty k p => k.text ++ ": property '" ++ p ++ "' is null"
  | nullElement k p => k.text ++ ": '" ++ p ++ "' contains a null element"
  | notConfigured k => "no mapper is configured for " ++ k.text

end MappingError

end TypeMapper
