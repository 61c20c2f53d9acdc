import TypeMapper.ErrorTree
import TypeMapper.Schema.Basic
/-!
# Validation of schemas

A schema is well formed if nothing in it is nameless, every type it mentions is declared, every
method has a subject and no chain of bases comes back to itself. Checking never stops at the first
problem: each is recorded under the path of the declaration and the name of its part.

* `Schema.validate`: all problems as one tree.
* `Schema.cycleMessages`: one message for each cycle of bases.
-/

namespace TypeMapper.Schema

/-! ## 1. Parts of declarations -/

/-- A message if a condition holds. -/
def messageIf (c : Bool) (m : String) : List String := if c then [m] else []

/-- The objects inside a type that the schema does not declare. -/
def unknownObjects (s : Schema) (t : TypeRef) : List String :=
  (t.objectPaths.filter fun p => !s.hasType p).map fun p => "unknown object type '" ++ p ++ "'"

/-- The tree of messages of one place. -/
def placeTree (messages : List String) : ErrorTree := .node messages []

/-- The problems of a property. -/
def propertyProblems (s : Schema) (p : Property) : ErrorTree :=
  placeTree (messageIf (p.name == "") "property name is empty" ++ s.unknownObjects p.ty)

/-- The problems of the types in a method. -/
def methodProblems (s : Schema) (m : Method) : ErrorTree :=
  placeTree (m.parameters.flatMap (fun p => s.unknownObjects p.ty) ++ s.unknownObjects m.returns)

/-- Add the problems of a method to those of its type. -/
def addMethod (s : Schema) (errs : ErrorTree) (m : Method) : ErrorTree :=
  let errs := if m.subject?.isNone then
      errs.add ("method '" ++ m.name ++ "' has no subject parameter") else errs
  errs.addFor m.name (s.methodProblems m)

/-- The base of a type that the schema does not declare. -/
def unknownBase (s : Schema) (t : TypeDecl) : List String :=
  match t.base with
  | some b => messageIf (!s.hasType b) ("unknown base type '" ++ b ++ "'")
  | none => []

/-- The problems of a type. -/
def typeProblems (s : Schema) (t : TypeDecl) : ErrorTree :=
  let own := placeTree (messageIf (t.path == "") "type path is empty" ++ s.unknownBase t)
  let withProperties := t.properties.foldl
    (fun errs p => errs.addFor p.name (s.propertyProblems p)) own
  t.methods.foldl s.addMethod withProperties

/-- The problems of a resolver. -/
def resolverProblems (s : Schema) (r : Resolver) : ErrorTree :=
  placeTree (messageIf (r.path == "") "resolver path is empty"
    ++ s.unknownObjects r.source ++ s.unknownObjects r.destination
    ++ r.parameters.flatMap fun p =>
      messageIf (p.name == "") "constructor parameter name is empty" ++ s.unknownObjects p.ty)

/-! ## 2. Cycles of bases -/

/-- The cycle that the chain of bases from a type on runs into, if any: the paths in order and the
path that closes it. `visited` are the paths before, the last one first. -/
def cycleFrom (s : Schema) : Nat → List String → Option TypeDecl → Option (List String × String)
  | 0, _, _ => none
  | _, _, none => none
  | fuel + 1, visited, some t =>
    if visited.contains t.path then
      some (visited.reverse.dropWhile (· != t.path), t.path)
    else cycleFrom s fuel (t.path :: visited) (s.base? t)

/-- The cycle that the chain of a type runs into. -/
def cycleOf (s : Schema) (t : TypeDecl) : Option (List String × String) :=
  cycleFrom s (s.types.toList.length + 2) [] (some t)

/-- The least text of a list. -/
def least : List String → String
  | [] => ""
  | [a] => a
  | a :: rest => let b := least rest; if b < a then b else a

/-- The messages of the cycles that types run into; `reported` names the cycles met so far. -/
def cycleMessagesFrom (s : Schema) : List String → List TypeDecl → List String
  | _, [] => []
  | reported, t :: rest =>
    match s.cycleOf t with
    | none => cycleMessagesFrom s reported rest
    | some (cycle, closing) =>
      let name := least cycle
      if reported.contains name then cycleMessagesFrom s reported rest
      else
        ("inheritance cycle: " ++ " -> ".intercalate cycle ++ " -> " ++ closing)
          :: cycleMessagesFrom s (name :: reported) rest

/-- One message for each cycle of bases. -/
def cycleMessages (s : Schema) : List String := s.cycleMessagesFrom [] s.types.toList

/-! ## 3. Schemas -/

/-- All problems of a schema. -/
def problems (s : Schema) : ErrorTree :=
  let types := s.types.toList.foldl (fun errs t => errs.addFor t.path (s.typeProblems t))
    ErrorTree.empty
  let resolvers := s.resolvers.toList.foldl
    (fun errs r => errs.addFor r.path (s.resolverProblems r)) types
  s.cycleMessages.foldl ErrorTree.add resolvers

/-- Accept a schema without problems. -/
def validate (s : Schema) : Except ErrorTree Unit := s.problems.result

/-- The wording of a refused schema. -/
def refusal (problems : ErrorTree) : String := "schema validation failed: " ++ problems.text

end TypeMapper.Schema
