import TypeMapper.Mapping.Strategy
/-!
# Obstacles

What keeps a routine from being written. Most obstacles cost the artifact at hand and are named in
it; a malformed name that the generator makes itself stops the run.

* `SpellingError`: an obstacle that costs an artifact; `SpellingError.message` is its wording.
* `Obstacle`: such an error, or a malformed name.
-/

namespace TypeMapper

/-- Why an artifact cannot be written. -/
inductive SpellingError where
  | inconsistent (reason : String)
  | invalidName (text : String)
  | invalidPath (text : String)
  | invalidType (text : String)
  | missingParameter (name : String)
  | unboundDelegate (key : MappingKey)
  | unknownMapping (id : MappingId)
  deriving DecidableEq, Repr, Inhabited

/-- The wording of an error. -/
def SpellingError.message : SpellingError → String
  | inconsistent reason => "inconsistent mapping: " ++ reason
  | invalidName text => "'" ++ text ++ "' is not a valid identifier"
  | invalidPath text => "'" ++ text ++ "' is not a valid path"
  | invalidType text => "'" ++ text ++ "' is not a valid type"
  | missingParameter name => "parameter '" ++ name ++ "' is not in scope"
  | unboundDelegate key => "delegate " ++ key.text ++ " is not bound"
  | unknownMapping id => "unknown mapping #" ++ toString id

/-- What keeps a routine from being written. -/
inductive Obstacle where
  /-- The artifact is left out. -/
  | skip (e : SpellingError)
  /-- A made name is none, and no artifact comes out. -/
  | malformed (name : String)
  deriving DecidableEq, Repr, Inhabited

/-- A value, or the obstacle in its way. -/
abbrev Emit (α : Type) := Except Obstacle α

/-- A value that may be missing, with the error that says so. -/
def Emit.ofOption {α : Type} (x : Option α) (e : SpellingError) : Emit α :=
  match x with
  | some a => .ok a
  | none => .error (.skip e)

@[simp] theorem Emit.ofOption_eq_ok {α : Type} {x : Option α} {e : SpellingError} {a : α} :
    Emit.ofOption x e = .ok a ↔ x = some a := by
  cases x <;> simp [Emit.ofOption]

end TypeMapper
