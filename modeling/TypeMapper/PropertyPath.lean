import TypeMapper.Schema.Basic
/-!
# Property paths

A dotted path names a chain of properties: the first of a root type, each next one of the object
type of the property before it. Only properties that can be read count.

* `PropertyPath.segments`: the names between the dots; `intercalate_segmentChars`: joined, they are
  the path.
* `Schema.walk`: the properties along a path, or the first thing that is wrong with it.
-/

namespace TypeMapper

namespace PropertyPath

/-! ## 1. Segments -/

/-- Put a character in front of the first segment. -/
def consFirst (c : Char) : List (List Char) → List (List Char)
  | [] => [[c]]
  | s :: rest => (c :: s) :: rest

/-- The parts of a text between dots. -/
def segmentChars : List Char → List (List Char)
  | [] => [[]]
  | c :: rest => if c = '.' then [] :: segmentChars rest else consFirst c (segmentChars rest)

/-- The names of a path. -/
def segments (path : String) : List String := (segmentChars path.toList).map String.ofList

theorem segmentChars_ne_nil : ∀ cs : List Char, segmentChars cs ≠ []
  | [] => by simp [segmentChars]
  | c :: rest => by
    have := segmentChars_ne_nil rest
    unfold segmentChars
    split
    · simp
    · unfold consFirst
      split <;> simp

/-- The parts between dots, joined by dots, are the text. -/
theorem intercalate_segmentChars (cs : List Char) :
    ['.'].intercalate (segmentChars cs) = cs := by
  induction cs with
  | nil => rfl
  | cons c rest ih =>
    have hne := segmentChars_ne_nil rest
    unfold segmentChars
    cases hs : segmentChars rest with
    | nil => exact absurd hs hne
    | cons s ss =>
      rw [hs] at ih
      by_cases hc : c = '.'
      · subst hc
        simp [List.intercalate] at ih ⊢
        exact ih
      · cases ss with
        | nil => simp [hc, consFirst, List.intercalate] at ih ⊢; exact ih
        | cons t ts => simp [hc, consFirst, List.intercalate] at ih ⊢; exact ih

end PropertyPath

/-! ## 2. Walking -/

/-- What is wrong with a path. -/
inductive PathProblem where
  | notAnObject (property : String)
  | unknownType (path : String)
  | notReadable (path property : String)
  deriving DecidableEq, Repr

/-- The wording of a problem. -/
def PathProblem.message : PathProblem → String
  | .notAnObject p => "'" ++ p ++ "' is not an object"
  | .unknownType t => "type '" ++ t ++ "' is not in the schema"
  | .notReadable t p => "'" ++ t ++ "' has no readable property '" ++ p ++ "'"

namespace Schema

/-- The property of a type that a name reads. -/
def readable? (s : Schema) (path name : String) : Option Property :=
  (s.flattened path).find? fun p => p.name == name && p.access.readable

/-- The property that a name reads on a type that must be known. -/
def hop (s : Schema) (path name : String) : Except PathProblem Property :=
  if s.hasType path then
    match s.readable? path name with
    | some p => .ok p
    | none => .error (.notReadable path name)
  else .error (.unknownType path)

/-- The properties behind one that was read. -/
def walkFrom (s : Schema) (previous : Property) : List String → Except PathProblem (List Property)
  | [] => .ok []
  | name :: rest =>
    match previous.ty.objectPath? with
    | none => .error (.notAnObject previous.name)
    | some path => do
      let p ← s.hop path name
      let ps ← walkFrom s p rest
      return p :: ps

/-- The properties of names in a row, from a root type on. -/
def walkNames (s : Schema) (root : String) : List String → Except PathProblem (List Property)
  | [] => .ok []
  | name :: rest => do
    let p ← s.hop root name
    let ps ← s.walkFrom p rest
    return p :: ps

/-- The properties along a dotted path from a root type on. -/
def walk (s : Schema) (root path : String) : Except PathProblem (List Property) :=
  s.walkNames root (PropertyPath.segments path)

end Schema

end TypeMapper
