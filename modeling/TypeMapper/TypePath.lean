import TypeMapper.Text.Words
/-!
# Type paths

A type is named by a path of segments between double colons. Its last segment is the name that
code spells; what stands before is its module. A path that names no root of its own is read from
the root of the generated crate.

* `TypePath.segments`: the segments, cut from the left.
* `TypePath.cutLast`: module and name, cut at the last double colon.
* `TypePath.anchored`: the path with its root.
-/

namespace TypeMapper.TypePath

/-! ## 1. Cutting -/

/-- Put a character in front of the first segment. -/
def consSegment (c : Char) : List (List Char) → List (List Char)
  | [] => [[c]]
  | s :: rest => (c :: s) :: rest

/-- The segments of a path, cut at every double colon from the left. -/
def segmentChars : List Char → List (List Char)
  | ':' :: ':' :: rest => [] :: segmentChars rest
  | c :: rest => consSegment c (segmentChars rest)
  | [] => [[]]

/-- The segments of a path. -/
def segments (path : String) : List String := (segmentChars path.toList).map String.ofList

/-- A text cut at its last double colon. -/
def cutLast : List Char → Option (List Char × List Char)
  | [] => none
  | c :: rest =>
    match cutLast rest with
    | some (front, back) => some (c :: front, back)
    | none =>
      match c, rest with
      | ':', ':' :: back => some ([], back)
      | _, _ => none

/-- The two parts and the double colon between them make the text. -/
theorem eq_of_cutLast {cs front back : List Char} (h : cutLast cs = some (front, back)) :
    cs = front ++ ':' :: ':' :: back := by
  induction cs generalizing front with
  | nil => simp [cutLast] at h
  | cons c rest ih =>
    unfold cutLast at h
    split at h
    · rename_i f b hr
      simp only [Option.some.injEq, Prod.mk.injEq] at h
      obtain ⟨rfl, rfl⟩ := h
      simp [ih hr]
    · split at h
      · simp only [Option.some.injEq, Prod.mk.injEq] at h
        obtain ⟨rfl, rfl⟩ := h
        rfl
      · simp at h

/-! ## 2. Name and module -/

/-- The last segment of a path. -/
def ident (path : String) : String :=
  match cutLast path.toList with
  | some (_, back) => String.ofList back
  | none => path

/-- What stands before the last double colon, if there is one. -/
def module (path : String) : Option String :=
  (cutLast path.toList).map fun parts => String.ofList parts.1

/-! ## 3. Snake case -/

/-- The last segment in snake case. -/
def snakeIdent (path : String) : String := Text.snakeCase (ident path)

/-- The whole path in snake case, without empty segments and the crate root. -/
def snakePath (path : String) : String :=
  "_".intercalate (((segments path).filter fun s => s != "" && s != "crate").map Text.snakeCase)

/-! ## 4. Roots -/

/-- A path that begins with a double colon names a foreign crate. -/
def isForeign (path : String) : Bool :=
  match path.toList with
  | ':' :: ':' :: _ => true
  | _ => false

/-- A path says itself where it starts. -/
def isRooted (path : String) : Bool :=
  isForeign path || ["crate", "self", "super"].contains ((segments path).headD "")

/-- The path from its root: one that names no root starts at the crate. -/
def anchored (path : String) : String := if isRooted path then path else "crate::" ++ path

end TypeMapper.TypePath
