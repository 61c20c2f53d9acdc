/-!
# JSON values

A value of the JSON data model with integers as its only numbers and members in written order, and
its compact text.

* `Json.chars`: the text of a value, without blanks.
* `Json.height`: how many arrays and objects lie around the deepest value.
-/

namespace TypeMapper

/-! ## 1. Values -/

/-- A JSON value. -/
inductive Json where
  | null
  | bool (b : Bool)
  | int (n : Int)
  | str (s : String)
  | arr (items : List Json)
  | obj (members : List (String × Json))
  deriving Inhabited, Repr

namespace Json

/-- A list of texts. -/
def strings (xs : List String) : Json := .arr (xs.map .str)

/-- A list of values. -/
def list {α : Type} (f : α → Json) (xs : List α) : Json := .arr (xs.map f)

/-- A value or null. -/
def orNull {α : Type} (f : α → Json) : Option α → Json
  | none => .null
  | some x => f x

/-- A natural number. -/
def nat (n : Nat) : Json := .int n

/-- A member that is left out if there is nothing to write. -/
def optional {α : Type} (name : String) (f : α → Json) : Option α → List (String × Json)
  | none => []
  | some x => [(name, f x)]

/-- A member that is left out if the list is empty. -/
def unlessEmpty {α : Type} (name : String) (f : α → Json) (xs : List α) : List (String × Json) :=
  if xs.isEmpty then [] else [(name, list f xs)]

/-! ## 2. Nesting -/

mutual

/-- The number of arrays and objects around the deepest value. -/
def height : Json → Nat
  | .arr items => heightItems items + 1
  | .obj members => heightMembers members + 1
  | _ => 0

/-- The greatest height among items. -/
def heightItems : List Json → Nat
  | [] => 0
  | v :: rest => max (height v) (heightItems rest)

/-- The greatest height among members. -/
def heightMembers : List (String × Json) → Nat
  | [] => 0
  | (_, v) :: rest => max (height v) (heightMembers rest)

end

/-! ## 3. Text -/

/-- One character inside a quoted text. -/
def charText (c : Char) : List Char :=
  if c = '"' then ['\\', '"']
  else if c = '\\' then ['\\', '\\']
  else if c = '\x08' then ['\\', 'b']
  else if c = '\x0c' then ['\\', 'f']
  else if c = '\n' then ['\\', 'n']
  else if c = '\r' then ['\\', 'r']
  else if c = '\t' then ['\\', 't']
  else if c.toNat < 0x20 then
    ['\\', 'u', '0', '0', Nat.digitChar (c.toNat / 16), Nat.digitChar (c.toNat % 16)]
  else [c]

/-- A text in double quotes. -/
def stringText (s : String) : List Char := '"' :: s.toList.flatMap charText ++ ['"']

/-- A number in decimal digits. -/
def intText (n : Int) : List Char :=
  if n < 0 then '-' :: Nat.toDigits 10 n.natAbs else Nat.toDigits 10 n.natAbs

mutual

/-- The compact text of a value. -/
def chars : Json → List Char
  | .null => ['n', 'u', 'l', 'l']
  | .bool true => ['t', 'r', 'u', 'e']
  | .bool false => ['f', 'a', 'l', 's', 'e']
  | .int n => intText n
  | .str s => stringText s
  | .arr items => '[' :: itemChars items
  | .obj members => '\x7b' :: memberChars members

/-- The items of an array and its closing bracket. -/
def itemChars : List Json → List Char
  | [] => [']']
  | v :: rest => chars v ++ itemTail rest

/-- The items after the first, each behind a comma. -/
def itemTail : List Json → List Char
  | [] => [']']
  | v :: rest => ',' :: (chars v ++ itemTail rest)

/-- The members of an object and its closing brace. -/
def memberChars : List (String × Json) → List Char
  | [] => ['\x7d']
  | (k, v) :: rest => stringText k ++ ':' :: (chars v ++ memberTail rest)

/-- The members after the first, each behind a comma. -/
def memberTail : List (String × Json) → List Char
  | [] => ['\x7d']
  | (k, v) :: rest => ',' :: (stringText k ++ ':' :: (chars v ++ memberTail rest))

end

/-- The compact text of a value as a string. -/
def text (v : Json) : String := String.ofList v.chars

end Json

end TypeMapper
