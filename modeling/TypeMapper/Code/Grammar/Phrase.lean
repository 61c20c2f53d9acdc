import TypeMapper.Code.Grammar.Reader
/-!
# Phrases

The phrases of the language contain each other. A rule of the grammar reads one kind of phrase and
takes readers of all kinds for the phrases inside, so that the rules are plain functions; what a
phrase is made of is passed on where the phrases around it depend on it.

* `Phrase`: the kinds of phrases; `Rules`: a reader for each.
* `Spelling`: a phrase as it is written, with its `Form`.
* `modulePath`, `attributes`, `visibility`: what stands in front of items, and in many other places.
-/

namespace TypeMapper.Grammar

/-! ## 1. Kinds of phrases -/

/-- The kinds of phrases that contain each other. -/
inductive Phrase where
  /-- A type; `plus` is whether bounds may follow one another. -/
  | type (plus : Bool)
  /-- A bound; `capture` and `conditional` are whether it may name what a type captures, and whether
  it may hold under a condition. -/
  | bound (capture conditional : Bool)
  /-- An expression; `structs` is whether braces behind a path are the fields of a value. -/
  | expression (structs : Bool)
  /-- An expression without operators between operands. -/
  | operand (structs : Bool)
  /-- An expression that ends behind its block where it starts with one. -/
  | early
  /-- A pattern; `choice` is whether it may be one of several. -/
  | pattern (choice : Bool)
  /-- The statements of a block. -/
  | statements
  /-- The fields of a type in braces. -/
  | fields
  | item
  /-- An import; `root` is whether the root of all crates may stand in it. -/
  | importTree (root : Bool)
  deriving DecidableEq, Repr, Inhabited

/-- What a phrase is, as far as the phrases around it depend on it. -/
inductive Form where
  | plain
  /-- A path; `single` is whether it is one name. -/
  | path (single : Bool)
  /-- A trait, or a type that is one; `bare` is the trait without parentheses around it. -/
  | trait (bare : Code)
  /-- A trait under a condition. -/
  | conditional
  /-- A range; `isOpen` is whether an end is missing. -/
  | range (isOpen : Bool)
  /-- The place of all that a pattern leaves out. -/
  | rest
  /-- Two operands; the first operand of all may be one that is written as it was read. -/
  | operation (comparison asRead : Bool)
  /-- An expression that ends with its block. -/
  | blockLike
  | macroCall (braces : Bool)
  /-- A phrase that is written as it was read. -/
  | asRead
  /-- Imports of which one starts at the root of all crates. -/
  | rooted
  deriving Inhabited

/-- A phrase as it is written, and what it is. -/
structure Spelling where
  code : Code
  form : Form
  deriving Inhabited

/-- Readers of all kinds of phrases. -/
abbrev Rules := Phrase → Parse Spelling

/-- What is written for a phrase of some kind. -/
def Rules.code (r : Rules) (p : Phrase) : Parse Code := do return (← r p).code

/-- A phrase on which nothing around it depends. -/
def plainly (p : Parse Code) : Parse Spelling := do return ⟨← p, .plain⟩

/-! ## 2. Paths of words -/

/-- The words of paths that are no names. -/
def moduleWords : List String := ["super", "self", "Self", "crate"]

/-- Words with double colons between them. -/
def modulePath : Parse Code := do
  let root ← optSign "::"
  let first ← nameOr moduleWords
  let more ← many (atOp "::") (row [sign "::", nameOr moduleWords])
  return root ++ first ++ more

/-! ## 3. Attributes -/

/-- What an attribute says: a word with arguments or with a value. -/
def meaning (r : Rules) : Parse Code := do
  let path ← if ← sees (atWord "unsafe") then word "unsafe" else modulePath
  if ← sees atAnyGroup then return path ++ (← anyGroup)
  if ← sees fun ts => atOp "=" ts && !atOps ["==", "=>"] ts then
    let equals ← sign "="
    require !(← sees fun ts => atOp "#" ts && second (atGroup .bracket) ts)
    return path ++ equals ++ (← r.code (.expression true))
  return path

/-- Attributes of what follows. -/
def attributes (r : Rules) : Parse Code :=
  many (atOp "#") (row [sign "#", grouped .bracket (meaning r)])

/-- Attributes of what they stand in. -/
def innerAttributes (r : Rules) : Parse Code :=
  many (fun ts => atOp "#" ts && second (atOp "!") ts)
    (row [sign "#", sign "!", grouped .bracket (meaning r)])

/-- A block. -/
def block (r : Rules) : Parse Code := grouped .brace (r.code .statements)

/-- A block that may have attributes of its own. -/
def describedBlock (r : Rules) : Parse Code :=
  grouped .brace (row [innerAttributes r, r.code .statements])

/-! ## 4. Visibility -/

/-- Parentheses that restrict how far an item is seen. -/
def atRestriction : At
  | .group .paren [.ident w] :: _ => ["crate", "self", "super", "in"].contains w
  | .group .paren (.ident "in" :: _) :: _ => true
  | _ => false

/-- How far an item is seen. -/
def visibility : Parse Code :=
  opt (atWord "pub") (row [word "pub", opt atRestriction (grouped .paren (do
    if ← sees (atWord "in") then row [word "in", modulePath] else anyWord))])

end TypeMapper.Grammar
