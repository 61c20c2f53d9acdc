import TypeMapper.Code.Grammar.Phrase
/-!
# Paths

A path is a row of names with double colons between them, each perhaps with arguments in angle
brackets. In an expression the arguments stand behind a double colon, since a bracket alone is a
comparison.

* `PathParts`: a path, taken apart before the arguments of its last name.
* `path`, `qualifiedPath`: reading one; `arguments`: reading arguments.
* `constant`: a value among types.
-/

namespace TypeMapper.Grammar

/-! ## 1. Arguments -/

/-- A constant among arguments: a literal or a block. -/
def atConstant : At := fun ts => atLiteral ts || atGroup .brace ts

/-- A constant. -/
def constant (r : Rules) : Parse Code := do
  if ← sees atLiteral then anyLiteral else describedBlock r

/-- One argument, and whether it is a lifetime: a lifetime, a constant, a type, or a name with the
constant or type that is assigned to it or with its bounds. -/
def argument (r : Rules) : Parse (Bool × Code) := do
  if ← sees fun ts => atLifetime ts && !second (atOp "+") ts then return (true, ← anyLifetime)
  if ← sees atConstant then return (false, ← constant r)
  let type ← r (.type true)
  let value : Parse Code := do
    if ← sees atConstant then constant r else r.code (.type true)
  let bounds := chain (atOps [",", ">"]) "+" (r.code (.bound false true))
  let tail ← match type.form with
    | .path true => do
      if ← sees (atOp "=") then row [sign "=", value]
      else opt (atOp ":") (row [sign ":", bounds])
    | _ => pure []
  return (false, type.code ++ tail)

/-- Arguments in angle brackets, lifetimes first, and whether there are none. -/
def arguments (r : Rules) : Parse (Code × Bool) := do
  let colons ← optSign "::"
  let opening ← sign "<"
  let items ← listUntil (atOp ">") "," (argument r)
  let closing ← sign ">"
  return (colons ++ opening ++ firstOnes items ++ closing, items.isEmpty)

/-! ## 2. Paths -/

/-- A path, taken apart before the arguments of its last name. -/
structure PathParts where
  /-- All but the arguments of the last name. -/
  stem : Code
  /-- The arguments of the last name with their brackets. -/
  arguments : Code
  /-- The last name has no arguments; empty brackets are none. -/
  bare : Bool
  /-- No name has brackets behind it. -/
  wordsOnly : Bool
  /-- One name that is not looked up from the root. -/
  single : Bool
  /-- A type in angle brackets stands in front. -/
  qualified : Bool
  deriving Inhabited

/-- The tokens of a path. -/
def PathParts.code (p : PathParts) : Code := p.stem ++ p.arguments

/-- The words that name modules and take no arguments. -/
def bareWords : List String := ["super", "self", "crate", "try"]

/-- Arguments stand behind a name. -/
def atArguments (inExpression : Bool) : At := fun ts =>
  (!inExpression && atOp "<" ts && !atOps ["<=", "<<="] ts)
    || (atOp "::" ts && third (atOp "<") ts)

/-- One more name of a path whose tokens before it are `front`. -/
def segment (r : Rules) (inExpression : Bool) (p : PathParts) (front : Code) :
    Parse PathParts := do
  if ← sees (atWords bareWords) then
    return { p with stem := front ++ (← anyWord), arguments := [], bare := true }
  let stem := front ++ (← nameOr ["Self"])
  if ← sees (atArguments inExpression) then
    let (args, bare) ← arguments r
    return { p with stem := stem, arguments := args, bare := bare, wordsOnly := false }
  return { p with stem := stem, arguments := [], bare := true }

/-- The names of a path behind those that were read, in at most `fuel` steps. A double colon in
front of a place where `stop` holds belongs to what follows the path. -/
def segmentsFrom (r : Rules) (inExpression : Bool) (stop : At) :
    Nat → PathParts → Parse PathParts
  | 0, _ => refuse
  | fuel + 1, p => do
    if ← sees fun ts => atOp "::" ts && !third stop ts then
      let colons ← sign "::"
      let p ← segment r inExpression { p with single := false } (p.code ++ colons)
      segmentsFrom r inExpression stop fuel p
    else return p

/-- The names of a path whose tokens before them are `front`. -/
def segments (r : Rules) (inExpression : Bool) (stop : At) (p : PathParts) (front : Code) :
    Parse PathParts := do
  let p ← segment r inExpression p front
  fun ts => segmentsFrom r inExpression stop (ts.length + 1) p ts

/-- A path. Parentheses behind a double colon are no name of it. -/
def path (r : Rules) (inExpression : Bool) : Parse PathParts := do
  let root ← optSign "::"
  segments r inExpression (atGroup .paren) ⟨[], [], true, true, root.isEmpty, false⟩ root

/-- A path, perhaps behind a type in angle brackets, which may be seen as a trait. -/
def qualifiedPath (r : Rules) (inExpression : Bool) : Parse PathParts := do
  if ← sees (atOp "<") then
    let front ← row [sign "<", r.code (.type true),
      opt (atWord "as") (row [word "as", do return (← path r false).code]), sign ">", sign "::"]
    segments r inExpression (fun _ => false) ⟨[], [], true, true, false, true⟩ front
  else path r inExpression

/-- The path is the name of a macro whose arguments come next. -/
def PathParts.atMacro (p : PathParts) : At := fun ts => !p.qualified && p.wordsOnly && atCall ts

end TypeMapper.Grammar
