import TypeMapper.Code.Grammar.Control
import TypeMapper.Code.Grammar.Pattern
/-!
# Operands

An operand is a literal, a path, a group, a block or a jump, with signs and attributes in front and
members, arguments and positions behind.

* `operandRule`: an operand.
* `atom`: one without what is in front and behind; `closure`, `pathOperand`, `jump`: its larger
  kinds.
-/

namespace TypeMapper.Grammar

/-! ## 1. Functions without a name -/

/-- A function without a name starts here. -/
def atClosure : At := fun ts =>
  atOp "|" ts || atWords ["move", "static"] ts || (atWord "for" ts && second atParameters ts)
    || (atWord "const" ts && !second (atGroup .brace) ts)
    || (atWord "async" ts && second (fun ts => atOp "|" ts || atWord "move" ts) ts)

/-- A parameter of a function without a name. Attributes of a pattern that is written as it was read
are left out. -/
def closureParameter (r : Rules) : Parse Code := do
  let front ← attributes r
  let pattern ← r (.pattern false)
  if ← sees (atOp ":") then
    row [pure (front ++ pattern.code), sign ":", r.code (.type true)]
  else
    match pattern.form with
    | .asRead => return pattern.code
    | _ => return front ++ pattern.code

/-- A function without a name. One that names its result has a block. -/
def closure (r : Rules) (structs : Bool) : Parse Code := do
  let front ← row [opt (atWord "for") (binder r), optWord "const", optWord "static",
    optWord "async", optWord "move", sign "|"]
  let items ← listUntil (atOp "|") "," (closureParameter r)
  let close ← sign "|"
  let body ← if ← sees (atOp "->") then
      row [sign "->", r.code (.type true), block r]
    else r.code (.expression structs)
  return front ++ listed items ++ close ++ body

/-! ## 2. Paths -/

/-- The fields of a value, in at most `fuel` steps; nothing stands behind the value that gives the
others. -/
def fieldsFrom (r : Rules) : Nat → Parse Code
  | 0 => refuse
  | fuel + 1 => do
    if ← sees atEnd then return []
    if ← sees (atOp "..") then
      return ← row [sign "..", opt (fun ts => !atEnd ts) (r.code (.expression true))]
    let front ← attributes r
    let named ← sees atName
    let field ← member
    let value ← opt (fun ts => !named || atOp ":" ts)
      (row [sign ":", r.code (.expression true)])
    if ← sees atEnd then return front ++ field ++ value
    let comma ← sign ","
    let more ← fieldsFrom r fuel
    return front ++ field ++ value ++ comma ++ more

/-- A path starts here, or a macro. -/
def atPathOperand : At := fun ts =>
  atPath ts || (atWord "try" ts && second (atOps ["!", "::"]) ts)

/-- A path, the arguments of a macro, or the fields of a value. -/
def pathOperand (r : Rules) (structs : Bool) : Parse Spelling := do
  let path ← qualifiedPath r true
  let ts ← get
  if path.atMacro ts then
    return ⟨path.code ++ (← macroCall), .macroCall (second (atGroup .brace) ts)⟩
  if structs && atGroup .brace ts then
    let fields ← grouped .brace fun ts => fieldsFrom r (ts.length + 1) ts
    return ⟨path.code ++ fields, .plain⟩
  return ⟨path.code, .plain⟩

/-! ## 3. Jumps -/

/-- An expression starts here. -/
def atExpression : At := fun ts =>
  (atAnyWord ts && !atWord "as" ts) || atAnyGroup ts || atLiteral ts || atCall ts
    || (atOp "-" ts && !atOps ["-=", "->"] ts) || (atOp "*" ts && !atOp "*=" ts)
    || (atOp "|" ts && !atOp "|=" ts) || (atOp "&" ts && !atOp "&=" ts)
    || (atOp "<" ts && !atOps ["<=", "<<="] ts) || atOps ["..", "::", "#"] ts || atLifetime ts

/-- A jump out of a loop or a block, with its label and its value. -/
def jump (r : Rules) (structs : Bool) : Parse Code := do
  let mark ← word "break"
  require !(← sees fun ts => atLifetime ts && second (atOp ":") ts)
  let label ← opt atLifetime anyLifetime
  let value ← opt (fun ts => atExpression ts && (structs || !atGroup .brace ts))
    (r.code (.expression true))
  return mark ++ label ++ value

/-! ## 4. Operands -/

/-- The items of an array, or an item and how often it stands there. -/
def arrayItems (r : Rules) : Parse Code := do
  let item := r.code (.expression true)
  if ← sees atEnd then return []
  let first ← item
  if ← sees (atOp ";") then row [pure first, sign ";", item]
  else row [pure first, opt (fun ts => !atEnd ts) (row [sign ",", commas item])]

/-- A block that is evaluated later starts here. -/
def atLater : At := fun ts =>
  atWord "async" ts
    && (second (atGroup .brace) ts || (second (atWord "move") ts && third (atGroup .brace) ts))

/-- A phrase of the compiler starts here. -/
def atBuiltin : At := fun ts => atWord "builtin" ts && second (atOp "#") ts

/-- An operand without what is in front and behind. -/
def atom (r : Rules) (structs : Bool) : Parse Spelling := do
  let ts ← get
  let inner := r.code (.expression true)
  if atLiteral ts then plainly anyLiteral
  else if atLater ts then plainly (row [word "async", optWord "move", block r])
  else if atClosure ts then plainly (closure r structs)
  else if atBuiltin ts then
    return ⟨← verbatim (row [word "builtin", sign "#", name, rawGroup .paren]), .asRead⟩
  else if atPathOperand ts then pathOperand r structs
  else if atWord "become" ts then
    return ⟨← verbatim (row [word "become", inner]), .asRead⟩
  else if atBlockLike ts then blockLike r
  else if atOp ".." ts then rangeTail structs (rangeEnd r structs)
  else plainly (
    if atGroup .paren ts then grouped .paren (commas inner)
    else if atWord "break" ts then jump r structs
    else if atWord "continue" ts then row [word "continue", opt atLifetime anyLifetime]
    else if atWords ["return", "yield"] ts then row [anyWord, opt atExpression inner]
    else if atGroup .bracket ts then grouped .bracket (arrayItems r)
    else if atWord "let" ts then do
      let front ← row [word "let", r.code (.pattern true), sign "="]
      let value ← operations r structs Level.comparison (← r (.operand structs))
      return front ++ value.code
    else if atWord "_" ts then word "_"
    else refuse)

/-- An operand. Attributes do not stand before a range that has no start. -/
def operandRule (r : Rules) (structs : Bool) : Parse Spelling := do
  let start ← get
  let front ← attributes r
  let ts ← get
  let inner := r.code (.operand structs)
  let atRaw : At := fun ts => atWord "raw" ts && second (atWords ["mut", "const"]) ts
  if atOp "&" ts then
    plainly (row [pure front, sign "&", do
      if ← sees atRaw then row [word "raw", anyWord] else optWord "mut", inner])
  else if atOp "*" ts then plainly (row [pure front, sign "*", inner])
  else if atOp "!" ts then plainly (row [pure front, sign "!", inner])
  else if atOp "-" ts then plainly (row [pure front, sign "-", inner])
  else
    let e ← trailers r (← atom r structs)
    match e.form with
    | .asRead =>
      let stop ← get
      return { e with code := between start stop }
    | .range _ =>
      require front.isEmpty
      return e
    | _ => return { e with code := front ++ e.code }

end TypeMapper.Grammar
