import TypeMapper.Code.Grammar.Item
import TypeMapper.Code.Grammar.Operation
/-!
# Statements

A block is a row of statements: declarations of variables, items, calls of macros and expressions. A
statement ends with a semicolon, unless it ends with a block or is the last one.

* `statementsRule`: the statements of a block.
-/

namespace TypeMapper.Grammar

/-! ## 1. Variables -/

/-- The last token is a block. -/
def endsWithBlock (code : Code) : Bool :=
  match code.getLast? with
  | some (.group .brace _) => true
  | _ => false

/-- What a variable is at first, and what happens if its pattern does not fit. -/
def initial (r : Rules) : Parse Code := do
  let value ← assigned r
  if ← sees fun ts => !endsWithBlock value && atWord "else" ts then
    row [pure value, word "else", block r]
  else return value

/-- A declaration of variables. -/
def bindings (r : Rules) : Parse Code :=
  row [word "let", r.code (.pattern false), opt (atOp ":") (row [sign ":", r.code (.type true)]),
    opt (atOp "=") (initial r), sign ";"]

/-! ## 2. Statements -/

/-- What follows the path of a macro, if one is called here. -/
def behindMacroPath (ts : Code) : Option Code :=
  match modulePath ts with
  | some (_, rest) => if atOp "!" rest then some rest else none
  | none => none

/-- A macro is declared with a name here. -/
def atNamedMacro : At := fun ts =>
  (behindMacroPath ts).any (second fun ts => atName ts || atWord "try" ts)

/-- A macro with braces is called here, and nothing is done with its value. -/
def atBlockMacro : At := fun ts =>
  (behindMacroPath ts).any fun ts =>
    second (atGroup .brace) ts && !third (fun ts => atPoint ts || atOp "?" ts) ts

/-- A word of an item and the next word, where the first may start an expression as well. -/
def atQualifiedItem : At := fun ts =>
  let behind := second
  let atFunctionMark := atWords ["unsafe", "extern", "fn"]
  (atWord "static" ts && (behind (atWord "mut") ts || behind atName ts))
    || (atWord "const" ts
        && !(behind (atGroup .brace) ts || behind (atWords ["static", "move"]) ts
          || behind (atOp "|") ts || (behind (atWord "async") ts && !third atFunctionMark ts)))
    || (atWord "unsafe" ts && !behind (atGroup .brace) ts)
    || (atWord "async" ts && behind atFunctionMark ts)
    || (atWord "crate" ts && !behind (atOp "::") ts)
    || (atWord "union" ts && behind atName ts)
    || (atWord "auto" ts && behind (atWord "trait") ts)
    || (atWord "default" ts && behind (atWords ["unsafe", "impl"]) ts)

/-- An item starts here, behind its attributes. -/
def atItem : At := fun ts =>
  atWords ["pub", "extern", "use", "fn", "mod", "type", "struct", "enum", "trait", "impl",
    "macro"] ts || atQualifiedItem ts || atNamedMacro ts

/-- A statement, and whether a further one needs a semicolon before it. Attributes of an expression
that starts as it was read are left out. -/
def statement (r : Rules) : Parse (Code × Bool) := do
  let start ← get
  let front ← attributes r
  let ts ← get
  if !atNamedMacro ts && atBlockMacro ts then
    return (front ++ (← row [modulePath, macroCall, optSign ";"]), false)
  else if atWord "let" ts then return (front ++ (← bindings r), false)
  else if atItem ts then return (← itemBehind r start front, false)
  else
    let e ← r .early
    let close ← optSign ";"
    let needs := match e.form with
      | .blockLike => false
      | .macroCall braces => !braces
      | _ => true
    return ((if e.form.startsAsRead then [] else front) ++ e.code ++ close,
      close.isEmpty && needs)

/-- Statements, in at most `fuel` steps. -/
def statementsFrom (r : Rules) : Nat → Parse Code
  | 0 => refuse
  | fuel + 1 => do
    let empties ← many (atOp ";") (sign ";")
    if ← sees atEnd then return empties
    let (code, needs) ← statement r
    if ← sees atEnd then return empties ++ code
    require !needs
    let more ← statementsFrom r fuel
    return empties ++ code ++ more

/-- The statements of a block. -/
def statementsRule (r : Rules) : Parse Spelling :=
  plainly fun ts => statementsFrom r (ts.length + 1) ts

end TypeMapper.Grammar
