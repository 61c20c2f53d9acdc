import TypeMapper.Code.Grammar.Path
/-!
# Operations

Operands are joined by operators, of which some bind more tightly than others. A range is no left
operand, comparisons do not follow one another, and what is behind a cast must not look like a part
of its type.

* `Level`: how tightly an operator binds.
* `operations`: the operations behind a first operand; `rangeEnd`: the end of a range.
-/

namespace TypeMapper.Grammar

/-! ## 1. Levels -/

/-- How tightly an operator binds; a greater one binds more tightly. -/
abbrev Level := Nat

namespace Level

def assignment : Level := 1
def range : Level := 2
def comparison : Level := 6
def cast : Level := 13

/-- The least level in the right operand of an operator: assignments are grouped from the right,
all others from the left. -/
def above (level : Level) : Level := if level == assignment then level else level + 1

end Level

/-- The operators between two operands, longer ones before those that they start with. -/
def binaryOperators : List (String × Level) :=
  [("<<=", 1), (">>=", 1), ("+=", 1), ("-=", 1), ("*=", 1), ("/=", 1), ("%=", 1), ("^=", 1),
   ("&=", 1), ("|=", 1), ("&&", 4), ("||", 3), ("<<", 10), (">>", 10), ("==", 6), ("<=", 6),
   ("!=", 6), (">=", 6), ("+", 11), ("-", 11), ("*", 12), ("/", 12), ("%", 12), ("^", 8), ("&", 9),
   ("|", 7), ("<", 6), (">", 6)]

/-- The operator that comes next. -/
def operatorAt (ts : Code) : Option (String × Level) := binaryOperators.find? fun p => atOp p.1 ts

/-! ## 2. Forms -/

namespace Form

/-- A range. -/
def isRange : Form → Bool
  | .range _ => true
  | _ => false

/-- A comparison. -/
def isComparison : Form → Bool
  | .operation b _ => b
  | _ => false

/-- The first operand of all is written as it was read. -/
def startsAsRead : Form → Bool
  | .asRead => true
  | .operation _ b => b
  | _ => false

end Form

/-! ## 3. Operations -/

/-- No end of a range stands here. -/
def atNoEnd (structs : Bool) : At := fun ts =>
  atEnd ts || atPoint ts || (!structs && atGroup .brace ts) || atWord "as" ts
    || atOps [",", ";", "?", "=>", "=", "+", "/", "%", "^", ">", "<=", "!=", "-=", "*=", "&=", "|=",
        "<<="] ts

/-- The mark of a range and its end, which `operand` reads; a range that includes its end has
one. -/
def rangeTail (structs : Bool) (operand : Parse Spelling) : Parse Spelling := do
  require !(← sees (atOp "..."))
  if ← sees (atOp "..=") then
    let mark ← sign "..="
    return ⟨mark ++ (← operand).code, .range false⟩
  let mark ← sign ".."
  if ← sees (atNoEnd structs) then return ⟨mark, .range true⟩
  return ⟨mark ++ (← operand).code, .range false⟩

/-- A cast is followed by nothing that looks like a part of its type. -/
def atCastEnd : At := fun ts =>
  !(atPoint ts || atOp "?" ts || atGroup .bracket ts || atGroup .paren ts)

/-- The operations of a level or of a greater one behind a first operand, in at most `fuel`
steps. -/
def operationsFrom (r : Rules) (structs : Bool) : Nat → Level → Spelling → Parse Spelling
  | 0, _, _ => refuse
  | fuel + 1, least, left => do
    let right (level : Level) : Parse Spelling := do
      operationsFrom r structs fuel level.above (← r (.operand structs))
    let continued (tail : Code) (form : Form) : Parse Spelling :=
      operationsFrom r structs fuel least ⟨left.code ++ tail, form⟩
    let ts ← get
    if left.form.isRange then return left
    match operatorAt ts with
    | some (s, level) =>
      if level < least then return left
      let comparison := level == Level.comparison
      require !(comparison && left.form.isComparison)
      let mark ← sign s
      let operand ← right level
      continued (mark ++ operand.code) (.operation comparison left.form.startsAsRead)
    | none =>
      if least ≤ Level.assignment && atOp "=" ts && !atOp "=>" ts then
        let mark ← sign "="
        let operand ← right Level.assignment
        continued (mark ++ operand.code) (.operation false left.form.startsAsRead)
      else if least ≤ Level.range && atOp ".." ts then
        let tail ← rangeTail structs (right Level.range)
        continued tail.code tail.form
      else if least ≤ Level.cast && atWord "as" ts then
        let tail ← row [word "as", r.code (.type false)]
        require (← sees atCastEnd)
        continued tail (.operation false left.form.startsAsRead)
      else return left

/-- The operations of a level or of a greater one behind a first operand. -/
def operations (r : Rules) (structs : Bool) (least : Level) (left : Spelling) : Parse Spelling :=
  fun ts => operationsFrom r structs (ts.length + 1) least left ts

/-- The end of a range that starts an expression. -/
def rangeEnd (r : Rules) (structs : Bool) : Parse Spelling := do
  operations r structs Level.range.above (← r (.operand structs))

/-- An expression: operands with operators between them. -/
def expressionRule (r : Rules) (structs : Bool) : Parse Spelling := do
  operations r structs 0 (← r (.operand structs))

end TypeMapper.Grammar
