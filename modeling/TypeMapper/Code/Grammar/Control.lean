import TypeMapper.Code.Grammar.Bound
import TypeMapper.Code.Grammar.Operation
/-!
# Blocks and branches

An expression that ends with a block may stand among statements without a semicolon: a statement
that starts with one ends behind it, unless a point or a question mark goes on with it.

* `blockLike`: an expression that ends with its block.
* `earlyRule`: an expression that ends behind its block where it starts with one.
-/

namespace TypeMapper.Grammar

/-! ## 1. What may stand behind an operand -/

/-- The positions that a number behind a point names, each behind a point of its own. A point at the
end of the number stands before one more member. -/
def positions (text : List Char) : Option (Code × Bool) :=
  let parts := (String.ofList text).splitOn "."
  let isOpen := parts.getLast? == some ""
  let used := if isOpen then parts.dropLast else parts
  (used.mapM fun part => position? part.toList).map fun codes =>
    (codes.flatMap fun code => op "." ++ code, isOpen)

/-- A name behind a point: of a member, or of a method with its arguments. -/
def namedMember (r : Rules) : Parse Code :=
  row [name, opt (atOp "::") do
    require (← sees (third (atOp "<")))
    let (args, _) ← arguments r
    require (← sees (atGroup .paren))
    return args]

/-- A member behind a point. -/
def access (r : Rules) : Parse Code := do
  let point ← sign "."
  let atWait : At := atWord "await"
  let named : Parse Code := do
    if ← sees atWait then word "await"
    else if ← sees atNumber then position
    else namedMember r
  if ← sees atNumber then
    fun
    | .literal text :: rest =>
      (positions text.toList).bind fun (code, isOpen) =>
        if isOpen then (row [pure (code ++ point), named]) rest else some (code, rest)
    | _ => none
  else row [pure point, named]

/-- What stands behind an operand: arguments, members, positions and question marks; in at most
`fuel` steps. -/
def trailersFrom (r : Rules) : Nat → Spelling → Parse Spelling
  | 0, _ => refuse
  | fuel + 1, e => do
    let continued (p : Parse Code) : Parse Spelling := do
      trailersFrom r fuel ⟨e.code ++ (← p), .plain⟩
    let ts ← get
    if atGroup .paren ts then continued (grouped .paren (commas (r.code (.expression true))))
    else if atGroup .bracket ts then continued (grouped .bracket (r.code (.expression true)))
    else if e.form.isRange then return e
    else if atPoint ts then continued (access r)
    else if atOp "?" ts then continued (sign "?")
    else return e

/-- What stands behind an operand. -/
def trailers (r : Rules) (e : Spelling) : Parse Spelling := fun ts =>
  trailersFrom r (ts.length + 1) e ts

/-! ## 2. Branches and loops -/

/-- What is decided on: an expression before a block. -/
def subject (r : Rules) : Parse Code := r.code (.expression false)

/-- Branches, in at most `fuel` steps. -/
def branchesFrom (r : Rules) : Nat → Parse Code
  | 0 => refuse
  | fuel + 1 => do
    let front ← row [word "if", subject r, block r]
    if ← sees (atWord "else") then
      let mark ← word "else"
      let other ← if ← sees (atWord "if") then branchesFrom r fuel else block r
      return front ++ mark ++ other
    else return front

/-- A case of a value. One that does not end with a block has a comma behind it, if another
follows. -/
def arm (r : Rules) : Parse Code := do
  let front ← row [attributes r, r.code (.pattern true),
    opt (atWord "if") (row [word "if", r.code (.expression true)]), sign "=>"]
  let body ← r .early
  let last ← sees atEnd
  let comma ← match body.form with
    | .blockLike => optSign ","
    | _ => if last then pure [] else sign ","
  return front ++ body.code ++ comma

/-- The cases of a value. -/
def arms (r : Rules) : Parse Code := many (fun ts => !atEnd ts) (arm r)

/-- A loop, or a block that a label may stand before. -/
def repeated (r : Rules) : Parse Code := do
  let ts ← get
  if atWord "while" ts then row [word "while", subject r, describedBlock r]
  else if atWord "for" ts then
    row [word "for", r.code (.pattern true), word "in", subject r, describedBlock r]
  else if atWord "loop" ts then row [word "loop", describedBlock r]
  else describedBlock r

/-- An expression that ends with its block. -/
def blockLike (r : Rules) : Parse Spelling := do
  let ts ← get
  let code ←
    if atWord "if" ts then fun ts => branchesFrom r (ts.length + 1) ts
    else if atWord "match" ts then
      row [word "match", subject r, grouped .brace (row [innerAttributes r, arms r])]
    else if atWord "try" ts then row [word "try", block r]
    else if atWords ["unsafe", "const"] ts then row [anyWord, describedBlock r]
    else if atLifetime ts then row [anyLifetime, sign ":", repeated r]
    else repeated r
  return ⟨code, .blockLike⟩

/-- An expression that ends with its block starts here. -/
def atBlockLike : At := fun ts =>
  atWords ["if", "while", "loop", "match", "unsafe"] ts || atGroup .brace ts || atLifetime ts
    || (atWord "for" ts && !second atParameters ts)
    || (atWords ["try", "const"] ts && second (atGroup .brace) ts)

/-! ## 3. Expressions among statements -/

/-- An expression that ends behind its block where it starts with one. Attributes of an expression
that is written as it was read are left out. -/
def earlyRule (r : Rules) : Parse Spelling := do
  let front ← attributes r
  let first ← if ← sees atBlockLike then blockLike r else r (.operand true)
  let described (e : Spelling) : Spelling := match e.form with
    | .asRead => e
    | _ => { e with code := front ++ e.code }
  match first.form with
  | .blockLike =>
    if ← sees fun ts => atPoint ts || atOp "?" ts then
      operations r true 0 (described (← trailers r first))
    else return described first
  | _ => operations r true 0 (described first)

end TypeMapper.Grammar
