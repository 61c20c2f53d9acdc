import TypeMapper.Code.Grammar.Path
/-!
# Bounds and parameters

A bound is a lifetime, a trait, or a list of what a type captures. Parameters stand for lifetimes,
types and constants, and a clause behind them may bound what they make.

* `boundRule`: one bound; `bounds`: several with plus signs.
* `binder`: lifetimes and other parameters that a phrase is for.
* `parameters`, `whereClause`: the parameters of an item and what must hold of them.
-/

namespace TypeMapper.Grammar

/-! ## 1. Parameters -/

/-- A parameter that is a type, with its bounds and what it is by default. -/
def typeParameter (r : Rules) : Parse Code := do
  let mark ← name
  let colon ← optSign ":"
  let bounds ← if colon.isEmpty then pure []
    else chain (fun ts => atEnd ts || atOps [",", ">", "="] ts) "+" (r.code (.bound false true))
  let default ← opt (atOp "=") (row [sign "=", r.code (.type true)])
  return mark ++ (if bounds.isEmpty then [] else colon ++ bounds) ++ default

/-- A parameter that is a lifetime, with those that it outlives. -/
def lifetimeParameter : Parse Code := do
  let mark ← anyLifetime
  let colon ← optSign ":"
  let bounds ← if colon.isEmpty then pure []
    else chain (fun ts => atEnd ts || atOps [",", ">"] ts) "+" anyLifetime
  return mark ++ (if bounds.isEmpty then [] else colon ++ bounds)

/-- A parameter that is a constant, with the constant or the name that it is by default. -/
def constantParameter (r : Rules) : Parse Code :=
  row [word "const", name, sign ":", r.code (.type true), opt (atOp "=") (row [sign "=", do
    if ← sees atName then name else constant r])]

/-- A parameter, and whether it is a lifetime. -/
def parameter (r : Rules) : Parse (Bool × Code) := do
  let front ← attributes r
  if ← sees atLifetime then return (true, front ++ (← lifetimeParameter))
  if ← sees atName then return (false, front ++ (← typeParameter r))
  return (false, front ++ (← constantParameter r))

/-- Parameters that a phrase is for. -/
def binder (r : Rules) : Parse Code := do
  let opening ← row [word "for", sign "<"]
  let items ← listUntil (atOp ">") "," (parameter r)
  let closing ← sign ">"
  return opening ++ listed (items.map fun p => (p.1.2, p.2)) ++ closing

/-- A parameter of an item, which may be left open. -/
def itemParameter (r : Rules) : Parse (Bool × Code) := do
  let front ← attributes r
  if ← sees (atWord "_") then return (false, front ++ (← word "_"))
  let (isLifetime, code) ← parameter r
  return (isLifetime, front ++ code)

/-- The parameters of an item, lifetimes first; empty brackets are left out. -/
def parameters (r : Rules) : Parse Code :=
  opt (atOp "<") do
    let opening ← sign "<"
    let items ← listUntil (atOp ">") "," (itemParameter r)
    let closing ← sign ">"
    return if items.isEmpty then [] else opening ++ firstOnes items ++ closing

/-- An opening bracket starts parameters, and not a path. -/
def atParameters : At := fun ts =>
  let named (ts : Code) := second (fun ts => atLifetime ts || atName ts) ts
    && third (fun ts => atOps [">", ",", "="] ts || atColon ts) ts
  atOp "<" ts && (second (atOps [">", "#"]) ts || named ts || second (atWord "const") ts)

/-! ## 2. Bounds -/

/-- The result of a function. -/
def result (r : Rules) (plus : Bool) : Parse Code :=
  opt (atOp "->") (row [sign "->", r.code (.type plus)])

/-- The path of a trait. A function trait has its parameters in parentheses, before which double
colons are left out. -/
def traitPath (r : Rules) : Parse Code := do
  let path ← path r false
  let atParen : At := atGroup .paren
  if path.bare && (← sees fun ts => atParen ts || (atOp "::" ts && third atParen ts)) then
    let _ ← optSign "::"
    let call ← row [grouped .paren (commas (r.code (.type true))), result r false]
    return path.stem ++ call
  return path.code

/-- A trait: for some parameters, under a condition, or an optional one. An optional trait is for no
parameters. -/
def traitBound (r : Rules) (conditional : Bool) : Parse Spelling := do
  let front ← opt (atWord "for") (binder r)
  let condition ← if ← sees (atGroup .bracket) then grouped .bracket (word "const")
    else optWord "const"
  require (conditional || condition.isEmpty)
  let mark ← optSign "?"
  require (front.isEmpty || mark.isEmpty)
  let code := front ++ condition ++ mark ++ (← traitPath r)
  return ⟨code, if condition.isEmpty then .trait code else .conditional⟩

/-- A trait in parentheses. -/
def parenBound (r : Rules) (conditional : Bool) : Parse Spelling := fun
  | .group .paren inner :: rest =>
    (whole (traitBound r conditional) inner).map fun s => ({ s with code := parens s.code }, rest)
  | _ => none

/-- A list of what a type captures, lifetimes first. -/
def capture : Parse Code := do
  let opening ← row [word "use", sign "<"]
  let item : Parse (Bool × Code) := do
    if ← sees atLifetime then return (true, ← anyLifetime)
    return (false, ← nameOr ["Self"])
  let items ← listUntil (atOp ">") "," item
  let closing ← sign ">"
  return opening ++ firstOnes items ++ closing

/-- A bound. One that holds under a condition is written as it was read. -/
def boundRule (r : Rules) (captures conditional : Bool) : Parse Spelling := do
  if ← sees atLifetime then return ← plainly anyLifetime
  if ← sees (atWord "use") then
    require captures
    return ← plainly capture
  let start ← get
  let bound ← if ← sees (atGroup .paren) then parenBound r conditional
    else traitBound r conditional
  match bound.form with
  | .conditional => return ⟨between start (← get), .conditional⟩
  | _ => return bound

/-- A bound may follow a plus sign. -/
def atBound (conditional : Bool) : At := fun ts =>
  atAnyWord ts || atOps ["::", "?"] ts || atLifetime ts || atGroup .paren ts
    || (conditional && atGroup .bracket ts)

/-- Several bounds, and whether one of them is a trait. -/
structure Bounds where
  code : Code
  hasTrait : Bool
  deriving Inhabited

/-- The bound is a trait. -/
def Form.isTrait : Form → Bool
  | .trait _ => true
  | .conditional => true
  | _ => false

/-- Bounds behind one that was read, each behind a plus sign; the last plus sign may stand alone. In
at most `fuel` steps. -/
def boundsFrom (r : Rules) (captures conditional : Bool) : Nat → Bounds → Parse Bounds
  | 0, _ => refuse
  | fuel + 1, b => do
    if ← sees (atOp "+") then
      let plus ← sign "+"
      if ← sees (atBound conditional) then
        let next ← r (.bound captures conditional)
        boundsFrom r captures conditional fuel
          ⟨b.code ++ plus ++ next.code, b.hasTrait || next.form.isTrait⟩
      else return { b with code := b.code ++ plus }
    else return b

/-- Bounds behind one that was read. -/
def boundsBehind (r : Rules) (captures conditional : Bool) (b : Bounds) : Parse Bounds :=
  fun ts => boundsFrom r captures conditional (ts.length + 1) b ts

/-- Bounds of which one is a trait. -/
def bounds (r : Rules) (plus captures conditional : Bool) : Parse Code := do
  let first ← r (.bound captures conditional)
  let b : Bounds := ⟨first.code, first.form.isTrait⟩
  let b ← if plus then boundsBehind r captures conditional b else pure b
  require b.hasTrait
  return b.code

/-! ## 3. Clauses -/

/-- Predicates of a clause end here. -/
def atClauseEnd : At := fun ts =>
  atEnd ts || atGroup .brace ts || atOps [",", ";", "="] ts || atColon ts

/-- What must hold: bounds of a lifetime or of a type. -/
def predicate (r : Rules) : Parse Code := do
  if ← sees fun ts => atLifetime ts && second (atOp ":") ts then
    row [anyLifetime, sign ":",
      chain (fun ts => atClauseEnd ts || atOp ":" ts) "+" anyLifetime]
  else
    row [opt (atWord "for") (binder r), r.code (.type true), sign ":",
      chain atClauseEnd "+" (r.code (.bound false true))]

/-- A clause of what must hold; an empty one is left out. -/
def whereClause (r : Rules) : Parse Code :=
  opt (atWord "where") do
    let mark ← word "where"
    require !(← sees atParameters)
    let predicates ← chain atClauseEnd "," (predicate r)
    return if predicates.isEmpty then [] else mark ++ predicates

end TypeMapper.Grammar
