import TypeMapper.Code.Grammar.Bound
/-!
# Types

A type is read by what it starts with. Where bounds may follow one another, a trait and what follows
it behind plus signs is one type; a function trait has its parameters only where a bound stands, so
that the parentheses behind a path are no part of a type.

* `typeRule`: a type.
* `parenType`, `functionType`, `namedType`: the types that take more than a line.
-/

namespace TypeMapper.Grammar

/-! ## 1. Parentheses -/

/-- What stands in parentheses: one type, or the items of a tuple. -/
def parenContent (r : Rules) : Parse Spelling := do
  let first ← r (.type true)
  if ← sees (atOp ",") then
    plainly (row [pure first.code, sign ",", commas (r.code (.type true))])
  else return first

/-- Bounds behind plus signs, each of which needs one. -/
def furtherBounds (r : Rules) : Parse Code :=
  many (atOp "+") (row [sign "+", r.code (.bound false false)])

/-- A type in parentheses, or a tuple. A single trait in them may be followed by more bounds. -/
def parenType (r : Rules) (plus : Bool) : Parse Spelling := fun
  | .group .paren inner :: rest =>
    if atEnd inner then some (⟨parens [], .plain⟩, rest)
    else if atLifetime inner then
      (whole (bounds r true false false) inner).map fun code => (⟨parens code, .plain⟩, rest)
    else if atOp "?" inner then
      (whole (traitBound r false) inner).bind fun bound =>
        (furtherBounds r rest).map fun p =>
          (⟨parens bound.code ++ p.1, if p.1.isEmpty then bound.form else .plain⟩, p.2)
    else
      (whole (parenContent r) inner).bind fun type =>
        let further (bare : Code) : Option (Spelling × Code) :=
          (furtherBounds r rest).map fun p => (⟨parens bare ++ p.1, .plain⟩, p.2)
        match plus && atOp "+" rest, type.form with
        | true, .path _ => further type.code
        | true, .trait bare => further bare
        | _, _ => some (⟨parens type.code, .plain⟩, rest)
  | _ => none

/-! ## 2. Functions -/

/-- A parameter of a function type: a type, perhaps with a name. The object of a method, which only
the first one may be, is written as it was read where it is mutable. -/
def functionParameter (r : Rules) (isFirst : Bool) : Parse Code := do
  let start ← get
  let atMutable : At := fun ts => isFirst && atWord "mut" ts && second (atWord "self") ts
  let mutable ← sees atMutable
  if mutable then let _ ← word "mut"
  let isSelf ← sees fun ts => isFirst && atWord "self" ts
  let named ← sees fun ts => (atName ts || atWord "_" ts || isSelf) && second atColon ts
  let label ← if named then row [anyWord, sign ":"] else pure []
  if ← sees fun ts => !(named && isSelf) && atMutable ts then
    let _ ← row [word "mut", word "self"]
    return between start (← get)
  if mutable && !named then
    let _ ← word "self"
    return between start (← get)
  let type ← r.code (.type true)
  let stop ← get
  return if mutable then between start stop else label ++ type

/-- The mark of further parameters of any types, perhaps with a name. -/
def atVariadic : At := fun ts =>
  atOp "..." ts
    || ((atName ts || atWord "_" ts) && second (atOp ":") ts && third (atOp "...") ts)

/-- Parameters of a function type, in at most `fuel` steps. -/
def functionParametersFrom (r : Rules) : Nat → Bool → Parse Code
  | 0, _ => refuse
  | fuel + 1, isFirst => do
    if ← sees atEnd then return []
    let front ← attributes r
    if ← sees atVariadic then
      let mark ← row [opt atAnyWord (row [anyWord, sign ":"]), sign "...", optSign ","]
      return front ++ mark
    let parameter ← functionParameter r isFirst
    if ← sees atEnd then return front ++ parameter
    let comma ← sign ","
    let more ← functionParametersFrom r fuel false
    return front ++ parameter ++ comma ++ more

/-- The convention by which a function is called. -/
def convention : Parse Code := opt (atWord "extern") (row [word "extern", opt atText textLiteral])

/-- A function type. -/
def functionType (r : Rules) : Parse Code :=
  row [optWord "unsafe", convention, word "fn",
    grouped .paren fun ts => functionParametersFrom r (ts.length + 1) true ts, result r false]

/-! ## 3. Named types -/

/-- A type that a path names, a call of a macro, or the first of several bounds. -/
def namedType (r : Rules) (plus : Bool) (front : Code) : Parse Spelling := do
  let path ← qualifiedPath r false
  if path.qualified then return ⟨path.code, .plain⟩
  if ← sees path.atMacro then return ← plainly (row [pure path.code, macroCall])
  let bare := front ++ path.code
  if ← sees fun ts => plus && atOp "+" ts then
    let all ← boundsBehind r false false ⟨bare, true⟩
    return ⟨all.code, .plain⟩
  return ⟨bare, if front.isEmpty then .path path.single else .trait bare⟩

/-- A type that starts with a name. -/
def atNamed : At := fun ts => atName ts || atWords moduleWords ts

/-- A type that starts with the mark of a function. -/
def atFunction : At := atWords ["fn", "unsafe", "extern"]

/-- A type for some parameters. -/
def boundType (r : Rules) (plus : Bool) : Parse Spelling := do
  let front ← binder r
  if ← sees atFunction then plainly (row [pure front, functionType r])
  else
    require (← sees atNamed)
    namedType r plus front

/-! ## 4. Types -/

/-- A trait object. One with a star is written as it was read. -/
def objectType (r : Rules) (plus : Bool) : Parse Code := do
  let start ← get
  let mark ← word "dyn"
  let star ← optSign "*"
  let all ← bounds r plus false false
  let stop ← get
  return if star.isEmpty then mark ++ all else between start stop

/-- A slice, or an array with its length. -/
def bracketType (r : Rules) : Parse Code :=
  grouped .bracket (row [r.code (.type true),
    opt (atOp ";") (row [sign ";", r.code (.expression true)])])

/-- A type, by what it starts with. -/
def typeRule (r : Rules) (plus : Bool) : Parse Spelling := do
  let ts ← get
  let inner := r.code (.type false)
  if atWord "for" ts then boundType r plus
  else if atGroup .paren ts then parenType r plus
  else if atFunction ts then plainly (functionType r)
  else if atNamed ts || atOps ["::", "<"] ts then namedType r plus []
  else plainly (
    if atWord "dyn" ts then objectType r plus
    else if atGroup .bracket ts then bracketType r
    else if atOp "*" ts then row [sign "*", oneOf ["const", "mut"], inner]
    else if atOp "&" ts then
      row [sign "&", opt atLifetime anyLifetime, optWord "mut", inner]
    else if atOp "!" ts then sign "!"
    else if atWord "impl" ts then row [word "impl", bounds r plus true true]
    else if atWord "_" ts then word "_"
    else if atLifetime ts then bounds r true false false
    else refuse)

end TypeMapper.Grammar
