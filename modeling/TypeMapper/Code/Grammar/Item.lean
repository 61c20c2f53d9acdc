import TypeMapper.Code.Grammar.Signature
/-!
# Items

An item declares something: a function, a type, a trait, a module. An item in a form that the
language reads but gives no meaning is written as it was read.

* `itemBehind`: an item behind its attributes; `itemRule`: an item.
* `Declared`: an item as it is written.
* `structItem`, `traitItem`, `implementation`, …: the kinds of items.
-/

namespace TypeMapper.Grammar

/-! ## 1. How items are written -/

/-- What is written for an item, or, if it is none, what was read. -/
abbrev Declared := Option Code

/-- An item that is written token by token. -/
def declared (p : Parse Code) : Parse Declared := do return some (← p)

/-- An item that is written as it was read. -/
def undeclared {α : Type} (p : Parse α) : Parse Declared := do
  let _ ← p
  return none

/-- An item with its attributes, which start at `start`. -/
def written (start front : Code) (p : Parse Declared) : Parse Code := do
  let item ← p
  let stop ← get
  return match item with
    | some code => front ++ code
    | none => between start stop

/-- A member of an item: its attributes and what `p` makes of them. -/
def described (r : Rules) (p : Parse Declared) : Parse Code := do
  let start ← get
  let front ← attributes r
  written start front p

/-- Items to the end. -/
def itemsIn (p : Parse Code) : Parse Code := many (fun ts => !atEnd ts) p

/-- The members of an item in braces. -/
def membersIn (r : Rules) (p : Parse Code) : Parse Code :=
  grouped .brace (row [innerAttributes r, itemsIn p])

/-- The rest of a row behind how far an item is seen, if that can be read. -/
def behindVisibility (ts : Code) : Option (Bool × Code) :=
  (visibility ts).map fun p => (p.1.isEmpty, p.2)

/-- A call of a macro as an item; `named` is whether a name may follow the mark. -/
def macroItem (named : Bool) : Parse Code := do
  let front ← row [modulePath, sign "!",
    opt (fun ts => named && (atName ts || atWord "try" ts)) anyWord]
  let inBraces ← sees (atGroup .brace)
  let call ← anyGroup
  let close ← if inBraces then pure [] else sign ";"
  return front ++ call ++ close

/-- The name of a macro starts here. -/
def atMacroName : At := fun ts => atName ts || atWords ["self", "super", "crate"] ts || atOp "::" ts

/-! ## 2. Constants and types -/

/-- A value behind an equals sign. -/
def assigned (r : Rules) : Parse Code := row [sign "=", r.code (.expression true)]

/-- A constant behind how far it is seen. One without a value, with parameters or with a clause is
written as it was read; `mayLack` is whether a value may be missing. -/
def constantBehind (r : Rules) (mayLack : Bool) : Parse Declared := do
  let front ← row [word "const", nameOr ["_"]]
  let generic ← sees (atOp "<")
  let type ← row [parameters r, sign ":", r.code (.type true)]
  let value ← opt (atOp "=") (assigned r)
  let constrained ← sees (atWord "where")
  let close ← row [whereClause r, sign ";"]
  let regular := !generic && !constrained && (mayLack || !value.isEmpty)
  return if regular then some (front ++ type ++ value ++ close) else none

/-- A variable. One without a type or without a value is written as it was read. -/
def variableItem (r : Rules) : Parse Declared := do
  let front ← row [visibility, word "static", optWord "mut", name]
  if ← sees (atOp "=") then undeclared (row [assigned r, sign ";"])
  else
    let type ← row [sign ":", r.code (.type true)]
    if ← sees (atOp ";") then undeclared (sign ";")
    else declared (row [pure (front ++ type), assigned r, sign ";"])

/-- The bounds of a trait or of a type end here. -/
def atBoundsEnd (ends : At) : At := fun ts => atWord "where" ts || ends ts

/-- Bounds behind a colon up to a clause or to `ends`. -/
def boundsUntil (r : Rules) (ends : At) : Parse Code := do
  return listed (← listUntil (atBoundsEnd ends) "+" (r.code (.bound false true)))

/-- A declared type taken apart: its name with parameters, its bounds, what it is, and its clause
before or behind that. -/
structure TypeParts where
  head : Code
  bounded : Bool
  bounds : Code
  before : Code
  value : Code
  behind : Code
  deriving Inhabited

/-- A declared type behind how far it is seen; `before` and `behind` are where a clause may
stand. -/
def typeParts (r : Rules) (before behind : Bool) : Parse TypeParts := do
  let head ← row [word "type", name, parameters r]
  let colon ← optSign ":"
  let bounds ← if colon.isEmpty then pure [] else boundsUntil r (atOps ["=", ";"])
  let clauseBefore ← sees fun ts => before && atWord "where" ts
  let clause ← opt (fun _ => before) (whereClause r)
  let value ← opt (atOp "=") (row [sign "=", r.code (.type true)])
  let further ← opt (fun _ => behind && !clauseBefore) (whereClause r)
  let close ← sign ";"
  return ⟨head, !colon.isEmpty, if bounds.isEmpty then [] else colon ++ bounds, clause, value,
    further ++ close⟩

/-- The tokens of a declared type. -/
def TypeParts.code (t : TypeParts) : Code := t.head ++ t.bounds ++ t.before ++ t.value ++ t.behind

/-- A declared type that must be something, and has no bounds. -/
def TypeParts.declared (t : TypeParts) (front : Code) : Declared :=
  if t.bounded || t.value.isEmpty then none else some (front ++ t.code)

/-! ## 3. Fields -/

/-- A field with a name. One without a name may hold further fields in place of a type; they are
written as they were read. -/
def namedField (r : Rules) : Parse Code := do
  let front ← row [attributes r, visibility]
  let isOpen ← sees (atWord "_")
  let field ← row [nameOr ["_"], sign ":"]
  let atFields : At := fun ts =>
    atWord "struct" ts || (atWord "union" ts && second (atGroup .brace) ts)
  let type ← if ← sees fun ts => isOpen && atFields ts then
      verbatim (row [anyWord, r.code .fields])
    else r.code (.type true)
  return front ++ field ++ type

/-- Fields with names. -/
def fieldsRule (r : Rules) : Parse Spelling := plainly (grouped .brace (commas (namedField r)))

/-- Fields without names. -/
def positionalFields (r : Rules) : Parse Code :=
  grouped .paren (commas (row [attributes r, visibility, r.code (.type true)]))

/-- A record: its fields in braces, in parentheses, or none. -/
def structItem (r : Rules) : Parse Code := do
  let front ← row [visibility, word "struct", name, parameters r]
  let constrained ← sees (atWord "where")
  let clause ← whereClause r
  let fields ←
    if ← sees fun ts => !constrained && atGroup .paren ts then
      row [positionalFields r, whereClause r, sign ";"]
    else if ← sees (atGroup .brace) then r.code .fields
    else sign ";"
  return front ++ clause ++ fields

/-- A case of a type. How far it is seen is not written. -/
def caseOf (r : Rules) : Parse Code := do
  let front ← attributes r
  let _ ← visibility
  let field ← name
  let fields ← if ← sees (atGroup .brace) then r.code .fields
    else opt (atGroup .paren) (positionalFields r)
  return front ++ field ++ fields ++ (← opt (atOp "=") (assigned r))

/-- A type by its cases. -/
def enumItem (r : Rules) : Parse Code :=
  row [visibility, word "enum", name, parameters r, whereClause r,
    grouped .brace (commas (caseOf r))]

/-- A type whose fields share their place. -/
def unionItem (r : Rules) : Parse Code :=
  row [visibility, word "union", name, parameters r, whereClause r, r.code .fields]

/-! ## 4. Traits -/

/-- A function with or without a block. -/
def functionMember (r : Rules) : Parse Code := do
  let front ← signature r
  let body ← if ← sees (atGroup .brace) then functionBody r else sign ";"
  return front ++ body

/-- A member of a trait behind its attributes. One that says how far it is seen or that it may be
replaced is written as it was read. -/
def traitMember (r : Rules) : Parse Declared := do
  let front ← row [visibility, optWord "default"]
  let ts ← get
  let member : Parse Declared :=
    if atSignature false ts then declared (functionMember r)
    else if atWord "const" ts then constantBehind r true
    else if atWord "type" ts then do return some (← typeParts r false true).code
    else if front.isEmpty && atMacroName ts then declared (macroItem false)
    else refuse
  let code ← member
  return if front.isEmpty then code else none

/-- A trait behind its name. -/
def traitBody (r : Rules) : Parse Code := do
  let colon ← optSign ":"
  let bounds ← if colon.isEmpty then pure [] else boundsUntil r (atGroup .brace)
  let clause ← whereClause r
  let members ← membersIn r (described r (traitMember r))
  return (if bounds.isEmpty then [] else colon ++ bounds) ++ clause ++ members

/-- A trait, or another name for bounds. -/
def traitItem (r : Rules) : Parse Code := do
  let seen ← visibility
  let mark ← row [optWord "unsafe", optWord "auto"]
  let front ← row [pure (seen ++ mark), word "trait", name, parameters r]
  if ← sees fun ts => mark.isEmpty && atOp "=" ts then
    let equals ← sign "="
    let items ← listUntil (atBoundsEnd (atOp ";")) "+" (r.code (.bound false false))
    row [pure (front ++ equals ++ listed items), whereClause r, sign ";"]
  else return front ++ (← traitBody r)

/-! ## 5. Implementations -/

/-- A member of an implementation behind its attributes. A function without a block is written as it
was read. -/
def implementationMember (r : Rules) : Parse Declared := do
  let front ← row [visibility, opt (fun ts => atWord "default" ts && !second (atOp "!") ts)
    (word "default")]
  let ts ← get
  if atSignature false ts then
    let head ← signature r
    if ← sees (atOp ";") then undeclared (sign ";")
    else declared (row [pure (front ++ head), functionBody r])
  else if atWord "const" ts then return (← constantBehind r false).map (front ++ ·)
  else if atWord "type" ts then return (← typeParts r false true).declared front
  else if front.isEmpty && atMacroName ts then declared (macroItem false)
  else refuse

/-- An implementation. One that says how far it is seen, that holds under a condition, or that is of
no trait for a type is written as it was read. -/
def implementation (r : Rules) : Parse Declared := do
  let seen ← visibility
  let front ← row [optWord "default", optWord "unsafe", word "impl", opt atParameters (parameters r)]
  let condition ← opt (fun ts => atWord "const" ts || (atOp "?" ts && second (atWord "const") ts))
    (row [optSign "?", word "const"])
  let start ← get
  let negation ← opt (fun ts => atOp "!" ts && !second (atGroup .brace) ts) (sign "!")
  let first ← r (.type true)
  let stop ← get
  let ofTrait ← sees (atWord "for")
  let this ← opt (fun _ => ofTrait) (row [word "for", r.code (.type true)])
  let clause ← whereClause r
  let members ← membersIn r (described r (implementationMember r))
  let isPath := match first.form with
    | .path _ => true
    | _ => false
  let subject := if !ofTrait && !negation.isEmpty then between start stop
    else negation ++ first.code
  let regular := seen.isEmpty && condition.isEmpty && (isPath || !ofTrait)
  return if regular then some (front ++ subject ++ this ++ clause ++ members) else none

/-! ## 6. Foreign items -/

/-- A foreign item behind its attributes. One that says that it is safe, or that has a block or a
value, is written as it was read. -/
def foreignMember (r : Rules) : Parse Declared := do
  let front ← visibility
  let ts ← get
  if atSignature true ts then
    let head ← signature r
    if ← sees (atGroup .brace) then undeclared (functionBody r)
    else
      let close ← sign ";"
      return if atSafe ts then none else some (front ++ head ++ close)
  else if atWord "static" ts || (atWords ["unsafe", "safe"] ts && second (atWord "static") ts) then
    let safety ← opt (atWords ["unsafe", "safe"]) anyWord
    let head ← row [word "static", optWord "mut", name, sign ":", r.code (.type true)]
    let value ← opt (atOp "=") (assigned r)
    let close ← sign ";"
    return if safety.isEmpty && value.isEmpty then some (front ++ head ++ close) else none
  else if atWord "type" ts then
    let t ← typeParts r true true
    return if t.bounded || !t.value.isEmpty then none else some (front ++ t.code)
  else if front.isEmpty && atMacroName ts then declared (macroItem false)
  else refuse

/-- Foreign items. -/
def foreignItems (r : Rules) : Parse Code :=
  row [optWord "unsafe", convention, membersIn r (described r (foreignMember r))]

/-! ## 7. Modules and imports -/

/-- A module. -/
def moduleItem (r : Rules) : Parse Code := do
  let front ← row [visibility, optWord "unsafe", word "mod", nameOr ["try"]]
  let body ← if ← sees (atOp ";") then sign ";" else membersIn r (r.code .item)
  return front ++ body

/-- An import. One that starts at the root of all crates inside its braces is written as it was
read. -/
def importItem (r : Rules) : Parse Declared := do
  let front ← row [visibility, word "use"]
  let root ← optSign "::"
  let tree ← r (.importTree root.isEmpty)
  let close ← sign ";"
  match tree.form with
  | .rooted => return none
  | _ => return some (front ++ root ++ tree.code ++ close)

/-- Another name. -/
def renamed : Parse Code := opt (atWord "as") (row [word "as", nameOr ["_"]])

/-- The import of a crate. -/
def crateItem : Parse Code :=
  row [visibility, word "extern", word "crate", nameOr ["self"], renamed, sign ";"]

/-- A macro that is declared as an item. -/
def macroDeclaration : Parse Code :=
  row [visibility, word "macro", name, opt (atGroup .paren) anyGroup, rawGroup .brace]

/-! ## 8. Items -/

/-- A function. One without a block is written as it was read. -/
def functionItem (r : Rules) : Parse Declared := do
  let head ← row [visibility, signature r]
  if ← sees (atOp ";") then undeclared (sign ";")
  else declared (row [pure head, functionBody r])

/-- An item behind its attributes, by what stands behind how far it is seen. -/
def itemMember (r : Rules) : Parse Declared := do
  let (unseen, ts) ← StateT.lift (behindVisibility (← get))
  let atTrait : At := fun ts => atWord "trait" ts || (atWord "auto" ts && second (atWord "trait") ts)
  let foreign : Parse Declared := do
    require unseen
    declared (foreignItems r)
  if atSignature false ts then functionItem r
  else if atWord "extern" ts then
    if second (atWord "crate") ts then declared crateItem
    else if second (atGroup .brace) ts || (second atText ts && third (atGroup .brace) ts) then foreign
    else refuse
  else if atWord "use" ts then importItem r
  else if atWord "static" ts then variableItem r
  else if atWord "const" ts then do
    let front ← visibility
    return (← constantBehind r false).map (front ++ ·)
  else if atWord "unsafe" ts then
    if second atTrait ts then declared (traitItem r)
    else if second (atWord "impl") ts then implementation r
    else if second (atWord "extern") ts then foreign
    else if second (atWord "mod") ts then declared (moduleItem r)
    else refuse
  else if atWord "mod" ts then declared (moduleItem r)
  else if atWord "type" ts then do
    let front ← visibility
    return (← typeParts r true false).declared front
  else if atWord "struct" ts then declared (structItem r)
  else if atWord "enum" ts then declared (enumItem r)
  else if atWord "union" ts && second atName ts then declared (unionItem r)
  else if atTrait ts then declared (traitItem r)
  else if atWord "impl" ts || (atWord "default" ts && !second (atOp "!") ts) then implementation r
  else if atWord "macro" ts then undeclared macroDeclaration
  else if unseen && atMacroName ts then declared (macroItem true)
  else refuse

/-- An item behind its attributes, which start at `start`. -/
def itemBehind (r : Rules) (start front : Code) : Parse Code := written start front (itemMember r)

/-- An item. -/
def itemRule (r : Rules) : Parse Spelling := plainly (described r (itemMember r))

end TypeMapper.Grammar
