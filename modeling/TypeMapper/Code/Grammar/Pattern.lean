import TypeMapper.Code.Grammar.Path
/-!
# Patterns

A pattern is a name, a literal, a range, a path with patterns of its parts, or several patterns of
which one must fit.

* `patternRule`: a pattern.
* `patternBound`: an end of a range; `partPattern`: the pattern of a part of a value.
-/

namespace TypeMapper.Grammar

/-! ## 1. Ranges -/

/-- A path that is no type starts here. -/
def atPath : At := fun ts => atName ts || atOps ["::", "<"] ts || atWords moduleWords ts

/-- No end of a range stands here. -/
def atNoBound : At := fun ts =>
  atEnd ts || atOps ["|", "=", ",", ";"] ts || atColon ts || atWord "if" ts

/-- A block that is evaluated beforehand. -/
def constantBlock (r : Rules) : Parse Code := row [word "const", describedBlock r]

/-- An end of a range: a literal, a path or a constant. -/
def patternBound (r : Rules) : Parse Code := do
  let ts ← get
  if atLiteral ts then anyLiteral
  else if atPath ts then return (← qualifiedPath r true).code
  else constantBlock r

/-- The mark of a range that includes its end. -/
def atClosedRange : At := atOps ["..=", "..."]

/-- The mark of a range. The one of three points is written as it is today. -/
def rangeMark : Parse Code := do
  if ← sees (atOp "..=") then sign "..="
  else if ← sees (atOp "...") then do
    let _ ← sign "..."
    return op "..="
  else sign ".."

/-- A range behind its start. One that includes its end has one. -/
def rangeBehind (r : Rules) (start : Code) : Parse Spelling := do
  let closed ← sees atClosedRange
  let mark ← rangeMark
  if ← sees fun ts => !closed && atNoBound ts then
    return ⟨start ++ mark, .range true⟩
  return ⟨start ++ mark ++ (← patternBound r), .range start.isEmpty⟩

/-- A range without a start, or the place of all that is left out. -/
def openRange (r : Rules) : Parse Spelling := do
  require !(← sees (atOp "..."))
  let pattern ← rangeBehind r []
  return if pattern.code.length == 2 then { pattern with form := .rest } else pattern

/-! ## 2. Parts -/

/-- The name or the position of a part. -/
def member : Parse Code := do
  if ← sees atName then name else position

/-- The pattern of a part of a value: with the name of the part, or the name alone. -/
def partPattern (r : Rules) : Parse Code := do
  let start ← get
  let box ← optWord "box"
  let mode ← row [optWord "ref", optWord "mut"]
  if !(box.isEmpty && mode.isEmpty) then
    let part ← name
    let stop ← get
    return if box.isEmpty then mode ++ part else between start stop
  let named ← sees atName
  let part ← member
  if ← sees fun ts => !named || atOp ":" ts then
    row [pure part, sign ":", r.code (.pattern true)]
  else return part

/-- Patterns of parts, in at most `fuel` steps; nothing stands behind the place of those that are
left out. -/
def partPatternsFrom (r : Rules) : Nat → Parse Code
  | 0 => refuse
  | fuel + 1 => do
    if ← sees atEnd then return []
    let front ← attributes r
    if ← sees (atOp "..") then return front ++ (← sign "..")
    let part ← partPattern r
    if ← sees atEnd then return front ++ part
    let comma ← sign ","
    let more ← partPatternsFrom r fuel
    return front ++ part ++ comma ++ more

/-- Patterns of parts in braces. -/
def partPatterns (r : Rules) : Parse Code :=
  grouped .brace fun ts => partPatternsFrom r (ts.length + 1) ts

/-- Patterns with commas. -/
def patterns (r : Rules) : Parse Code := commas (r.code (.pattern true))

/-- A pattern in a slice. A range with an open end is none. -/
def slicePattern (r : Rules) : Parse Code := do
  let pattern ← r (.pattern true)
  match pattern.form with
  | .range true => refuse
  | _ => return pattern.code

/-! ## 3. Patterns -/

/-- A pattern that starts with a path. -/
def pathPattern (r : Rules) : Parse Spelling := do
  let path ← qualifiedPath r true
  let ts ← get
  if path.atMacro ts then plainly (row [pure path.code, macroCall])
  else if atGroup .brace ts then plainly (row [pure path.code, partPatterns r])
  else if atGroup .paren ts then
    plainly (row [pure path.code, grouped .paren (patterns r)])
  else if atOp ".." ts then rangeBehind r path.code
  else return ⟨path.code, .plain⟩

/-- A pattern that starts with a literal or a constant. -/
def boundPattern (r : Rules) : Parse Spelling := do
  let start ← patternBound r
  if ← sees (atOp "..") then rangeBehind r start else return ⟨start, .plain⟩

/-- A name, with the pattern that it stands for. -/
def namePattern (r : Rules) : Parse Code :=
  row [optWord "ref", optWord "mut", nameOr ["self"],
    opt (atOp "@") (row [sign "@", r.code (.pattern false)])]

/-- A path starts here, and more than a name. -/
def atPathPattern : At := fun ts =>
  (atName ts && second (fun ts => atOps ["::", "!", ".."] ts || atGroup .brace ts
      || atGroup .paren ts) ts)
    || (atWord "self" ts && second (atOp "::") ts)
    || atOps ["::", "<"] ts || atWords ["Self", "super", "crate"] ts

/-- One pattern. -/
def onePattern (r : Rules) : Parse Spelling := do
  let ts ← get
  if atPathPattern ts then pathPattern r
  else if atWord "box" ts then
    return ⟨← verbatim (row [word "box", r.code (.pattern false)]), .asRead⟩
  else if atOp "-" ts || atLiteral ts || atWord "const" ts then boundPattern r
  else if atOp ".." ts then openRange r
  else plainly (
    if atWord "_" ts then word "_"
    else if atWords ["ref", "mut", "self"] ts || atName ts then namePattern r
    else if atOp "&" ts then row [sign "&", optWord "mut", r.code (.pattern false)]
    else if atGroup .paren ts then grouped .paren (patterns r)
    else if atGroup .bracket ts then grouped .bracket (commas (slicePattern r))
    else refuse)

/-- A further pattern of several follows. -/
def atChoice : At := fun ts => atOp "|" ts && !atOps ["||", "|="] ts

/-- A pattern, perhaps one of several. -/
def patternRule (r : Rules) (choice : Bool) : Parse Spelling := do
  if !choice then return ← onePattern r
  let front ← optSign "|"
  let first ← r (.pattern false)
  let more ← many atChoice (row [sign "|", r.code (.pattern false)])
  let form := if front.isEmpty && more.isEmpty then first.form else .plain
  return ⟨front ++ first.code ++ more, form⟩

end TypeMapper.Grammar
