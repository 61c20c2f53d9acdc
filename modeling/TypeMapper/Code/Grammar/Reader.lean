import TypeMapper.Code.Lexer
/-!
# Readers of tokens

A reader takes a phrase off the front of a row of tokens and gives the phrase as it is written, or
refuses. What to read is decided by what stands at the next few places, so that no reader takes a
phrase back.

* `Parse`: a reader; `row`, `opt`, `many`, `grouped`: readers made of others.
* `At`: a condition on what comes next; `second` and `third` look one and two places further.
* `listUntil`, `chain`: items with separators.
* `verbatim`: a phrase that is written as it was read.
-/

namespace TypeMapper.Grammar

/-! ## 1. Readers -/

/-- A reader of tokens that may refuse them. -/
abbrev Parse := StateT Code Option

/-- Refuse. -/
def refuse {α : Type} : Parse α := fun _ => none

/-- Refuse unless a condition holds. -/
def require (b : Bool) : Parse Unit := if b then pure () else refuse

/-- `p` reads all of a row. -/
def whole {α : Type} (p : Parse α) (ts : Code) : Option α :=
  match p ts with
  | some (a, []) => some a
  | _ => none

/-- Readers one behind the other. -/
def row : List (Parse Code) → Parse Code
  | [] => pure []
  | p :: ps => do
    let front ← p
    let back ← row ps
    return front ++ back

/-- The tokens from a place up to a later one. -/
def between (start stop : Code) : Code := start.take (start.length - stop.length)

/-- What `p` reads, as it was read. -/
def verbatim {α : Type} (p : Parse α) : Parse Code := do
  let start ← get
  let _ ← p
  return between start (← get)

/-! ## 2. What comes next -/

/-- A condition on the tokens that come next. -/
abbrev At := Code → Bool

/-- A condition holds here. -/
def sees (p : At) : Parse Bool := fun ts => some (p ts, ts)

/-- The tokens behind the next place; a lifetime takes one place. -/
def skip : Code → Code
  | .punct '\x27' true :: .ident _ :: rest => rest
  | _ :: rest => rest
  | [] => []

/-- A condition holds behind the next place. -/
def second (p : At) : At := fun ts => p (skip ts)

/-- A condition holds behind the next two places. -/
def third (p : At) : At := fun ts => p (skip (skip ts))

/-- Nothing comes next. -/
def atEnd : At := List.isEmpty

/-- The words that are no names. -/
def keywords : List String :=
  ["_", "abstract", "as", "async", "await", "become", "box", "break", "const", "continue", "crate",
   "do", "dyn", "else", "enum", "extern", "false", "final", "fn", "for", "if", "impl", "in", "let",
   "loop", "macro", "match", "mod", "move", "mut", "override", "priv", "pub", "ref", "return",
   "Self", "self", "static", "struct", "super", "trait", "true", "try", "type", "typeof", "unsafe",
   "unsized", "use", "virtual", "where", "while", "yield"]

/-- Any word. -/
def atAnyWord : At
  | .ident _ :: _ => true
  | _ => false

/-- One of some words. -/
def atWords (ws : List String) : At
  | .ident w :: _ => ws.contains w
  | _ => false

/-- A word. -/
def atWord (w : String) : At := atWords [w]

/-- A name. -/
def atName : At
  | .ident w :: _ => !keywords.contains w
  | _ => false

/-- A lifetime. -/
def atLifetime : At
  | .punct '\x27' true :: .ident _ :: _ => true
  | _ => false

/-- A group. -/
def atGroup (d : Delimiter) : At
  | .group d' _ :: _ => d = d'
  | _ => false

/-- A group in any brackets. -/
def atAnyGroup : At
  | .group _ _ :: _ => true
  | _ => false

/-- The literal is a number. -/
def isNumber (text : String) : Bool := text.toList.head?.any Char.isDigit

/-- The literal is a string of text. -/
def isText (text : String) : Bool := text.toList.head?.any fun c => c == '"' || c == 'r'

/-- A number. -/
def atNumber : At
  | .literal text :: _ => isNumber text
  | _ => false

/-- A string of text. -/
def atText : At
  | .literal text :: _ => isText text
  | _ => false

/-- A literal: a token, a truth value or a negative number. -/
def atLiteral : At
  | .literal _ :: _ => true
  | .ident w :: _ => w == "true" || w == "false"
  | .punct '-' _ :: rest => atNumber rest
  | _ => false

/-- The rest of a row behind an operator, of which all characters but the last are joint. -/
def behindOp : List Char → Code → Option Code
  | [], ts => some ts
  | [c], .punct c' _ :: ts => if c = c' then some ts else none
  | c :: cs, .punct c' true :: ts => if c = c' then behindOp cs ts else none
  | _, _ => none

/-- An operator. More of its kind may follow. -/
def atOp (s : String) : At := fun ts => (behindOp s.toList ts).isSome

/-- One of some operators. -/
def atOps (ops : List String) : At := fun ts => ops.any fun s => atOp s ts

/-- A colon that starts no double one. -/
def atColon : At := fun ts => atOp ":" ts && !atOp "::" ts

/-- The mark of a macro. -/
def atCall : At := fun ts => atOp "!" ts && !atOp "!=" ts

/-- A point that starts no range. -/
def atPoint : At := fun ts => atOp "." ts && !atOp ".." ts

/-! ## 3. Single tokens -/

/-- A word that satisfies a condition. -/
def wordSuch (p : String → Bool) : Parse Code := fun
  | .ident w :: rest => if p w then some ([.ident w], rest) else none
  | _ => none

/-- A name. -/
def name : Parse Code := wordSuch fun w => !keywords.contains w

/-- Any word. -/
def anyWord : Parse Code := wordSuch fun _ => true

/-- One of some words. -/
def oneOf (ws : List String) : Parse Code := wordSuch ws.contains

/-- A word. -/
def word (w : String) : Parse Code := oneOf [w]

/-- A name or one of some words. -/
def nameOr (ws : List String) : Parse Code :=
  wordSuch fun w => !keywords.contains w || ws.contains w

/-- An operator. -/
def sign (s : String) : Parse Code := fun ts =>
  (behindOp s.toList ts).map fun rest => (op s, rest)

/-- A lifetime. -/
def anyLifetime : Parse Code := fun
  | .punct '\x27' true :: .ident w :: rest => some (lifetime w, rest)
  | _ => none

/-- A literal. -/
def anyLiteral : Parse Code := fun
  | .literal w :: rest => some ([.literal w], rest)
  | .ident w :: rest => if w == "true" || w == "false" then some ([.ident w], rest) else none
  | .punct '-' _ :: .literal w :: rest =>
    if isNumber w then some (op "-" ++ [.literal w], rest) else none
  | _ => none

/-- A string of text. -/
def textLiteral : Parse Code := fun
  | .literal w :: rest => if isText w then some ([.literal w], rest) else none
  | _ => none

/-- The position that a literal names, as it is written. -/
def position? (text : List Char) : Option Code :=
  (Literal.index? text).map fun n => [.literal (toString n)]

/-- A position. -/
def position : Parse Code := fun
  | .literal w :: rest => (position? w.toList).map fun code => (code, rest)
  | _ => none

/-! ## 4. Groups -/

/-- A group that `p` reads all of. -/
def grouped (d : Delimiter) (p : Parse Code) : Parse Code := fun
  | .group d' inner :: rest =>
    if d = d' then (whole p inner).map fun code => ([.group d code], rest) else none
  | _ => none

/-- Any group, as it was read. -/
def anyGroup : Parse Code := fun
  | .group d inner :: rest => some ([.group d inner], rest)
  | _ => none

/-- A group in given brackets, as it was read. -/
def rawGroup (d : Delimiter) : Parse Code := do
  require (← sees (atGroup d))
  anyGroup

/-- The arguments of a macro behind its mark. -/
def macroCall : Parse Code := row [sign "!", anyGroup]

/-! ## 5. Several phrases -/

/-- `p`, if a condition holds. -/
def opt (here : At) (p : Parse Code) : Parse Code := do
  if ← sees here then p else return []

/-- A word, if it comes next. -/
def optWord (w : String) : Parse Code := opt (atWord w) (word w)

/-- An operator, if it comes next. -/
def optSign (s : String) : Parse Code := opt (atOp s) (sign s)

/-- `p` as long as a condition holds, in at most `fuel` steps. -/
def manyFrom (here : At) (p : Parse Code) : Nat → Parse Code
  | 0 => refuse
  | fuel + 1 => do
    if ← sees here then
      let front ← p
      let back ← manyFrom here p fuel
      return front ++ back
    else return []

/-- `p` as long as a condition holds. -/
def many (here : At) (p : Parse Code) : Parse Code := fun ts =>
  manyFrom here p (ts.length + 1) ts

/-- Items with the separator behind each, up to a place where a condition holds; the last may have
none. In at most `fuel` steps. -/
def listFrom {α : Type} (stop : At) (separator : String) (item : Parse α) :
    Nat → Parse (List (α × Code))
  | 0 => refuse
  | fuel + 1 => do
    if ← sees stop then return []
    let a ← item
    if ← sees stop then return [(a, [])]
    let s ← sign separator
    let rest ← listFrom stop separator item fuel
    return (a, s) :: rest

/-- Items with the separator behind each, up to a place where a condition holds. -/
def listUntil {α : Type} (stop : At) (separator : String) (item : Parse α) :
    Parse (List (α × Code)) := fun ts =>
  listFrom stop separator item (ts.length + 1) ts

/-- The tokens of items and their separators. -/
def listed (items : List (Code × Code)) : Code := items.flatMap fun p => p.1 ++ p.2

/-- Items with commas up to the end. -/
def commas (item : Parse Code) : Parse Code := do
  return listed (← listUntil atEnd "," item)

/-- Items with a separator between two and perhaps one at the end, up to a place where a condition
holds or no separator follows. In at most `fuel` steps. -/
def chainFrom (stop : At) (separator : String) (item : Parse Code) : Nat → Parse Code
  | 0 => refuse
  | fuel + 1 => do
    if ← sees stop then return []
    let a ← item
    if ← sees (atOp separator) then
      let s ← sign separator
      let rest ← chainFrom stop separator item fuel
      return a ++ s ++ rest
    else return a

/-- Items with a separator between two, up to a place where a condition holds or none follows. -/
def chain (stop : At) (separator : String) (item : Parse Code) : Parse Code := fun ts =>
  chainFrom stop separator item (ts.length + 1) ts

/-- Items with commas, of which those that satisfy a condition are written first. -/
def firstOnes (items : List ((Bool × Code) × Code)) : Code :=
  let part (b : Bool) := (items.filter fun p => p.1.1 == b).map fun p => (p.1.2, p.2)
  let front := part true
  let back := listed (part false)
  let joint := match front.getLast? with
    | some (_, []) => if back.isEmpty then [] else op ","
    | _ => []
  listed front ++ joint ++ back

end TypeMapper.Grammar
