import TypeMapper.Code.Grammar.Types
/-!
# Signatures

A signature is the head of a function that has a name: its qualities, its parameters, its result and
what must hold of them.

* `signature`: reading one; `atSignature`: whether one comes next.
* `functionBody`: the block behind it.
-/

namespace TypeMapper.Grammar

/-! ## 1. Parameters -/

/-- What follows a word, if it comes next. -/
def dropWord (w : String) (ts : Code) : Code := if atWord w ts then skip ts else ts

/-- The object of a method comes next. A path that starts with it is none, nor is its name before
the mark of further parameters. -/
def atReceiver : At := fun ts =>
  let shared := atOp "&" ts
  let ts := if shared then skip ts else ts
  let ts := dropWord "mut" (if shared && atLifetime ts then skip ts else ts)
  atWord "self" ts && (shared || !second (atOp "::") ts)
    && (shared || !(second (atOp ":") ts && third (atOp "...") ts))

/-- The object of a method, perhaps with its type. -/
def receiver (r : Rules) : Parse Code := do
  let shared ← opt (atOp "&") (row [sign "&", opt atLifetime anyLifetime])
  let object ← row [optWord "mut", word "self"]
  let type ← opt (fun ts => shared.isEmpty && atOp ":" ts) (row [sign ":", r.code (.type true)])
  return shared ++ object ++ type

/-- A parameter, and whether it is the mark of further ones. A type with arguments stands for a
parameter without a name. -/
def functionArgument (r : Rules) : Parse (Code × Bool) := do
  if ← sees (atOp "...") then return (← sign "...", true)
  if ← sees fun ts => atName ts && second (atOp "<") ts then
    return (words ["_"] ++ op ":" ++ (← r.code (.type true)), false)
  let front ← row [r.code (.pattern false), sign ":"]
  if ← sees (atOp "...") then return (front ++ (← sign "..."), true)
  return (front ++ (← r.code (.type true)), false)

/-- Parameters, in at most `fuel` steps. Only the first may be the object of a method, and only the
last the mark of further ones. -/
def functionArgumentsFrom (r : Rules) : Nat → Bool → Parse Code
  | 0, _ => refuse
  | fuel + 1, isFirst => do
    if ← sees atEnd then return []
    let front ← attributes r
    let (argument, isLast) ← if ← sees atReceiver then do
        require isFirst
        pure (← receiver r, false)
      else functionArgument r
    if ← sees atEnd then return front ++ argument
    let comma ← sign ","
    require (!isLast || (← sees atEnd))
    let more ← functionArgumentsFrom r fuel false
    return front ++ argument ++ comma ++ more

/-! ## 2. Signatures -/

/-- A signature comes next; `safe` is whether it may say that it is safe to call. -/
def atSignature (safe : Bool) : At := fun ts =>
  let ts := dropWord "async" (dropWord "const" ts)
  let ts := if safe && atWord "safe" ts then skip ts else dropWord "unsafe" ts
  let ts := if atWord "extern" ts then
      if second atText ts then skip (skip ts) else skip ts
    else ts
  atWord "fn" ts

/-- A signature. -/
def signature (r : Rules) : Parse Code :=
  row [optWord "const", optWord "async", optWord "unsafe", optWord "safe", convention, word "fn",
    name, parameters r,
    grouped .paren fun ts => functionArgumentsFrom r (ts.length + 1) true ts,
    result r true, whereClause r]

/-- The block of a function. -/
def functionBody (r : Rules) : Parse Code := describedBlock r

/-- A signature says that it is safe to call. -/
def atSafe : At := fun ts => atWord "safe" (dropWord "async" (dropWord "const" ts))

end TypeMapper.Grammar
