import TypeMapper.Code.Grammar.Phrase
/-!
# Imports

An import is a name, a renamed one, all names of a module, or several imports in braces. Inside
braces an import of an item may start at the root of all crates.

* `importRule`: an import.
-/

namespace TypeMapper.Grammar

/-- A word of an import, and what it leads to. -/
def importWord (r : Rules) : Parse Code := do
  let front ← anyWord
  if ← sees (atOp "::") then row [pure front, sign "::", r.code (.importTree false)]
  else if ← sees (atWord "as") then row [pure front, word "as", nameOr ["_"]]
  else return front

/-- One of several imports; `root` is whether it may start at the root of all crates. -/
def importIn (r : Rules) (root : Bool) : Parse Spelling := do
  let mark ← opt (fun _ => root) (optSign "::")
  let tree ← r (.importTree (root && mark.isEmpty))
  return if mark.isEmpty then tree else { tree with form := .rooted }

/-- The imports start at the root of all crates somewhere. -/
def Form.isRooted : Form → Bool
  | .rooted => true
  | _ => false

/-- An import. -/
def importRule (r : Rules) (root : Bool) : Parse Spelling := do
  let ts ← get
  if atName ts || atWords ["self", "super", "crate", "try"] ts then plainly (importWord r)
  else if atOp "*" ts then plainly (sign "*")
  else
    fun
    | .group .brace inner :: rest =>
      (whole (listUntil atEnd "," (importIn r root)) inner).map fun items =>
        let code := braces (listed (items.map fun p => (p.1.code, p.2)))
        (⟨code, if items.any fun p => p.1.form.isRooted then .rooted else .plain⟩, rest)
    | _ => none

end TypeMapper.Grammar
